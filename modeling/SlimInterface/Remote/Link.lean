import SlimInterface.Channel.Logbook.Entry
import SlimInterface.Endpoint.Config

/-!
# Links

A link stands in for the physical transfer. It holds the remote copies of the two
moving parts of the image: a transfer copies the local producer part into the
remote copy and the remote consumer part into the local one. The remote side
works on the copies: it publishes bytes of consumed buffers, looks at produced
ones, and takes logbook entries.

The link keeps the layout of the whole image and finds a buffer in a part by its
distance from the part's first buffer. Ids outside a part are refused.
-/

namespace SlimInterface

/-- The remote copies of both moving parts. -/
structure Link where
  descriptors : List Descriptor
  /-- Offset of the consumer part in the image. -/
  consumerBase : Nat
  /-- Offset of the producer part in the image. -/
  producerBase : Nat
  consumer : Bytes
  producer : Bytes
  /-- Transfers made so far. -/
  transfers : Nat
  statusOut : BufferId
  logBuffer : BufferId
  deriving DecidableEq, Repr

namespace Link

variable {σ : Type}

/-- A link for a configuration, with zeroed copies. -/
def create (config : Config) : Op σ Link := do
  Op.ofExcept config.validate
  let ds := config.descriptors
  let consumerBase := (Descriptor.spanOf ds config.consAck.index config.consAck.index).start
  let producerBase := (Descriptor.spanOf ds config.prodAck.index config.prodAck.index).start
  let consumerSize := producerBase - consumerBase
  let producerSize := Descriptor.totalSize ds - producerBase
  Op.log (.tagged .debug "Link" ("Consumer image " ++ toString consumerSize ++
    " bytes, producer image " ++ toString producerSize ++ " bytes"))
  pure {
    descriptors := ds, consumerBase, producerBase
    consumer := List.replicate consumerSize 0
    producer := List.replicate producerSize 0
    transfers := 0
    statusOut := config.statusOut
    logBuffer := config.logBuffer }

/-! ## The exchange -/

/-- One transfer: the producer part is handed in, the answer is the consumer part. Both have
to have the sizes of the copies. -/
def exchange (consumerSize : Nat) (producer : Bytes) : Op Link Bytes := do
  let l ← Op.read
  if consumerSize ≠ l.consumer.length then
    Op.fail (.bufferSizeMismatch l.consumer.length consumerSize)
  else if producer.length ≠ l.producer.length then
    Op.fail (.bufferSizeMismatch l.producer.length producer.length)
  else
    Op.write { l with producer, transfers := l.transfers + 1 }
    Op.log (.tagged .trace "Link" ("Transfer #" ++ toString (l.transfers + 1)))
    pure l.consumer

/-- The transfer of an endpoint whose surroundings hold the link: `get` finds the link
there, `put` places it back. -/
def transfer (get : σ → Link) (put : Link → σ → σ) : Transfer σ := fun producer => do
  let (consumer, _) ← Op.read
  let received ← Op.onSecond ((exchange consumer.length producer).within get put)
  Op.onFirst (Op.write received)

/-! ## The remote side -/

/-- Where a buffer lies in a part of the image that starts at `base` and has `size` bytes. -/
def spanIn (l : Link) (id : BufferId) (base size : Nat) : Except Fault Span :=
  match l.descriptors[id.index]? with
  | none => .error .invalidParameter
  | some d =>
    if d.offset < base then .error .invalidParameter
    else if size < d.offset - base + d.size then .error .invalidParameter
    else .ok ⟨d.offset - base, d.size⟩

/-- Where a buffer lies in the consumer part. -/
def consumerSpan (l : Link) (id : BufferId) : Except Fault Span :=
  l.spanIn id l.consumerBase l.consumer.length

/-- Where a buffer lies in the producer part. -/
def producerSpan (l : Link) (id : BufferId) : Except Fault Span :=
  l.spanIn id l.producerBase l.producer.length

/-- Publish bytes of a consumed buffer. The endpoint sees them after the next transfer. -/
def publish (id : BufferId) (offset : Nat) (data : Bytes) : Op Link Unit := do
  let l ← Op.read
  let span ← Op.ofExcept (l.consumerSpan id)
  if span.size < offset + data.length then Op.fail .outOfBounds
  else Op.write { l with consumer := l.consumer.overwrite (span.start + offset) data }

/-- Bytes of a buffer would begin, or end within it, where there are no positions any more. -/
def overflows (l : Link) (id : BufferId) (offset length : Nat) : Bool :=
  match l.consumerSpan id with
  | .error _ => false
  | .ok span => UInt64.size ≤ span.start + offset ∨ UInt64.size ≤ offset + length

/-- Publish bytes at any offset. Positions are words of 64 bits, and the two sums are made before
the end of the bytes is compared with that of the buffer. There is no outcome at all if one of
them is no word. -/
def publish? (id : BufferId) (offset : Nat) (data : Bytes) (l : Link) :
    Option (Outcome Link Unit) :=
  if l.overflows id offset data.length then none else some ((publish id offset data).run l)

/-- A produced buffer as of the last transfer. -/
def produced (l : Link) (id : BufferId) : Except Fault Bytes := do
  let span ← l.producerSpan id
  return span.read l.producer

/-- Publish the relative time of the next cycle. -/
def setTime (time : TimeStamp) : Op Link Unit := do
  let l ← Op.read
  publish l.statusOut Status.timeLowOffset (Bytes.littleEndian 8 time.toWord.toNat)

/-- The acknowledge byte of the logbook with the bit of a channel set to `bit`. -/
def acknowledged (flags : UInt8) (channel : UInt8) (bit : UInt8) : UInt8 :=
  (flags &&& ~~~(1 <<< channel)) ||| (bit <<< channel)

/-- Take the outstanding entry of a logbook channel, if there is one, and acknowledge it.
The acknowledge is given before the entry is read.

The acknowledge byte is at a fixed distance from the start of the status buffer, whatever
the size of that buffer. There is no outcome at all if it lies behind the end of the
consumer part. -/
def takeLogEntry? (channel : UInt8) (l : Link) : Option (Outcome Link (Option LogEntry)) :=
  let refuse (e : Fault) : Option (Outcome Link (Option LogEntry)) := some ⟨.error e, l, []⟩
  if logChannelCount ≤ channel.toNat then refuse .invalidParameter
  else
    match l.produced l.logBuffer with
    | .error e => refuse e
    | .ok [] => refuse .invalidBuffer
    | .ok (first :: rest) =>
      match l.consumerSpan l.statusOut with
      | .error e => refuse e
      | .ok status =>
        let place := status.start + Status.logOffset
        match l.consumer[place]? with
        | none => none
        | some flags =>
          let bit := first &&& 1
          if bit = (flags &&& (1 <<< channel)) >>> channel then some ⟨.ok none, l, []⟩
          else
            let l' := { l with consumer := l.consumer.set place (acknowledged flags channel bit) }
            match LogEntry.read (first :: rest) with
            | .error e => some ⟨.error e, l', []⟩
            | .ok entry =>
              some ⟨.ok (some entry), l', [.tagged .debug "Link" ("Logbook channel " ++
                toString channel.toNat ++ " delivered " ++ entry.inspect)]⟩

end Link

end SlimInterface
