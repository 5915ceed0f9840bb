import SlimInterface.Dictionary.Object
import SlimInterface.Dictionary.TripleBuffer
import SlimInterface.Wire.SeqNr

/-!
# The configuration channel

Each call of `ConfigChannel.send` takes the next object of the queue, writes it
into the channel's buffer behind a sequence number, and raises the acknowledge
bit. The sequence number flips with every attempt.

An object that is not 1, 2, 4 or 8 bytes wide stays at the head of the queue; by
then the header of the buffer has been written.
-/

namespace SlimInterface

/-- The sending end: a buffer and the number of the latest attempt. -/
structure ConfigOutput where
  buffer : TripleBuffer
  seq : SeqNr
  deriving DecidableEq, Repr

namespace ConfigOutput

variable {σ : Type}

/-- The size of a channel buffer. -/
def bufferSize : Nat := 12

/-- Open the channel on a new buffer. -/
def create (id : BufferId) (size : Nat) : Op σ ConfigOutput :=
  if size ≠ bufferSize then do
    Op.log (.tagged .error "OCC" ("Buffer " ++ id.text ++ " has " ++ toString size ++ " bytes"))
    Op.fail (.bufferSizeMismatch bufferSize size)
  else do
    let buffer ← TripleBuffer.create id size
    Op.log (.tagged .info "OCC" ("Initialised on " ++ id.text))
    pure ⟨buffer, .first⟩

/-- Close the channel. -/
def exit (o : ConfigOutput) : Op σ Unit := o.buffer.destroy

/-! ## The layout of a channel buffer -/

def seqOffset : Nat := 0
def subIndexOffset : Nat := 1
def indexOffset : Nat := 2
def lowOffset : Nat := 4
def highOffset : Nat := 8

/-- Write the value of an object, as wide as the object says. -/
def putValue (object : ConfigObject) : Op TripleBuffer Unit :=
  if object.size = 1 then TripleBuffer.putByte lowOffset object.low.toUInt8
  else if object.size = 2 then TripleBuffer.putWord lowOffset object.low.toUInt16
  else if object.size = 4 then TripleBuffer.putDword lowOffset object.low
  else if object.size = 8 then do
    TripleBuffer.putDword lowOffset object.low
    TripleBuffer.putDword highOffset object.high
  else do
    Op.log (.tagged .error "OCC" ("Invalid object size " ++ toString object.size.toNat))
    Op.fail (.invalidSizeOfObject object.size)

/-- Write an object with a sequence number: the header first, then the value. -/
def putObject (seq : SeqNr) (object : ConfigObject) : Op TripleBuffer Unit := do
  TripleBuffer.putByte seqOffset seq.toByte
  TripleBuffer.putByte subIndexOffset object.subIndex
  TripleBuffer.putWord indexOffset object.index
  putValue object

end ConfigOutput

/-- The channel with its acknowledge register and the objects that wait for it. -/
structure ConfigChannel where
  output : ConfigOutput
  ack : AckRegister
  queue : ObjectQueue
  deriving DecidableEq, Repr

namespace ConfigChannel

variable {α : Type}

/-- Run an operation on the buffer of the channel. -/
def onBuffer (op : Op TripleBuffer α) : Op ConfigChannel α :=
  op.within (·.output.buffer) fun b c => { c with output := { c.output with buffer := b } }

/-- Run an operation on the acknowledge register. -/
def onAck (op : Op AckRegister α) : Op ConfigChannel α :=
  op.within (·.ack) fun r c => { c with ack := r }

/-- Queue what an access of the dictionary forwards. -/
def access (event : DictionaryEvent) (index : UInt16) (subIndex : UInt8) (data : Bytes) :
    Op ConfigChannel Unit :=
  (ObjectQueue.access event index subIndex data).within (·.queue) fun queue c => { c with queue }

/-- Send the next object, if there is one. -/
def send : Op ConfigChannel Unit := do
  let c ← Op.read
  match c.queue.head? with
  | none => pure ()
  | some object =>
    let seq := c.output.seq.flip
    Op.update fun c => { c with output := { c.output with seq := seq } }
    onBuffer (ConfigOutput.putObject seq object)
    onAck c.output.buffer.setAck
    Op.update fun c => { c with queue := c.queue.advance }
    Op.log (.tagged .trace "OCC" ("Posted " ++
      ConfigObject.place object.index object.subIndex ++ " with " ++ seq.name))

end ConfigChannel

end SlimInterface
