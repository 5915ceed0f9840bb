import SlimInterface.Channel.Logbook.Entry
import SlimInterface.Channel.Status

/-!
# Logbook channels

A logbook channel owns one produced buffer and has at most one entry outstanding.
Posting an entry locks the channel. `process` unlocks it when the remote side
shows the sequence number of the entry, or gives the entry up when the transmit
timer expired; either way the next entry carries the other sequence number.
-/

namespace SlimInterface

/-- Cycles an entry may stay unacknowledged. -/
def logTimeoutCycles : Nat := 100

/-- What became of an entry that was posted. -/
inductive Posting
  | successful
  /-- The entry before it is still outstanding. -/
  | busy
  deriving DecidableEq, Repr

/-- The word a posting is written with. -/
def Posting.name : Posting → String
  | successful => "Successful"
  | busy => "Busy"

/-- A logbook channel. -/
structure LogChannel where
  id : UInt8
  buffer : BufferId
  /-- The number of the outstanding entry, or of the next one. -/
  seq : SeqNr
  /-- An entry is outstanding. -/
  locked : Bool
  timer : Timer
  status : Status
  deriving DecidableEq, Repr

namespace LogChannel

variable {ω : Type}

/-- A line about a logbook channel. -/
def line (id : UInt8) (level : Level) (message : String) : Line :=
  (ChannelTag.mk "logbook" id.toNat).line level message

/-- Open a channel on a buffer of a stream, and let the stream advance its timer. -/
def create (id : UInt8) (buffer : BufferId) (status : Status) : Op (Station ω) LogChannel := do
  if logChannelCount ≤ id.toNat then
    Op.log (.tagged .error "Logbook" ("Invalid channel id " ++ toString id.toNat))
    Op.fail .invalidParameter
  else
    let s ← Op.read
    match s.stream.descriptor? buffer with
    | none =>
      Op.log (.tagged .error "Logbook" (buffer.text ++ " is not part of the stream"))
      Op.fail .invalidParameter
    | some d =>
      if d.size ≠ LogEntry.bufferSize then
        Op.log (.tagged .error "Logbook" (buffer.text ++ " has " ++ toString d.size ++ " bytes"))
        Op.fail (.bufferSizeMismatch LogEntry.bufferSize d.size)
      else
        let timer ← Station.onBench (Bench.addTimer logTimeoutCycles)
        Site.onStream (Stream.register .post buffer (Bench.tick timer))
        Op.log (line id .info ("Channel created on " ++ buffer.text))
        pure ⟨id, buffer, .second, false, timer, status⟩

/-- Close the channel and stop its timer. -/
def destroy (c : LogChannel) : Op (Bench ω) Unit := do
  Op.update (Bench.setCounters c.timer.stop)
  Op.log (line c.id .info "Channel destroyed")

/-- The buffer of the channel, which the application may fill in place; none while an entry
is outstanding. -/
def currentBuffer? (c : LogChannel) (s : Stream (Bench ω)) : Option Bytes :=
  if c.locked then none else s.buffer? c.buffer

/-- Fill the buffer of the channel in place, unless an entry is outstanding. -/
def fill (edit : Bytes → Bytes) : Op (LogChannel × Station ω) Unit := do
  let (c, s) ← Op.read
  if (c.currentBuffer? s.stream).isSome then
    Op.onSecond (Site.onStream (Stream.editBuffer c.buffer (Op.update edit)))
  else pure ()

/-- Put an entry into the buffer, behind the sequence number of the channel. -/
def stage (seq : SeqNr) (e : LogEntry) : Op Bytes Unit := do
  e.write
  Field.putByte LogEntry.seqOffset seq.toByte

/-- Post an entry. A locked channel refuses it and stays as it is. -/
def post (e : LogEntry) : Op (LogChannel × Station ω) Posting := do
  let (c, _) ← Op.read
  if c.locked then
    Op.log (line c.id .debug "Post rejected, channel busy")
    pure .busy
  else
    Op.onSecond (Site.onStream (Stream.editBuffer c.buffer (stage c.seq e)))
    Op.onFirst (Op.update fun c => { c with locked := true })
    Op.onSecond (Station.onBench (Op.update (Bench.setCounters c.timer.start)))
    Op.log (line c.id .debug ("Posted entry with " ++ c.seq.name))
    pure .successful

/-- The channel after its entry was acknowledged or given up. -/
def release (c : LogChannel) : LogChannel := { c with seq := c.seq.flip, locked := false }

/-- Unlock the channel if its entry was acknowledged or the timer expired. An expired timer
is left running until the next post starts it again. -/
def process : Op (LogChannel × Bench ω) Unit := do
  let (c, b) ← Op.read
  if c.locked then
    let acknowledged ← Op.onSecond (c.status.logTxFlag c.id)
    if acknowledged = c.seq then
      Op.onFirst (Op.update release)
      Op.onSecond (Op.update (Bench.setCounters c.timer.stop))
      Op.log (line c.id .debug ("Entry acknowledged, next " ++ c.seq.flip.name))
    else if c.timer.state b.counters = .expired then
      Op.onFirst (Op.update release)
      Op.log (line c.id .warn "Transmit timeout, entry dropped")
    else pure ()
  else pure ()

end LogChannel

end SlimInterface
