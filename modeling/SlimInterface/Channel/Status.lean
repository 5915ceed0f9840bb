import SlimInterface.Channel.Station
import SlimInterface.Wire.Field
import SlimInterface.Wire.SeqNr

/-!
# The status channel

The remote side publishes a status buffer: the relative time, whether it is busy,
and the acknowledges of the logbook and SSDO channels. A pre-action hands the time
to the application, a post-action keeps the acknowledges in registers where the
channels find them. Towards the remote side another post-action publishes the
local SSDO acknowledges.

Since registers are filled after a transfer and published before the next one,
either side sees the other's acknowledge one cycle late.
-/

namespace SlimInterface

/-- The number of logbook channels. -/
def logChannelCount : Nat := 1

/-- The number of SSDO channels. -/
def ssdoChannelCount : Nat := 1

/-- A status channel, known by the position of its registers on the bench. -/
structure Status where
  registers : Nat
  deriving DecidableEq, Repr

/-- Told the relative time once per cycle, before the transfer. -/
abbrev TimeSync (ω : Type) := TimeStamp → Op ω Unit

namespace Status

variable {ω σ : Type}

/-! ## The layout of the two status buffers -/

def outSize : Nat := 12
def inSize : Nat := 4
def timeLowOffset : Nat := 0
def timeHighOffset : Nat := 4
def iccOffset : Nat := 8
def logOffset : Nat := 9
def ssdoOffset : Nat := 10
def ssdoRxOffset : Nat := 0

/-! ## The three actions -/

/-- Before the transfer: read the time of the previous one and tell the application. -/
def timeSyncAction (registers : Nat) (notify : TimeSync ω) : Op (Bytes × Bench ω) Unit := do
  let p ← Op.read
  let low ← Op.ofExcept (Bytes.dwordAt p.1 timeLowOffset)
  let high ← Op.ofExcept (Bytes.dwordAt p.1 timeHighOffset)
  let time : TimeStamp := ⟨low, high⟩
  Op.onSecond (Op.update (Bench.setRegisters registers fun r => { r with time }))
  Op.onSecond <| Op.reporting
    (fun e => .tagged .error "Status" ("Time synchronisation callback failed: " ++ e.message))
    (fun _ => .timeSyncFailed)
    (Bench.onWorld (notify time))

/-- After the transfer: keep the remote acknowledges. -/
def cacheAction (registers : Nat) : Op (Bytes × Bench ω) Unit := do
  let p ← Op.read
  let icc ← Op.ofExcept (Bytes.byteAt p.1 iccOffset)
  let logTx ← Op.ofExcept (Bytes.byteAt p.1 logOffset)
  let ssdoTx ← Op.ofExcept (Bytes.wordAt p.1 ssdoOffset)
  Op.onSecond (Op.update (Bench.setRegisters registers fun r => { r with icc, logTx, ssdoTx }))

/-- After the transfer: publish the local acknowledges with the next one. -/
def publishAction (registers : Nat) : Op (Bytes × Bench ω) Unit := do
  let p ← Op.read
  Op.onFirst (Field.putWord ssdoRxOffset (p.2.registersAt registers).ssdoRx)

/-! ## Opening the channel -/

/-- A status buffer has to exist and have exactly its size. -/
def checkBuffer (id : BufferId) (size : Nat) : Op (Station ω) Unit := do
  let s ← Op.read
  match s.stream.descriptor? id with
  | none => do
    Op.log (.tagged .error "Status" (id.text ++ " is not part of the stream"))
    Op.fail .invalidParameter
  | some d =>
    if d.size = size then pure ()
    else do
      Op.log (.tagged .error "Status" (id.text ++ " has " ++ toString d.size ++ " bytes, " ++
        toString size ++ " expected"))
      Op.fail (.bufferSizeMismatch size d.size)

/-- Open the channel on the buffer the remote side publishes (`outId`) and the one published
to it (`inId`), and attach its three actions. -/
def create (outId inId : BufferId) (notify : TimeSync ω) : Op (Station ω) Status := do
  checkBuffer outId outSize
  checkBuffer inId inSize
  let registers ← Station.onBench Bench.addRegisters
  Site.onStream (Stream.register .pre outId (timeSyncAction registers notify))
  Site.onStream (Stream.register .post outId (cacheAction registers))
  Site.onStream (Stream.register .post inId (publishAction registers))
  Op.log (.tagged .info "Status"
    ("Initialised on " ++ outId.text ++ " (out) and " ++ inId.text ++ " (in)"))
  pure ⟨registers⟩

/-- Close the channel. Its registers stay for whoever still holds them. -/
def exit : Op σ Unit := Op.log (.tagged .info "Status" "Exit")

/-! ## Registers -/

/-- The registers of the channel. -/
def read (s : Status) (b : Bench ω) : Registers := b.registersAt s.registers

/-- Whether the remote side's internal channels are busy: the lowest bit of its register. -/
def icc (s : Status) (b : Bench ω) : SeqNr := SeqNr.ofBit ((s.read b).icc.toNat.testBit 0)

/-- The relative time of the latest cycle. -/
def time (s : Status) (b : Bench ω) : TimeStamp := (s.read b).time

/-- Channels are numbered from zero. -/
def checkChannel (channel : UInt8) (count : Nat) : Op σ Unit :=
  if channel.toNat < count then pure ()
  else do
    Op.log (.tagged .error "Status" ("Channel " ++ toString channel.toNat ++ " out of range"))
    Op.fail .invalidParameter

/-- The sequence number of a channel in a register. -/
def flag (register : UInt32) (channel : UInt8) : Except Fault SeqNr :=
  match SeqNr.fromRegister register channel.toNat with
  | some seq => .ok seq
  | none => .error .invalidParameter

/-- The remote acknowledge of a logbook channel. -/
def logTxFlag (s : Status) (channel : UInt8) : Op (Bench ω) SeqNr := do
  checkChannel channel logChannelCount
  let b ← Op.read
  Op.ofExcept (flag (s.read b).logTx.toUInt32 channel)

/-- The remote acknowledge of an SSDO channel. -/
def ssdoTxFlag (s : Status) (channel : UInt8) : Op (Bench ω) SeqNr := do
  checkChannel channel ssdoChannelCount
  let b ← Op.read
  Op.ofExcept (flag (s.read b).ssdoTx.toUInt32 channel)

/-- The local acknowledge of an SSDO channel. -/
def ssdoRxFlag (s : Status) (channel : UInt8) : Op (Bench ω) SeqNr := do
  checkChannel channel ssdoChannelCount
  let b ← Op.read
  Op.ofExcept (flag (s.read b).ssdoRx.toUInt32 channel)

/-- A register with the bit of a channel set to a sequence number. -/
def withFlag (register : UInt16) (channel : UInt8) (seq : SeqNr) : UInt16 :=
  let mask : UInt16 := 1 <<< channel.toUInt16
  match seq with
  | .first => register &&& ~~~mask
  | .second => register ||| mask

/-- Set the local acknowledge of an SSDO channel. -/
def setSsdoRxFlag (s : Status) (channel : UInt8) (seq : SeqNr) : Op (Bench ω) Unit := do
  checkChannel channel ssdoChannelCount
  let b ← Op.read
  let register := withFlag (s.read b).ssdoRx channel seq
  Op.update (Bench.setRegisters s.registers fun r => { r with ssdoRx := register })
  Op.log (.tagged .trace "Status" ("SSDO rx register now " ++ Numeral.hex 4 register.toNat))

end Status

end SlimInterface
