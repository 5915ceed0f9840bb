import SlimInterface.Channel.Logbook.Entry
import SlimInterface.Channel.Ssdo.Frame
import SlimInterface.Channel.Status
import SlimInterface.Cycle.Stream

/-!
# Configurations

A configuration lists the sizes of all buffers and says which buffer serves which
purpose. `Config.validate` checks what concerns the image as a whole; whether a
buffer fits its channel is checked by the channel itself.
-/

namespace SlimInterface

/-- The shared memory of one interface. -/
structure Config where
  /-- Buffer sizes in the order of the ids. -/
  sizes : List Nat
  /-- The first buffer of the consumer part. -/
  consAck : BufferId
  /-- The first buffer of the producer part. -/
  prodAck : BufferId
  statusOut : BufferId
  statusIn : BufferId
  logBuffer : BufferId
  /-- SSDO frames of the remote side. -/
  ssdoConsumer : BufferId
  /-- SSDO frames for the remote side. -/
  ssdoProducer : BufferId
  deriving DecidableEq, Repr

namespace Config

variable {σ : Type}

/-- The size of an acknowledge register. -/
def ackSize : Nat := 4

/-- The reference layout: status, one SSDO channel, one logbook channel. -/
def reference : Config where
  sizes := [ackSize, Status.outSize, Frame.bufferSize, ackSize, Status.inSize, Frame.bufferSize,
    LogEntry.bufferSize]
  consAck := ⟨0⟩
  prodAck := ⟨3⟩
  statusOut := ⟨1⟩
  statusIn := ⟨4⟩
  logBuffer := ⟨6⟩
  ssdoConsumer := ⟨2⟩
  ssdoProducer := ⟨5⟩

/-- The size of a buffer; zero if there is no such buffer. -/
def sizeOf (c : Config) (id : BufferId) : Nat := c.sizes[id.index]?.getD 0

/-- Check the number of buffers, the order of the acknowledge registers, and that neither of
them is empty. -/
def validate (c : Config) : Except Fault Unit :=
  let count := c.sizes.length
  if count = 0 ∨ Stream.maxBufferCount < count then .error .invalidParameter
  else if count ≤ c.consAck.index ∨ count ≤ c.prodAck.index ∨ c.prodAck.index ≤ c.consAck.index then
    .error .invalidParameter
  else if c.sizeOf c.consAck = 0 ∨ c.sizeOf c.prodAck = 0 then .error .invalidBuffer
  else .ok ()

/-- Where the buffers lie. -/
def descriptors (c : Config) : List Descriptor := Descriptor.layout c.sizes

/-- The ids of the buffers in the consumer part. -/
def consumerIds (c : Config) : List BufferId :=
  (List.range (c.prodAck.index - c.consAck.index)).map fun i =>
    ⟨UInt8.ofNat (c.consAck.index + i)⟩

end Config

end SlimInterface
