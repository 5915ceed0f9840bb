import SlimInterface.Monitor.Document
import SlimInterface.Operation

/-!
# The monitor channel

Snapshots travel from an endpoint to a monitor through a bounded channel. Publishing never
waits: when the channel is full or the monitor is gone, the snapshot is dropped and counted. The
monitor receives one snapshot after the other, makes a document of it and hands that on, until
the publisher is gone.

`BoundedChannel` is what both sides use of a channel. Counts are words of 64 bits:
`MonitorChannel.publish?` and `MonitorChannel.turn?` have no outcome when one more does not fit.
-/

namespace SlimInterface

/-- What offering a message comes to. -/
inductive Offer
  | taken
  | full
  /-- Nobody is there to receive it. -/
  | disconnected
  deriving DecidableEq, Repr

/-- What asking for a message comes to. -/
inductive Receipt (α : Type)
  | message (content : α)
  /-- Nobody is there to send any. -/
  | disconnected
  deriving DecidableEq, Repr

/-- A bounded channel of messages of type `α`, with a sender and a receiver. -/
class BoundedChannel (σ : Type) (α : outParam Type) where
  /-- A channel of a capacity, with both ends. -/
  bounded : UInt64 → σ
  /-- Offer a message without waiting. -/
  trySend : α → σ → Offer × σ
  /-- Ask for a message. There is no answer as long as the receiver has to wait. -/
  receive : σ → Option (Receipt α × σ)
  dropSender : σ → σ
  dropReceiver : σ → σ

/-- A monitor channel: the channel, and what its publisher counts. -/
structure MonitorChannel (σ : Type) where
  channel : σ
  /-- Snapshots dropped so far. -/
  dropped : UInt64
  deriving DecidableEq, Repr

namespace MonitorChannel

variable {σ ω ε : Type} [BoundedChannel σ Diagnosis]

/-- A line about the monitor. -/
def line (level : Level) (message : String) : Line := .tagged level "Monitor" message

/-- A new channel; it has room for one snapshot at least. -/
def create (capacity : UInt64) : MonitorChannel σ := ⟨BoundedChannel.bounded (max capacity 1), 0⟩

/-- Offer a snapshot. Answers whether it is on its way. -/
def publish (s : Snapshot) : Op (MonitorChannel σ) Bool := do
  let m ← Op.read
  let (offer, channel) := BoundedChannel.trySend s.diagnosis m.channel
  match offer with
  | .taken =>
    Op.write { m with channel }
    pure true
  | .full =>
    Op.write { channel, dropped := m.dropped + 1 }
    Op.log (line .trace "Consumer busy, snapshot dropped")
    pure false
  | .disconnected =>
    Op.write { channel, dropped := m.dropped + 1 }
    pure false

/-- The call of publishing. There is no outcome at all if the count is no word any more. -/
def publish? (s : Snapshot) (m : MonitorChannel σ) : Option (Outcome (MonitorChannel σ) Bool) :=
  let after := (publish s).run m
  if after.state.dropped < m.dropped then none else some after

/-- What the monitor has to go on with: the count of the snapshots it handled so far, its channel,
and what became of the sink. -/
abbrev Duty (σ ω : Type) := UInt64 × σ × ω

/-- One turn of the monitor: receive a snapshot and hand its document to `sink`. The monitor goes
on, unless the publisher is gone or the serializer refuses. -/
def turn? (serializer : Serializer ε) (sink : String → ω → ω) :
    Duty σ ω → Option (Duty σ ω ⊕ Except ε UInt64 × σ × ω)
  | (handled, c, w) =>
    match BoundedChannel.receive c with
    | none => none
    | some (.disconnected, c) => some (.inr (.ok handled, c, w))
    | some (.message d, c) =>
      match d.document serializer with
      | .error e => some (.inr (.error e, c, w))
      | .ok text =>
        if handled + 1 < handled then none else some (.inl (handled + 1, c, sink text w))

/-- Turn after turn. The answer is the count of the documents, or the error of the serializer. -/
def serve? (serializer : Serializer ε) (sink : String → ω → ω) (duty : Duty σ ω) :
    Option (Except ε UInt64 × σ × ω) :=
  have : Nonempty (Except ε UInt64 × σ × ω) := ⟨.ok duty.1, duty.2⟩
  repeatM (turn? serializer sink) duty

/-- What is logged when the monitor ends by itself. -/
def farewell : Except ε UInt64 → List Line
  | .ok handled => [line .debug ("Publisher gone after " ++ toString handled ++ " snapshots")]
  | .error _ => []

/-- Run the monitor at the receiving end, which is closed when it ends. -/
def monitor? (serializer : Serializer ε) (sink : String → ω → ω) (c : σ) (w : ω) :
    Option (Outcome (σ × ω) (Except ε UInt64)) :=
  (serve? serializer sink (0, c, w)).map fun (answer, c, w) =>
    ⟨.ok answer, (BoundedChannel.dropReceiver c, w),
      line .info "Listening for snapshots" :: farewell answer⟩

end MonitorChannel

end SlimInterface
