import SlimInterface.Channel.Ssdo.Receive

/-!
# SSDO channels

An SSDO channel is a transmitting and a receiving side under one number. Nothing
either side accepted is dropped. The two sides do not wait for each other: when
one fails, the other still makes its step.
-/

namespace SlimInterface

/-- Both sides of an SSDO channel. -/
structure SsdoChannel where
  tx : Transmit
  rx : Receive
  deriving DecidableEq, Repr

namespace SsdoChannel

variable {ω τ α : Type}

/-- Run an operation on the transmitting side. -/
def onTx (op : Op (Transmit × τ) α) : Op (SsdoChannel × τ) α :=
  op.within (fun p => (p.1.tx, p.2)) fun q p => ({ p.1 with tx := q.1 }, q.2)

/-- Run an operation on the receiving side. -/
def onRx (op : Op (Receive × τ) α) : Op (SsdoChannel × τ) α :=
  op.within (fun p => (p.1.rx, p.2)) fun q p => ({ p.1 with rx := q.1 }, q.2)

/-- Open a channel: `consumer` holds the frames of the remote side, `producer` the frames
for it. -/
def create (id : UInt8) (consumer producer : BufferId) (status : Status) :
    Op (Station ω) SsdoChannel := do
  if ssdoChannelCount ≤ id.toNat then
    Op.log (.tagged .error "SSDO" ("Invalid channel id " ++ toString id.toNat))
    Op.fail .invalidParameter
  else
    let tx ← Transmit.create id consumer status
    let rx ← Receive.create id producer status
    pure ⟨tx, rx⟩

/-- One step of both sides. The first failure is reported, after both steps. -/
def process (net : Transport ω) : Op (SsdoChannel × Station ω) Unit := do
  let tx ← Op.attempt (onTx (Transmit.process net))
  let rx ← Op.attempt (onRx Receive.process)
  Op.ofExcept tx
  Op.ofExcept rx

/-- Close both sides. -/
def destroy : Op (SsdoChannel × Bench ω) Unit := do
  onTx Transmit.destroy
  onRx Receive.destroy

end SsdoChannel

end SlimInterface
