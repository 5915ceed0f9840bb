import SlimInterface.Channel.Ssdo.Transmit

/-!
# SSDO reception

Frames the network received wait in a queue of four and are posted to the remote
side one by one. A frame is offered only after the remote side has shown the
sequence number of the one before it; until then it waits in a cache, in front of
the queue.
-/

namespace SlimInterface

/-- Frames the queue holds. -/
def receiveDepth : Nat := 4

/-- What the receiving side does next. -/
inductive ReceiveState
  | waitForFrame
  | repostFrame
  deriving DecidableEq, Repr

/-- The word a state is written with. -/
def ReceiveState.name : ReceiveState → String
  | waitForFrame => "WaitForFrame"
  | repostFrame => "RepostFrame"

/-- The receiving side of an SSDO channel. -/
structure Receive where
  id : UInt8
  buffer : BufferId
  state : ReceiveState
  /-- The number of the last posted frame, or of the first one. -/
  seq : SeqNr
  /-- The last posted frame is not yet acknowledged. -/
  outstanding : Bool
  /-- Received frames, oldest first. -/
  queue : List Bytes
  /-- The frame to be posted next. -/
  cached : Option Bytes
  status : Status
  deriving DecidableEq, Repr

namespace Receive

variable {ω σ : Type}

/-- A line about a receiving side. -/
def line (id : UInt8) (level : Level) (message : String) : Line :=
  (ChannelTag.mk "ssdo-rx" id.toNat).line level message

/-- Open the receiving side on a buffer. -/
def create (id : UInt8) (buffer : BufferId) (status : Status) : Op (Station ω) Receive := do
  Frame.checkBuffer buffer
  Op.log (line id .info ("Producing channel created on " ++ buffer.text))
  pure ⟨id, buffer, .waitForFrame, .second, false, [], none, status⟩

/-- Queue a frame the network received. -/
def accept (payload : Bytes) : Op Receive Unit := do
  let r ← Op.read
  if Frame.maxPayload < payload.length then Op.fail .outOfBounds
  else if receiveDepth ≤ r.queue.length then Op.fail .fifoFull
  else Op.update fun r => { r with queue := r.queue ++ [payload] }

/-- Go to another state. -/
def moveTo (state : ReceiveState) : Op (Receive × σ) Unit := do
  let (r, _) ← Op.read
  Op.log (line r.id .trace (r.state.name ++ " -> " ++ state.name))
  Op.onFirst (Op.update fun r => { r with state })

/-- Forget the queued frames and the cached one. -/
def destroy : Op (Receive × σ) Unit := do
  let (r, _) ← Op.read
  Op.onFirst (Op.update fun r => { r with queue := [], cached := none })
  moveTo .waitForFrame
  Op.log (line r.id .info "Channel destroyed")

/-- Whether the remote side can take a frame. An acknowledge that has arrived is taken note
of: the next frame carries the other number. -/
def ready : Op (Receive × Station ω) Bool := do
  let (r, _) ← Op.read
  if r.outstanding then
    let acknowledged ← Op.onSecond (Station.onBench (r.status.ssdoTxFlag r.id))
    if acknowledged = r.seq then
      Op.onFirst (Op.update fun r => { r with outstanding := false, seq := r.seq.flip })
      pure true
    else pure false
  else pure true

/-- Offer a frame. Answers `false` while the one before it is not acknowledged. -/
def post (payload : Bytes) : Op (Receive × Station ω) Bool := do
  if ← ready then
    let (r, _) ← Op.read
    Op.onSecond (Site.onStream (Stream.editBuffer r.buffer (Frame.mk r.seq payload).write))
    Op.onFirst (Op.update fun r => { r with outstanding := true, cached := none })
    Op.log (line r.id .debug ("Posted frame with " ++ r.seq.name))
    pure true
  else pure false

/-- One step of the receiving side. -/
def process : Op (Receive × Station ω) Unit := do
  let (r, _) ← Op.read
  match r.state, r.queue with
  | .waitForFrame, [] => pure ()
  | .waitForFrame, payload :: rest =>
    Op.onFirst (Op.update fun r => { r with queue := rest, cached := some payload })
    if ← post payload then pure ()
    else
      Op.log (line r.id .debug "Remote side busy, frame cached for repost")
      moveTo .repostFrame
  | .repostFrame, _ =>
    if ← post (r.cached.getD []) then moveTo .waitForFrame
    else pure ()

end Receive

end SlimInterface
