import SlimInterface.Channel.Ssdo.Frame
import SlimInterface.Channel.Status

/-!
# SSDO transmission

Frames the remote side publishes are handed to the network. A frame counts as new
when its sequence number differs from the last acknowledged one. It is captured,
sent until the network accepts it, polled until it is out, and only then
acknowledged. When the destination cannot be resolved, the frame is sent again
after a pause counted in cycles.

A buffer that holds no frame is ignored. It is mentioned once in the log; it is
mentioned again only after its sequence byte changed or a proper frame was seen.
-/

namespace SlimInterface

/-- Cycles to wait before sending again when the destination could not be resolved. -/
def retryCycles : Nat := 50

/-- How far a transmission is. -/
inductive TxProgress
  | pending
  | finished
  /-- The destination address could not be resolved. -/
  | arpFailed
  deriving DecidableEq, Repr

/-- The network behind the SSDO channels. -/
structure Transport (ω : Type) where
  /-- Start sending a payload on a channel. -/
  send : UInt8 → Bytes → Op ω Unit
  /-- How far the transmission started last on a channel is. -/
  poll : UInt8 → ω → TxProgress × ω

/-- Ask the network how far a transmission is. -/
def Transport.ask {ω : Type} (net : Transport ω) (id : UInt8) : Op ω TxProgress := fun w =>
  let (progress, w') := net.poll id w
  ⟨.ok progress, w', []⟩

/-- What the transmitting side does next. -/
inductive TransmitState
  | waitForFrame
  | processFrame
  | waitForTxFinished
  | waitForNextArpRetry
  | txFinished
  deriving DecidableEq, Repr

/-- The word a state is written with. -/
def TransmitState.name : TransmitState → String
  | waitForFrame => "WaitForFrame"
  | processFrame => "ProcessFrame"
  | waitForTxFinished => "WaitForTxFinished"
  | waitForNextArpRetry => "WaitForNextArpRetry"
  | txFinished => "TxFinished"

/-- A channel buffer has to exist and have exactly the size of a channel buffer. -/
def Frame.checkBuffer {ω : Type} (buffer : BufferId) : Op (Station ω) Unit := do
  let s ← Op.read
  match s.stream.descriptor? buffer with
  | none =>
    Op.log (.tagged .error "SSDO" (buffer.text ++ " is not part of the stream"))
    Op.fail .invalidParameter
  | some d =>
    if d.size = Frame.bufferSize then pure ()
    else
      Op.log (.tagged .error "SSDO" (buffer.text ++ " has " ++ toString d.size ++ " bytes"))
      Op.fail (.bufferSizeMismatch Frame.bufferSize d.size)

/-- The transmitting side of an SSDO channel. -/
structure Transmit where
  id : UInt8
  buffer : BufferId
  state : TransmitState
  /-- The number of the last acknowledged frame. -/
  acked : SeqNr
  /-- The number of the captured frame. -/
  pending : SeqNr
  /-- The sequence byte of the last buffer that held no frame. -/
  rejected : Option UInt8
  /-- The captured payload. -/
  payload : Bytes
  retry : Timer
  status : Status
  deriving DecidableEq, Repr

namespace Transmit

variable {ω σ : Type}

/-- A line about a transmitting side. -/
def line (id : UInt8) (level : Level) (message : String) : Line :=
  (ChannelTag.mk "ssdo-tx" id.toNat).line level message

/-- Open the transmitting side on a buffer, and let the stream advance its timer. -/
def create (id : UInt8) (buffer : BufferId) (status : Status) : Op (Station ω) Transmit := do
  Frame.checkBuffer buffer
  let retry ← Station.onBench (Bench.addTimer retryCycles)
  Site.onStream (Stream.register .post buffer (Bench.tick retry))
  Op.log (line id .info ("Consuming channel created on " ++ buffer.text))
  pure ⟨id, buffer, .waitForFrame, .first, .first, none, [], retry, status⟩

/-- What the pause timer shows. -/
def retryState (t : Transmit) (b : Bench ω) : TimerState := t.retry.state b.counters

/-- Go to another state. -/
def moveTo (state : TransmitState) : Op (Transmit × σ) Unit := do
  let (t, _) ← Op.read
  Op.log (line t.id .trace (t.state.name ++ " -> " ++ state.name))
  Op.onFirst (Op.update fun t => { t with state })

/-- Stop the pause timer and forget a frame that is not yet acknowledged. -/
def destroy : Op (Transmit × Bench ω) Unit := do
  let (t, _) ← Op.read
  Op.onSecond (Op.update (Bench.setCounters t.retry.stop))
  Op.onFirst (Op.update fun t => { t with payload := [] })
  moveTo .waitForFrame
  Op.log (line t.id .info "Channel destroyed")

/-- Look for a new frame in a buffer. -/
def capture (buffer : Bytes) : Op (Transmit × Station ω) Unit := do
  let (t, _) ← Op.read
  match Frame.read buffer with
  | .error e =>
    if buffer.head? = t.rejected then pure ()
    else
      Op.log (line t.id .warn ("Ignoring malformed frame: " ++ e.message))
      Op.onFirst (Op.update fun t => { t with rejected := buffer.head? })
  | .ok frame =>
    Op.onFirst (Op.update fun t => { t with rejected := none })
    if frame.seq = t.acked then pure ()
    else
      Op.onFirst (Op.update fun t => { t with payload := frame.payload, pending := frame.seq })
      moveTo .processFrame

/-- Hand the captured payload to the network; a refusal is tried again at the next call. -/
def send (net : Transport ω) : Op (Transmit × Station ω) Unit := do
  let (t, _) ← Op.read
  match ← Op.attempt (Op.onSecond (Station.onWorld (net.send t.id t.payload))) with
  | .ok () => moveTo .waitForTxFinished
  | .error e => Op.log (line t.id .warn ("Send failed, retrying next cycle: " ++ e.message))

/-- Ask the network how far the transmission is. -/
def poll (net : Transport ω) : Op (Transmit × Station ω) Unit := do
  let (t, _) ← Op.read
  let progress ← Op.onSecond (Station.onWorld (net.ask t.id))
  match progress with
  | .pending => pure ()
  | .finished => moveTo .txFinished
  | .arpFailed =>
    Op.log (line t.id .warn "Address resolution failed, retry armed")
    Op.onSecond (Station.onBench (Op.update (Bench.setCounters t.retry.start)))
    moveTo .waitForNextArpRetry

/-- Send again once the pause is over. -/
def pause : Op (Transmit × Station ω) Unit := do
  let (t, s) ← Op.read
  if t.retryState s.around = .expired then
    Op.onSecond (Station.onBench (Op.update (Bench.setCounters t.retry.stop)))
    moveTo .processFrame
  else pure ()

/-- Acknowledge the frame to the remote side. -/
def acknowledge : Op (Transmit × Station ω) Unit := do
  let (t, _) ← Op.read
  Op.onSecond (Station.onBench (t.status.setSsdoRxFlag t.id t.pending))
  Op.onFirst (Op.update fun t => { t with acked := t.pending })
  Op.log (line t.id .debug ("Frame " ++ t.pending.name ++ " acknowledged"))
  moveTo .waitForFrame

/-- One step of the transmitting side. -/
def process (net : Transport ω) : Op (Transmit × Station ω) Unit := do
  let (t, s) ← Op.read
  match t.state with
  | .waitForFrame =>
    match s.stream.buffer? t.buffer with
    | some buffer => capture buffer
    | none => Op.fail .invalidBuffer
  | .processFrame => send net
  | .waitForTxFinished => poll net
  | .waitForNextArpRetry => pause
  | .txFinished => acknowledge

end Transmit

end SlimInterface
