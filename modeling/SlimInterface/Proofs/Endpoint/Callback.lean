import SlimInterface.Proofs.Endpoint.Background

/-!
# The synchronous callback

An application may set a callback that ends every cycle. Nothing but the second half of the
cycle looks at it: every other operation does the same with any callback and with none
(`ignores_processSync`, `ignores_processAsync`), so what is known of an endpoint without a
callback carries over. What the second half does with one is `RoundStep`.
-/

namespace SlimInterface

variable {ω κ α : Type} {callback : Option (Op ω Unit)}

namespace Station

/-- The station with another callback, or with none. -/
def withCallback (callback : Option (Op ω Unit)) (s : Station ω) : Station ω :=
  { s with stream := { s.stream with onSync := callback.map Bench.onWorld } }

/-- The station of a channel with another callback. -/
def besideCallback (callback : Option (Op ω Unit)) (p : κ × Station ω) : κ × Station ω :=
  (p.1, p.2.withCallback callback)

/-! ## Operations of channels -/

theorem ignores_onBench (op : Op (Bench ω) α) :
    (onBench op).Ignores (withCallback callback) :=
  Op.ignores_within (fun _ => rfl) fun _ _ => rfl

theorem ignores_onImage (op : Op (Bytes × Bench ω) α) :
    (Site.onImage op).Ignores (withCallback callback) :=
  Op.ignores_within (fun _ => rfl) fun _ _ => rfl

theorem ignores_editBuffer (id : BufferId) (op : Op Bytes Unit) :
    (Site.onStream (Stream.editBuffer id op)).Ignores (withCallback callback) := by
  refine Op.Ignores.within (f := fun s => { s with onSync := callback.map Bench.onWorld }) ?_
    (fun _ => rfl) fun _ _ => rfl
  refine Op.ignores_read_bind (fun _ => rfl) fun s => ?_
  cases s.descriptor? id with
  | none => exact Op.ignores_fail _
  | some d => exact Op.ignores_within (fun _ => rfl) fun _ _ => rfl

theorem ignores_onFirst (op : Op κ α) :
    (Op.onFirst op : Op (κ × Station ω) α).Ignores (besideCallback callback) :=
  Op.ignores_within (fun _ => rfl) fun _ _ => rfl

theorem ignores_onSecond {op : Op (Station ω) α} (h : op.Ignores (withCallback callback)) :
    (Op.onSecond op : Op (κ × Station ω) α).Ignores (besideCallback callback) :=
  h.within (fun _ => rfl) fun _ _ => rfl

theorem ignores_withBench (op : Op (κ × Bench ω) α) :
    (withBench op).Ignores (besideCallback callback) :=
  Op.ignores_within (fun _ => rfl) fun _ _ => rfl

end Station

open Station

theorem LogChannel.ignores_post (e : LogEntry) :
    (post e : Op (LogChannel × Station ω) Posting).Ignores (besideCallback callback) := by
  refine Op.ignores_read_bind (fun _ => rfl) fun p => ?_
  dsimp only
  by_cases hl : p.1.locked = true
  · rw [if_pos hl]
    exact (Op.ignores_log _).bind fun _ => Op.ignores_pure _
  · rw [if_neg hl]
    exact (ignores_onSecond (ignores_editBuffer _ _)).bind fun _ =>
      (ignores_onFirst _).bind fun _ => (ignores_onSecond (ignores_onBench _)).bind fun _ =>
        (Op.ignores_log _).bind fun _ => Op.ignores_pure _

namespace Transmit

theorem ignores_moveTo (state : TransmitState) :
    (moveTo state : Op (Transmit × Station ω) Unit).Ignores (besideCallback callback) :=
  Op.ignores_read_bind (fun _ => rfl) fun _ => (Op.ignores_log _).bind fun _ => ignores_onFirst _

theorem ignores_capture (buffer : Bytes) :
    (capture buffer : Op (Transmit × Station ω) Unit).Ignores (besideCallback callback) := by
  refine Op.ignores_read_bind (fun _ => rfl) fun p => ?_
  dsimp only
  cases Frame.read buffer with
  | error e =>
    dsimp only
    split
    · exact Op.ignores_pure _
    · exact (Op.ignores_log _).bind fun _ => ignores_onFirst _
  | ok frame =>
    refine (ignores_onFirst _).bind fun _ => ?_
    split
    · exact Op.ignores_pure _
    · exact (ignores_onFirst _).bind fun _ => ignores_moveTo _

theorem ignores_send (net : Transport ω) :
    (send net).Ignores (besideCallback callback) := by
  refine Op.ignores_read_bind (fun _ => rfl) fun p => ?_
  refine (ignores_onSecond (ignores_onBench _)).attempt.bind fun r => ?_
  cases r with
  | ok u => exact ignores_moveTo _
  | error e => exact Op.ignores_log _

theorem ignores_poll (net : Transport ω) :
    (poll net).Ignores (besideCallback callback) := by
  refine Op.ignores_read_bind (fun _ => rfl) fun p => ?_
  refine (ignores_onSecond (ignores_onBench _)).bind fun progress => ?_
  cases progress with
  | pending => exact Op.ignores_pure _
  | finished => exact ignores_moveTo _
  | arpFailed =>
    exact (Op.ignores_log _).bind fun _ => (ignores_onSecond (ignores_onBench _)).bind fun _ =>
      ignores_moveTo _

theorem ignores_pause :
    (pause : Op (Transmit × Station ω) Unit).Ignores (besideCallback callback) := by
  refine Op.ignores_read_bind (fun _ => rfl) fun p => ?_
  dsimp only
  split
  · exact (ignores_onSecond (ignores_onBench _)).bind fun _ => ignores_moveTo _
  · exact Op.ignores_pure _

theorem ignores_acknowledge :
    (acknowledge : Op (Transmit × Station ω) Unit).Ignores (besideCallback callback) :=
  Op.ignores_read_bind (fun _ => rfl) fun _ => (ignores_onSecond (ignores_onBench _)).bind fun _ =>
    (ignores_onFirst _).bind fun _ => (Op.ignores_log _).bind fun _ => ignores_moveTo _

theorem ignores_process (net : Transport ω) :
    (process net).Ignores (besideCallback callback) := by
  refine Op.ignores_read_bind (fun _ => rfl) fun p => ?_
  dsimp only
  cases p.1.state with
  | waitForFrame =>
    dsimp only
    cases p.2.stream.buffer? p.1.buffer with
    | none => exact Op.ignores_fail _
    | some buffer => exact ignores_capture _
  | processFrame => exact ignores_send net
  | waitForTxFinished => exact ignores_poll net
  | waitForNextArpRetry => exact ignores_pause
  | txFinished => exact ignores_acknowledge

end Transmit

namespace Receive

theorem ignores_moveTo (state : ReceiveState) :
    (moveTo state : Op (Receive × Station ω) Unit).Ignores (besideCallback callback) :=
  Op.ignores_read_bind (fun _ => rfl) fun _ => (Op.ignores_log _).bind fun _ => ignores_onFirst _

theorem ignores_ready :
    (ready : Op (Receive × Station ω) Bool).Ignores (besideCallback callback) := by
  refine Op.ignores_read_bind (fun _ => rfl) fun p => ?_
  dsimp only
  split
  · refine (ignores_onSecond (ignores_onBench _)).bind fun seq => ?_
    split
    · exact (ignores_onFirst _).bind fun _ => Op.ignores_pure _
    · exact Op.ignores_pure _
  · exact Op.ignores_pure _

theorem ignores_post (payload : Bytes) :
    (post payload : Op (Receive × Station ω) Bool).Ignores (besideCallback callback) := by
  refine ignores_ready.bind fun r => ?_
  cases r with
  | false => exact Op.ignores_pure _
  | true =>
    refine Op.ignores_read_bind (fun _ => rfl) fun p => ?_
    exact (ignores_onSecond (ignores_editBuffer _ _)).bind fun _ =>
      (ignores_onFirst _).bind fun _ => (Op.ignores_log _).bind fun _ => Op.ignores_pure _

theorem ignores_process :
    (process : Op (Receive × Station ω) Unit).Ignores (besideCallback callback) := by
  refine Op.ignores_read_bind (fun _ => rfl) fun p => ?_
  dsimp only
  cases p.1.state with
  | waitForFrame =>
    cases p.1.queue with
    | nil => exact Op.ignores_pure _
    | cons payload rest =>
      refine (ignores_onFirst _).bind fun _ => (ignores_post _).bind fun posted => ?_
      cases posted with
      | true => exact Op.ignores_pure _
      | false => exact (Op.ignores_log _).bind fun _ => ignores_moveTo _
  | repostFrame =>
    refine (ignores_post _).bind fun posted => ?_
    cases posted with
    | true => exact ignores_moveTo _
    | false => exact Op.ignores_pure _

end Receive

theorem SsdoChannel.ignores_onTx {op : Op (Transmit × Station ω) α}
    (h : op.Ignores (besideCallback callback)) : (onTx op).Ignores (besideCallback callback) :=
  h.within (fun _ => rfl) fun _ _ => rfl

theorem SsdoChannel.ignores_onRx {op : Op (Receive × Station ω) α}
    (h : op.Ignores (besideCallback callback)) : (onRx op).Ignores (besideCallback callback) :=
  h.within (fun _ => rfl) fun _ _ => rfl

theorem SsdoChannel.ignores_process (net : Transport ω) :
    (process net).Ignores (besideCallback callback) :=
  (ignores_onTx (Transmit.ignores_process net)).attempt.bind fun _ =>
    (ignores_onRx Receive.ignores_process).attempt.bind fun _ =>
      (Op.ignores_ofExcept _).bind fun _ => Op.ignores_ofExcept _

/-! ## Entry points -/

theorem Site.ignores_processSync :
    (processSync : Op (Station ω) Unit).Ignores (withCallback callback) := by
  refine Op.ignores_read_bind (fun _ => rfl) fun s => (ignores_onImage _).bind fun _ => ?_
  exact Op.ignores_read_bind (fun _ => rfl) fun s => ignores_onImage _

namespace Endpoint

/-- The endpoint with another callback, or with none. -/
def withCallback (callback : Option (Op ω Unit)) (e : Endpoint ω) : Endpoint ω :=
  { e with station := e.station.withCallback callback }

theorem ignores_onStation {op : Op (Station ω) α} (h : op.Ignores (Station.withCallback callback)) :
    (onStation op).Ignores (withCallback callback) :=
  h.within (fun _ => rfl) fun _ _ => rfl

theorem ignores_onLog {op : Op (LogChannel × Station ω) α}
    (h : op.Ignores (besideCallback callback)) : (onLog op).Ignores (withCallback callback) :=
  h.within (fun _ => rfl) fun _ _ => rfl

theorem ignores_onSsdo {op : Op (SsdoChannel × Station ω) α}
    (h : op.Ignores (besideCallback callback)) : (onSsdo op).Ignores (withCallback callback) :=
  h.within (fun _ => rfl) fun _ _ => rfl

theorem ignores_posting {source : Source} {op : Op (Endpoint ω) α}
    (h : op.Ignores (withCallback callback)) :
    (posting source op).Ignores (withCallback callback) := by
  refine h.attempt.bind fun r => Op.ignores_read_bind (fun _ => rfl) fun e => ?_
  exact Op.ignores_within (fun _ => rfl) fun _ _ => rfl

theorem ignores_processSync :
    (processSync : Op (Endpoint ω) Unit).Ignores (withCallback callback) :=
  ignores_posting (ignores_onStation Site.ignores_processSync)

theorem ignores_processAsync (net : Transport ω) :
    (processAsync net).Ignores (withCallback callback) :=
  (ignores_posting (ignores_onLog (ignores_withBench _))).bind fun _ =>
    ignores_posting (ignores_onSsdo (SsdoChannel.ignores_process net)).reporting

theorem ignores_postLogEntry (e : LogEntry) :
    (postLogEntry 0 e : Op (Endpoint ω) Posting).Ignores (withCallback callback) := by
  unfold postLogEntry
  rw [if_neg (by decide)]
  exact ignores_onLog (LogChannel.ignores_post e)

theorem ignores_receiveFrame (p : Bytes) :
    (receiveFrame 0 p : Op (Endpoint ω) Unit).Ignores (withCallback callback) := by
  unfold receiveFrame
  rw [if_neg (by decide)]
  exact ignores_onSsdo (SsdoChannel.ignores_onRx (ignores_onFirst _))

end Endpoint

end SlimInterface
