import SlimInterface.Channel.Ssdo.Transmit
import SlimInterface.Proofs.Cycle.Counters

/-!
# Steps of the transmitting side on any stream

The transmitting side of a channel may be handed any stream, not only the one it was created on, and
may have any number. It looks at the stream while it waits for a frame and at no other time, and
never writes into it. `ProcessStep` lists what a step can do, and `eval_process` says that it does
nothing else: the frame that was captured is sent, and the calls of the network decide what comes
next, until the frame is acknowledged.

Two steps fail: a stream without the buffer of the channel shows no frame, and a channel whose
number the status channel does not know cannot acknowledge one.
-/

namespace SlimInterface

variable {ω : Type}

namespace Frame

theorem checkBuffer_eq_ok {id : BufferId} {s t : Station ω} {u : Unit} :
    (checkBuffer id).eval s = (.ok u, t) ↔
      (∃ d, s.stream.descriptor? id = some d ∧ d.size = bufferSize) ∧ t = s := by
  rw [checkBuffer, Op.eval_bind_ok (Op.eval_read s)]
  cases hd : s.stream.descriptor? id with
  | none => simp [Op.eval_bind]
  | some d =>
    by_cases hs : d.size = bufferSize
    · simp [hs, eq_comm]
    · simp [hs, Op.eval_bind]

end Frame

namespace Transmit

variable {net : Transport ω} {t : Transmit} {s : Station ω}

/-! ## Waiting for a frame -/

/-- The line about a buffer that holds no frame. -/
def warning (id : UInt8) (e : Fault) : Line :=
  line id .warn ("Ignoring malformed frame: " ++ e.message)

/-- The side with a frame it has taken from the buffer. -/
def taking (f : Frame) (t : Transmit) : Transmit :=
  { t with rejected := none, payload := f.payload, pending := f.seq, state := .processFrame }

/-- What the side does in a state, while the buffer shows `shown`. -/
def task (net : Transport ω) (state : TransmitState) (shown : Option Bytes) :
    Op (Transmit × Station ω) Unit :=
  match state, shown with
  | .waitForFrame, some b => capture b
  | .waitForFrame, none => Op.fail .invalidBuffer
  | .processFrame, _ => send net
  | .waitForTxFinished, _ => poll net
  | .waitForNextArpRetry, _ => pause
  | .txFinished, _ => acknowledge

theorem run_process (net : Transport ω) (t : Transmit) (s : Station ω) :
    (process net).run (t, s) = (task net t.state (s.stream.buffer? t.buffer)).run (t, s) := by
  unfold process
  rw [Op.run_bind_ok (Op.run_read _)]
  dsimp only
  cases t.state with
  | waitForFrame => cases s.stream.buffer? t.buffer <;> rfl
  | _ => rfl

theorem eval_process_of_busy (hs : t.state ≠ .waitForFrame) :
    (process net).eval (t, s) = (task net t.state none).eval (t, s) := by
  unfold Op.eval
  rw [run_process]
  cases hst : t.state with
  | waitForFrame => exact absurd hst hs
  | _ => rfl

theorem run_process_waiting {b : Bytes} (hs : t.state = .waitForFrame)
    (hb : s.stream.buffer? t.buffer = some b) :
    (process net).run (t, s) = (capture b).run (t, s) := by
  rw [run_process, hs, hb]
  rfl

theorem run_process_missing (hs : t.state = .waitForFrame)
    (hb : s.stream.buffer? t.buffer = none) :
    (process net).run (t, s) = ⟨.error .invalidBuffer, (t, s), []⟩ := by
  rw [run_process, hs, hb]
  rfl

/-- A buffer that holds no frame is mentioned unless its first byte is remembered. -/
theorem run_process_malformed {b : Bytes} {e : Fault} (hs : t.state = .waitForFrame)
    (hb : s.stream.buffer? t.buffer = some b) (he : Frame.read b = .error e) :
    (process net).run (t, s) = ⟨.ok (), ({ t with rejected := b.head? }, s),
      if b.head? = t.rejected then [] else [warning t.id e]⟩ := by
  rw [run_process_waiting hs hb, capture, Op.run_bind_ok (Op.run_read _)]
  dsimp only
  rw [he]
  dsimp only
  by_cases hh : b.head? = t.rejected
  · rw [if_pos hh, if_pos hh, hh]
    rfl
  · rw [if_neg hh, if_neg hh]
    rfl

theorem run_process_known {b : Bytes} {f : Frame} (hs : t.state = .waitForFrame)
    (hb : s.stream.buffer? t.buffer = some b) (hf : Frame.read b = .ok f) (ha : f.seq = t.acked) :
    (process net).run (t, s) = ⟨.ok (), ({ t with rejected := none }, s), []⟩ := by
  rw [run_process_waiting hs hb, capture, Op.run_bind_ok (Op.run_read _)]
  dsimp only
  rw [hf]
  dsimp only
  rw [if_pos ha]
  rfl

theorem run_process_new {b : Bytes} {f : Frame} (hs : t.state = .waitForFrame)
    (hb : s.stream.buffer? t.buffer = some b) (hf : Frame.read b = .ok f) (ha : f.seq ≠ t.acked) :
    (process net).run (t, s) = ⟨.ok (), (t.taking f, s),
      [line t.id .trace (t.state.name ++ " -> " ++ TransmitState.processFrame.name)]⟩ := by
  rw [run_process_waiting hs hb, capture, Op.run_bind_ok (Op.run_read _)]
  dsimp only
  rw [hf]
  dsimp only
  rw [if_neg ha]
  rfl

/-! ## Any state -/

/-- What one step of the transmitting side can do. -/
inductive ProcessStep (net : Transport ω) (t : Transmit) (s : Station ω) :
    Except Fault Unit → Transmit → Bench ω → Prop
  | missing (hs : t.state = .waitForFrame) (hb : s.stream.buffer? t.buffer = none) :
      ProcessStep net t s (.error .invalidBuffer) t s.around
  | malformed {b : Bytes} {f : Fault} (hs : t.state = .waitForFrame)
      (hb : s.stream.buffer? t.buffer = some b) (hf : Frame.read b = .error f) :
      ProcessStep net t s (.ok ()) { t with rejected := b.head? } s.around
  | known {b : Bytes} {f : Frame} (hs : t.state = .waitForFrame)
      (hb : s.stream.buffer? t.buffer = some b) (hf : Frame.read b = .ok f)
      (ha : f.seq = t.acked) :
      ProcessStep net t s (.ok ()) { t with rejected := none } s.around
  | captured {b : Bytes} {f : Frame} (hs : t.state = .waitForFrame)
      (hb : s.stream.buffer? t.buffer = some b) (hf : Frame.read b = .ok f)
      (ha : f.seq ≠ t.acked) :
      ProcessStep net t s (.ok ()) (t.taking f) s.around
  | sent {w : ω} (hs : t.state = .processFrame)
      (hn : (net.send t.id t.payload).eval s.around.world = (.ok (), w)) :
      ProcessStep net t s (.ok ()) { t with state := .waitForTxFinished }
        { s.around with world := w }
  | refused {f : Fault} {w : ω} (hs : t.state = .processFrame)
      (hn : (net.send t.id t.payload).eval s.around.world = (.error f, w)) :
      ProcessStep net t s (.ok ()) t { s.around with world := w }
  | pending {w : ω} (hs : t.state = .waitForTxFinished)
      (hn : net.poll t.id s.around.world = (.pending, w)) :
      ProcessStep net t s (.ok ()) t { s.around with world := w }
  | finished {w : ω} (hs : t.state = .waitForTxFinished)
      (hn : net.poll t.id s.around.world = (.finished, w)) :
      ProcessStep net t s (.ok ()) { t with state := .txFinished } { s.around with world := w }
  | unresolved {w : ω} (hs : t.state = .waitForTxFinished)
      (hn : net.poll t.id s.around.world = (.arpFailed, w)) :
      ProcessStep net t s (.ok ()) { t with state := .waitForNextArpRetry }
        ({ s.around with world := w }.setCounters t.retry.start)
  | resting (hs : t.state = .waitForNextArpRetry) (ht : t.retryState s.around ≠ .expired) :
      ProcessStep net t s (.ok ()) t s.around
  | rested (hs : t.state = .waitForNextArpRetry) (ht : t.retryState s.around = .expired) :
      ProcessStep net t s (.ok ()) { t with state := .processFrame }
        (s.around.setCounters t.retry.stop)
  | acknowledged (hs : t.state = .txFinished) (hid : t.id.toNat < ssdoChannelCount) :
      ProcessStep net t s (.ok ()) { t with acked := t.pending, state := .waitForFrame }
        (s.around.setRegisters t.status.registers fun r => { r with
          ssdoRx := Status.withFlag (t.status.read s.around).ssdoRx t.id t.pending })
  | stuck (hs : t.state = .txFinished) (hid : ¬ t.id.toNat < ssdoChannelCount) :
      ProcessStep net t s (.error .invalidParameter) t s.around

/-- What works on the world leaves the rest of the station. -/
theorem eval_onWorld {α : Type} {op : Op ω α} {r : Except Fault α} {w : ω}
    (h : op.eval s.around.world = (r, w)) :
    (Op.onSecond (Station.onWorld op)).eval (t, s) =
      (r, t, { s with around := { s.around with world := w } }) := by
  unfold Station.onWorld Station.onBench Site.onAround Bench.onWorld
  rw [Op.eval_onSecond, Op.eval_within, Op.eval_within, h]

theorem eval_send (hs : t.state = .processFrame) :
    ∃ a t' b, (send net).eval (t, s) = (a, t', { s with around := b }) ∧
      ProcessStep net t s a t' b := by
  unfold send
  rw [Op.eval_bind_ok (Op.eval_read _)]
  dsimp only
  rcases hn : (net.send t.id t.payload).eval s.around.world with ⟨_ | _, w⟩
  · rw [Op.eval_bind_ok (Op.eval_attempt _ _), eval_onWorld hn]
    exact ⟨_, _, _, rfl, .refused hs hn⟩
  · rw [Op.eval_bind_ok (Op.eval_attempt _ _), eval_onWorld hn]
    exact ⟨_, _, _, rfl, .sent hs hn⟩

theorem eval_poll (hs : t.state = .waitForTxFinished) :
    ∃ a t' b, (poll net).eval (t, s) = (a, t', { s with around := b }) ∧
      ProcessStep net t s a t' b := by
  unfold poll
  rw [Op.eval_bind_ok (Op.eval_read _)]
  dsimp only
  rcases hn : net.poll t.id s.around.world with ⟨progress, w⟩
  have hask : (net.ask t.id).eval s.around.world = (.ok progress, w) := by
    show ((.ok (net.poll t.id s.around.world).1, (net.poll t.id s.around.world).2) :
      Except Fault TxProgress × ω) = _
    rw [hn]
  rw [Op.eval_bind_ok (eval_onWorld hask)]
  cases progress with
  | pending => exact ⟨_, _, _, rfl, .pending hs hn⟩
  | finished => exact ⟨_, _, _, rfl, .finished hs hn⟩
  | arpFailed => exact ⟨_, _, _, rfl, .unresolved hs hn⟩

theorem eval_pause (hs : t.state = .waitForNextArpRetry) :
    ∃ a t' b, pause.eval (t, s) = (a, t', { s with around := b }) ∧
      ProcessStep net t s a t' b := by
  unfold pause
  rw [Op.eval_bind_ok (Op.eval_read _)]
  dsimp only
  by_cases he : t.retryState s.around = .expired
  · rw [if_pos he]
    exact ⟨_, _, _, rfl, .rested hs he⟩
  · rw [if_neg he]
    exact ⟨_, _, _, rfl, .resting hs he⟩

theorem eval_acknowledge (hs : t.state = .txFinished) :
    ∃ a t' b, acknowledge.eval (t, s) = (a, t', { s with around := b }) ∧
      ProcessStep net t s a t' b := by
  unfold acknowledge
  rw [Op.eval_bind_ok (Op.eval_read _)]
  dsimp only
  by_cases hid : t.id.toNat < ssdoChannelCount
  · have hcheck :
        (Status.checkChannel t.id ssdoChannelCount).eval s.around = (.ok (), s.around) := by
      unfold Status.checkChannel
      rw [if_pos hid, Op.eval_pure]
    have hset :
        (Op.onSecond (Station.onBench (t.status.setSsdoRxFlag t.id t.pending))).eval (t, s) =
        (.ok (), t, { s with
          around := s.around.setRegisters t.status.registers fun r => { r with
            ssdoRx := Status.withFlag (t.status.read s.around).ssdoRx t.id t.pending } }) := by
      unfold Station.onBench Site.onAround Status.setSsdoRxFlag
      rw [Op.eval_onSecond, Op.eval_within, Op.eval_bind_ok hcheck]
      rfl
    rw [Op.eval_bind_ok hset]
    exact ⟨_, _, _, rfl, .acknowledged hs hid⟩
  · have hcheck : (Status.checkChannel t.id ssdoChannelCount).eval s.around =
        (.error .invalidParameter, s.around) := by
      unfold Status.checkChannel
      rw [if_neg hid]
      rfl
    have hset :
        (Op.onSecond (Station.onBench (t.status.setSsdoRxFlag t.id t.pending))).eval (t, s) =
        (.error .invalidParameter, t, s) := by
      unfold Station.onBench Site.onAround Status.setSsdoRxFlag
      rw [Op.eval_onSecond, Op.eval_within, Op.eval_bind_error hcheck]
    rw [Op.eval_bind_error hset]
    exact ⟨_, _, _, rfl, .stuck hs hid⟩

theorem eval_process (net : Transport ω) (t : Transmit) (s : Station ω) :
    ∃ a t' b, (process net).eval (t, s) = (a, t', { s with around := b }) ∧
      ProcessStep net t s a t' b := by
  cases hs : t.state with
  | waitForFrame =>
    -- the only state in which the buffer is looked at
    cases hb : s.stream.buffer? t.buffer with
    | none => exact ⟨_, _, _, Op.eval_of_run (run_process_missing hs hb), .missing hs hb⟩
    | some b =>
      cases hf : Frame.read b with
      | error f =>
        exact ⟨_, _, _, Op.eval_of_run (run_process_malformed hs hb hf), .malformed hs hb hf⟩
      | ok f =>
        by_cases ha : f.seq = t.acked
        · exact ⟨_, _, _, Op.eval_of_run (run_process_known hs hb hf ha), .known hs hb hf ha⟩
        · exact ⟨_, _, _, Op.eval_of_run (run_process_new hs hb hf ha), .captured hs hb hf ha⟩
  | processFrame =>
    rw [eval_process_of_busy (by rw [hs]; decide), hs]
    exact eval_send hs
  | waitForTxFinished =>
    rw [eval_process_of_busy (by rw [hs]; decide), hs]
    exact eval_poll hs
  | waitForNextArpRetry =>
    rw [eval_process_of_busy (by rw [hs]; decide), hs]
    exact eval_pause hs
  | txFinished =>
    rw [eval_process_of_busy (by rw [hs]; decide), hs]
    exact eval_acknowledge hs

/-- A step leaves what the channel was opened with. -/
theorem ProcessStep.side_eq {a : Except Fault Unit} {t' : Transmit} {b : Bench ω}
    (h : ProcessStep net t s a t' b) :
    t'.id = t.id ∧ t'.buffer = t.buffer ∧ t'.retry = t.retry := by
  cases h <;> exact ⟨rfl, rfl, rfl⟩

/-- A step starts and stops the counter of the timer, and does not take it away. -/
theorem ProcessStep.counter_ne_none {a : Except Fault Unit} {t' : Transmit} {b : Bench ω}
    (h : ProcessStep net t s a t' b) (hs : s.around.counters[t.retry.counter]? ≠ none) :
    b.counters[t.retry.counter]? ≠ none := by
  have hmodify (f : Counter → Counter) :
      (s.around.counters.modify t.retry.counter f)[t.retry.counter]? ≠ none := by
    rw [List.getElem?_modify_eq]
    exact fun hn => hs (Option.map_eq_none_iff.mp hn)
  cases h with
  | unresolved => exact hmodify Counter.start
  | rested => exact hmodify Counter.stop
  | _ => exact hs

/-- The remembered byte changes only while the side waits for a frame. -/
theorem ProcessStep.rejected_eq {a : Except Fault Unit} {t' : Transmit} {b : Bench ω}
    (h : ProcessStep net t s a t' b) (hs : t.state ≠ .waitForFrame) : t'.rejected = t.rejected := by
  cases h with
  | malformed hw | known hw | captured hw => exact absurd hw hs
  | _ => rfl

/-! ## Opening -/

/-- Opening succeeds on a buffer of the size of a channel buffer with room for another action; then
the side waits for a frame, and the action of its timer is the last one. -/
theorem create_eq_ok {id : UInt8} {buffer : BufferId} {status : Status} {u : Station ω} :
    (create id buffer status).eval s = (.ok t, u) ↔
      (∃ d, s.stream.descriptor? buffer = some d ∧ d.size = Frame.bufferSize) ∧
        s.stream.post.length < s.stream.descriptors.length ∧
        t = ⟨id, buffer, .waitForFrame, .first, .first, none, [],
          ⟨retryCycles, s.around.counters.length⟩, status⟩ ∧
        u = ⟨s.stream.append .post ⟨buffer, Bench.tick ⟨retryCycles, s.around.counters.length⟩⟩,
          { s.around with counters := s.around.counters ++ [.idle] }⟩ := by
  unfold create
  simp only [Op.eval_bind_eq_ok, Frame.checkBuffer_eq_ok, Station.eval_addTimer,
    Station.attach_eq_ok, Op.eval_log, Op.eval_pure]
  constructor
  · intro h
    obtain ⟨-, _, ⟨hb, rfl⟩, _, _, ⟨⟩, -, _, ⟨-, hpost, rfl⟩, -, _, ⟨⟩, ⟨⟩⟩ := h
    exact ⟨hb, hpost, rfl, rfl⟩
  · intro h
    obtain ⟨hb, hpost, rfl, rfl⟩ := h
    have hne : s.stream.descriptor? buffer ≠ none := by
      obtain ⟨d, hd, -⟩ := hb
      simp [hd]
    exact ⟨(), s, ⟨hb, rfl⟩, _, _, rfl, (), _, ⟨hne, hpost, rfl⟩, (), _, rfl, rfl⟩

end Transmit

end SlimInterface
