import SlimInterface.Proofs.Cycle.Counters
import SlimInterface.Proofs.Endpoint.Cycle

/-!
# What the background loop does

Between cycles the application posts entries and received frames, and `processAsync` lets
every channel make one step. `LogStep`, `TxStep` and `RxStep` list the steps there are; the
background loop makes one of each and never fails (`eval_processAsync`).
-/

namespace SlimInterface

variable {ω α : Type}

namespace Live

variable {c : Config} {app : Application ω} {net : Transport ω} {k k' : Live ω}

/-! ## Posting -/

/-- The endpoint after an entry was posted on its logbook channel. -/
def entered (c : Config) (e : LogEntry) (k : Live ω) : Live ω :=
  { k.putBuffer c c.logBuffer (LogEntry.imprint k.logSeq e (k.buffer c c.logBuffer)) with
    logLocked := true
    logTimer := k.logTimer.start }

/-- The endpoint after a received frame was queued. -/
def queued (p : Bytes) (k : Live ω) : Live ω := { k with queue := k.queue ++ [p] }

/-- What posting an entry can do. -/
inductive EntryStep (c : Config) (e : LogEntry) (k : Live ω) : Posting → Live ω → Prop
  | busy (h : k.logLocked = true) : EntryStep c e k .busy k
  | posted (h : k.logLocked = false) : EntryStep c e k .successful (k.entered c e)

/-- What handing over a received frame can do. -/
inductive FrameStep (p : Bytes) (k : Live ω) : Except Fault Unit → Live ω → Prop
  | refused (f : Fault) (h : Frame.maxPayload < p.length ∨ receiveDepth ≤ k.queue.length) :
      FrameStep p k (.error f) k
  | queued (hp : p.length ≤ Frame.maxPayload) (hq : k.queue.length < receiveDepth) :
      FrameStep p k (.ok ()) (k.queued p)

theorem length_logBuffer (hc : c.Accepted) (h : k.Sound c) :
    (k.buffer c c.logBuffer).length = LogEntry.bufferSize := by
  rw [length_buffer h, hc.logBuffer_size]

theorem length_ssdoProducer (hc : c.Accepted) (h : k.Sound c) :
    (k.buffer c c.ssdoProducer).length = Frame.bufferSize := by
  rw [length_buffer h, hc.ssdoProducer_size]

/-- Posting an entry writes into the logbook buffer only. -/
theorem buffer_entered (hc : c.Accepted) {e : LogEntry} {id : BufferId}
    (h : c.sizeOf id ≠ LogEntry.bufferSize) : (k.entered c e).buffer c id = k.buffer c id :=
  buffer_putBuffer_of_ne (Config.ne_of_sizeOf_ne (hc.logBuffer_size ▸ h))

theorem logBuffer_entered (h : k.Sound c) (e : LogEntry) :
    (k.entered c e).buffer c c.logBuffer =
      LogEntry.imprint k.logSeq e (k.buffer c c.logBuffer) :=
  buffer_putBuffer h (by rw [LogEntry.length_imprint, length_buffer h])

theorem eval_post (app : Application ω) (hc : c.Accepted) (h : k.Sound c) (e : LogEntry) :
    ∃ a k', (LogChannel.post e).eval (k.log c, k.station c app) =
        (.ok a, k'.log c, k'.station c app) ∧ EntryStep c e k a k' := by
  unfold LogChannel.post
  rw [Op.eval_bind_ok (Op.eval_read _)]
  dsimp only
  by_cases hl : k.logLocked = true
  · refine ⟨.busy, k, ?_, .busy hl⟩
    rw [if_pos (show (k.log c).locked = true from hl), Op.eval_bind_ok (Op.eval_log _ _)]
    rfl
  · rw [Bool.not_eq_true] at hl
    refine ⟨.successful, k.entered c e, ?_, .posted hl⟩
    rw [if_neg (show ¬ (k.log c).locked = true from Bool.not_eq_true _ ▸ hl)]
    have hedit : (Site.onStream (Stream.editBuffer (k.log c).buffer
        (LogChannel.stage (k.log c).seq e))).eval (k.station c app) = _ :=
      eval_editBuffer app (index_logBuffer_lt hc) (LogEntry.eval_stage (length_logBuffer hc h))
    rw [Op.eval_bind_ok (Op.eval_onSecond_of hedit _)]
    rfl

theorem eval_postLogEntry (app : Application ω) (hc : c.Accepted) (h : k.Sound c) (e : LogEntry) :
    ∃ a k', (Endpoint.postLogEntry 0 e).eval (k.endpoint c app) = (.ok a, k'.endpoint c app) ∧
      EntryStep c e k a k' := by
  obtain ⟨a, k', hpost, hs⟩ := eval_post app hc h e
  refine ⟨a, k', ?_, hs⟩
  unfold Endpoint.postLogEntry Endpoint.onLog
  rw [if_neg (by decide), Op.eval_within,
    show ((k.endpoint c app).log, (k.endpoint c app).station) = (k.log c, k.station c app) from rfl,
    hpost]
  cases hs with
  | busy => rfl
  | posted => rfl

/-- A free channel accepts an entry. -/
theorem eval_postLogEntry_of_free (app : Application ω) (hc : c.Accepted) (h : k.Sound c)
    (hl : k.logLocked = false) (e : LogEntry) :
    (Endpoint.postLogEntry 0 e).eval (k.endpoint c app) =
      (.ok .successful, (k.entered c e).endpoint c app) := by
  obtain ⟨a, k', hpost, hs⟩ := eval_postLogEntry app hc h e
  cases hs with
  | busy hbusy => exact absurd (hl.symm.trans hbusy) (by simp)
  | posted => exact hpost

theorem eval_receiveFrame (c : Config) (app : Application ω) (k : Live ω) (p : Bytes) :
    ∃ r k', (Endpoint.receiveFrame 0 p).eval (k.endpoint c app) = (r, k'.endpoint c app) ∧
      FrameStep p k r k' := by
  have haccept : ∃ r k', (Receive.accept p).eval (k.rx c) = (r, k'.rx c) ∧ FrameStep p k r k' := by
    unfold Receive.accept
    rw [Op.eval_bind_ok (Op.eval_read _)]
    by_cases hp : Frame.maxPayload < p.length
    · rw [if_pos hp]
      exact ⟨_, k, rfl, .refused _ (.inl hp)⟩
    · rw [if_neg hp]
      by_cases hq : receiveDepth ≤ (k.rx c).queue.length
      · rw [if_pos hq]
        exact ⟨_, k, rfl, .refused _ (.inr hq)⟩
      · rw [if_neg hq]
        exact ⟨_, k.queued p, rfl, .queued (by omega) (Nat.lt_of_not_le hq)⟩
  obtain ⟨r, k', hr, hs⟩ := haccept
  refine ⟨r, k', ?_, hs⟩
  unfold Endpoint.receiveFrame Endpoint.onSsdo SsdoChannel.onRx
  rw [if_neg (by decide), Op.eval_within, Op.eval_within, Op.eval_onFirst]
  show (((Receive.accept p).eval (k.rx c)).1, _) = _
  rw [show (((k.endpoint c app).ssdo, (k.endpoint c app).station).1.rx) = k.rx c from rfl, hr]
  cases hs with
  | refused => rfl
  | queued => rfl

/-! ## The logbook channel -/

/-- What one step of the logbook channel can do. -/
inductive LogStep (k : Live ω) : Live ω → Prop
  | idle (h : k.logLocked = false) : LogStep k k
  | acknowledged (h : k.logLocked = true)
      (ha : SeqNr.ofLowBit k.registers.logTx.toNat = k.logSeq) :
      LogStep k { k with
        logSeq := k.logSeq.flip
        logLocked := false
        logTimer := k.logTimer.stop }
  | expired (h : k.logLocked = true) (ha : SeqNr.ofLowBit k.registers.logTx.toNat ≠ k.logSeq)
      (he : k.logTimer.enabled = true) (ht : logTimeoutCycles ≤ k.logTimer.count) :
      LogStep k { k with logSeq := k.logSeq.flip, logLocked := false }
  | waiting (h : k.logLocked = true) (ha : SeqNr.ofLowBit k.registers.logTx.toNat ≠ k.logSeq)
      (ht : ¬ (k.logTimer.enabled = true ∧ logTimeoutCycles ≤ k.logTimer.count)) : LogStep k k

theorem eval_logTxFlag :
    ((k.log c).status.logTxFlag (k.log c).id).eval (k.station c app).around =
      (.ok (SeqNr.ofLowBit k.registers.logTx.toNat), (k.station c app).around) := by
  unfold Status.logTxFlag Status.checkChannel
  rw [if_pos (show (k.log c).id.toNat < logChannelCount from Nat.zero_lt_one),
    Op.eval_bind_ok (Op.eval_pure _ _), Op.eval_bind_ok (Op.eval_read _), Op.eval_ofExcept,
    show (k.log c).id = 0 from rfl, Status.flag_zero, UInt8.toNat_toUInt32]
  rfl

theorem eval_logProcess (c : Config) (app : Application ω) (k : Live ω) :
    ∃ k', LogChannel.process.eval (k.log c, (k.station c app).around) =
        (.ok (), k'.log c, (k'.station c app).around) ∧ LogStep k k' := by
  unfold LogChannel.process
  rw [Op.eval_bind_ok (Op.eval_read _)]
  dsimp only
  by_cases hl : k.logLocked = true
  · rw [if_pos (show (k.log c).locked = true from hl),
      Op.eval_bind_ok (Op.eval_onSecond_of eval_logTxFlag _)]
    by_cases ha : SeqNr.ofLowBit k.registers.logTx.toNat = k.logSeq
    · refine ⟨_, ?_, .acknowledged hl ha⟩
      rw [if_pos (show _ = (k.log c).seq from ha)]
      rfl
    · have hexpired : (k.log c).timer.state (k.station c app).around.counters = .expired ↔
          k.logTimer.enabled = true ∧ logTimeoutCycles ≤ k.logTimer.count :=
        Timer.state_eq_expired
      rw [if_neg (show ¬ _ = (k.log c).seq from ha)]
      by_cases ht : k.logTimer.enabled = true ∧ logTimeoutCycles ≤ k.logTimer.count
      · refine ⟨_, ?_, .expired hl ha ht.1 ht.2⟩
        rw [if_pos (hexpired.mpr ht)]
        rfl
      · refine ⟨k, ?_, .waiting hl ha ht⟩
        rw [if_neg (fun he => ht (hexpired.mp he)), Op.eval_pure]
  · rw [Bool.not_eq_true] at hl
    refine ⟨k, ?_, .idle hl⟩
    rw [if_neg (show ¬ (k.log c).locked = true from Bool.not_eq_true _ ▸ hl)]
    rfl

/-! ## The transmitting side -/

/-- What one step of the transmitting side can do. -/
inductive TxStep (c : Config) (net : Transport ω) (k : Live ω) : Live ω → Prop
  | malformed {f : Fault} (hs : k.txState = .waitForFrame)
      (hf : Frame.read (k.buffer c c.ssdoConsumer) = .error f) :
      TxStep c net k { k with rejected := (k.buffer c c.ssdoConsumer).head? }
  | known {f : Frame} (hs : k.txState = .waitForFrame)
      (hf : Frame.read (k.buffer c c.ssdoConsumer) = .ok f) (ha : f.seq = k.acked) :
      TxStep c net k { k with rejected := none }
  | captured {f : Frame} (hs : k.txState = .waitForFrame)
      (hf : Frame.read (k.buffer c c.ssdoConsumer) = .ok f) (ha : f.seq ≠ k.acked) :
      TxStep c net k { k with
        rejected := none
        payload := f.payload
        pending := f.seq
        txState := .processFrame }
  | sent {w : ω} (hs : k.txState = .processFrame)
      (hn : (net.send 0 k.payload).eval k.world = (.ok (), w)) :
      TxStep c net k { k with world := w, txState := .waitForTxFinished }
  | refused {f : Fault} {w : ω} (hs : k.txState = .processFrame)
      (hn : (net.send 0 k.payload).eval k.world = (.error f, w)) :
      TxStep c net k { k with world := w }
  | pending {w : ω} (hs : k.txState = .waitForTxFinished)
      (hn : net.poll 0 k.world = (.pending, w)) : TxStep c net k { k with world := w }
  | finished {w : ω} (hs : k.txState = .waitForTxFinished)
      (hn : net.poll 0 k.world = (.finished, w)) :
      TxStep c net k { k with world := w, txState := .txFinished }
  | unresolved {w : ω} (hs : k.txState = .waitForTxFinished)
      (hn : net.poll 0 k.world = (.arpFailed, w)) :
      TxStep c net k { k with
        world := w
        retryTimer := k.retryTimer.start
        txState := .waitForNextArpRetry }
  | resting (hs : k.txState = .waitForNextArpRetry)
      (ht : ¬ (k.retryTimer.enabled = true ∧ retryCycles ≤ k.retryTimer.count)) :
      TxStep c net k k
  | rested (hs : k.txState = .waitForNextArpRetry)
      (ht : k.retryTimer.enabled = true ∧ retryCycles ≤ k.retryTimer.count) :
      TxStep c net k { k with retryTimer := k.retryTimer.stop, txState := .processFrame }
  | acknowledged (hs : k.txState = .txFinished) :
      TxStep c net k { k with
        registers :=
          { k.registers with ssdoRx := Status.withFlag k.registers.ssdoRx 0 k.pending }
        acked := k.pending
        txState := .waitForFrame }

theorem eval_txProcess (app : Application ω) (net : Transport ω) (k : Live ω) (hc : c.Accepted) :
    ∃ k', (Transmit.process net).eval (k.tx c, k.station c app) =
        (.ok (), k'.tx c, k'.station c app) ∧ TxStep c net k k' := by
  have hbuffer : (k.station c app).stream.buffer? (k.tx c).buffer = _ :=
    buffer?_station app (index_ssdoConsumer_lt hc)
  obtain ⟨a, t, b, heval, hstep⟩ := Transmit.eval_process net (k.tx c) (k.station c app)
  rw [heval]
  cases hstep with
  | missing hs hb => cases hbuffer.symm.trans hb
  | malformed hs hb hf =>
    cases hbuffer.symm.trans hb
    exact ⟨_, rfl, .malformed hs hf⟩
  | known hs hb hf ha =>
    cases hbuffer.symm.trans hb
    exact ⟨_, rfl, .known hs hf ha⟩
  | captured hs hb hf ha =>
    cases hbuffer.symm.trans hb
    exact ⟨_, rfl, .captured hs hf ha⟩
  | sent hs hn => exact ⟨_, rfl, .sent hs hn⟩
  | refused hs hn => exact ⟨_, rfl, .refused hs hn⟩
  | pending hs hn => exact ⟨_, rfl, .pending hs hn⟩
  | finished hs hn => exact ⟨_, rfl, .finished hs hn⟩
  | unresolved hs hn => exact ⟨_, rfl, .unresolved hs hn⟩
  | resting hs ht => exact ⟨_, rfl, .resting hs fun he => ht (Timer.state_eq_expired.mpr he)⟩
  | rested hs ht => exact ⟨_, rfl, .rested hs (Timer.state_eq_expired.mp ht)⟩
  | acknowledged hs => exact ⟨_, rfl, .acknowledged hs⟩
  | stuck _ hid => exact absurd (show (0 : UInt8).toNat < ssdoChannelCount by decide) hid

/-! ## The receiving side -/

/-- The number the next frame for the remote side carries. -/
def nextSeq (k : Live ω) : SeqNr := if k.outstanding then k.rxSeq.flip else k.rxSeq

/-- The frame posted last, if there is one, was acknowledged. -/
def RxReady (k : Live ω) : Prop :=
  k.outstanding = true → SeqNr.ofLowBit k.registers.ssdoTx.toNat = k.rxSeq

/-- The endpoint after a frame was offered to the remote side. -/
def offered (c : Config) (p : Bytes) (k : Live ω) : Live ω :=
  { k.putBuffer c c.ssdoProducer
      (Frame.imprint ⟨k.nextSeq, p⟩ (k.buffer c c.ssdoProducer)) with
    rxSeq := k.nextSeq
    outstanding := true
    cached := none }

@[simp] theorem queue_offered {p : Bytes} : (k.offered c p).queue = k.queue := rfl

@[simp] theorem cached_offered {p : Bytes} : (k.offered c p).cached = none := rfl

@[simp] theorem rxState_offered {p : Bytes} : (k.offered c p).rxState = k.rxState := rfl

/-- Offering a frame writes into its buffer only. -/
theorem buffer_offered (hc : c.Accepted) {p : Bytes} {id : BufferId}
    (h : c.sizeOf id ≠ Frame.bufferSize) : (k.offered c p).buffer c id = k.buffer c id :=
  buffer_putBuffer_of_ne (Config.ne_of_sizeOf_ne (hc.ssdoProducer_size ▸ h))

/-- What one step of the receiving side can do. -/
inductive RxStep (c : Config) (k : Live ω) : Live ω → Prop
  | idle (hs : k.rxState = .waitForFrame) (hq : k.queue = []) : RxStep c k k
  | posted {p : Bytes} {rest : List Bytes} (hs : k.rxState = .waitForFrame)
      (hq : k.queue = p :: rest) (hr : k.RxReady) :
      RxStep c k ({ k with queue := rest }.offered c p)
  | postponed {p : Bytes} {rest : List Bytes} (hs : k.rxState = .waitForFrame)
      (hq : k.queue = p :: rest) (hr : ¬ k.RxReady) :
      RxStep c k { k with queue := rest, cached := some p, rxState := .repostFrame }
  | reposted (hs : k.rxState = .repostFrame) (hr : k.RxReady) :
      RxStep c k { k.offered c (k.cached.getD []) with rxState := .waitForFrame }
  | waiting (hs : k.rxState = .repostFrame) (hr : ¬ k.RxReady) : RxStep c k k

theorem eval_ssdoTxFlag :
    (Station.onBench ((k.rx c).status.ssdoTxFlag (k.rx c).id)).eval (k.station c app) =
      (.ok (SeqNr.ofLowBit k.registers.ssdoTx.toNat), k.station c app) := by
  have hflag : ((k.rx c).status.ssdoTxFlag (k.rx c).id).eval (k.station c app).around =
      (.ok (SeqNr.ofLowBit k.registers.ssdoTx.toNat), (k.station c app).around) := by
    unfold Status.ssdoTxFlag Status.checkChannel
    rw [if_pos (show (k.rx c).id.toNat < ssdoChannelCount from Nat.zero_lt_one),
      Op.eval_bind_ok (Op.eval_pure _ _), Op.eval_bind_ok (Op.eval_read _), Op.eval_ofExcept,
      show (k.rx c).id = 0 from rfl, Status.flag_zero, UInt16.toNat_toUInt32]
    rfl
  unfold Station.onBench Site.onAround
  rw [Op.eval_within, hflag]

/-- A frame can be offered if the one before it was acknowledged; that is then taken note of. -/
theorem eval_ready (hr : k.RxReady) :
    Receive.ready.eval (k.rx c, k.station c app) =
      (.ok true, { k.rx c with outstanding := false, seq := k.nextSeq }, k.station c app) := by
  unfold Receive.ready
  rw [Op.eval_bind_ok (Op.eval_read _)]
  dsimp only
  by_cases ho : k.outstanding = true
  · rw [if_pos (show (k.rx c).outstanding = true from ho),
      Op.eval_bind_ok (Op.eval_onSecond_of eval_ssdoTxFlag _),
      if_pos (show _ = (k.rx c).seq from hr ho), nextSeq, if_pos ho]
    rfl
  · rw [if_neg (show ¬ (k.rx c).outstanding = true from ho), nextSeq, if_neg ho, Op.eval_pure]
    rw [Bool.not_eq_true] at ho
    unfold rx
    rw [ho]

theorem eval_ready_busy (hr : ¬ k.RxReady) :
    Receive.ready.eval (k.rx c, k.station c app) = (.ok false, k.rx c, k.station c app) := by
  have ho : k.outstanding = true := Decidable.byContradiction fun ho => hr fun h => absurd h ho
  have ha : SeqNr.ofLowBit k.registers.ssdoTx.toNat ≠ k.rxSeq := fun ha => hr fun _ => ha
  unfold Receive.ready
  rw [Op.eval_bind_ok (Op.eval_read _)]
  dsimp only
  rw [if_pos (show (k.rx c).outstanding = true from ho),
    Op.eval_bind_ok (Op.eval_onSecond_of eval_ssdoTxFlag _),
    if_neg (show ¬ _ = (k.rx c).seq from ha), Op.eval_pure]

theorem eval_rxPost (hc : c.Accepted) (h : k.Sound c) {p : Bytes} (hp : p.length ≤ Frame.maxPayload)
    (hr : k.RxReady) :
    (Receive.post p).eval (k.rx c, k.station c app) =
      (.ok true, (k.offered c p).rx c, (k.offered c p).station c app) := by
  have hedit := eval_editBuffer app (index_ssdoProducer_lt hc)
    (Frame.eval_write (f := ⟨k.nextSeq, p⟩) (length_ssdoProducer hc h) hp)
  unfold Receive.post
  rw [Op.eval_bind_ok (eval_ready hr), if_pos rfl, Op.eval_bind_ok (Op.eval_read _)]
  dsimp only
  rw [show (k.rx c).buffer = c.ssdoProducer from rfl, Op.eval_bind_ok (Op.eval_onSecond_of hedit _)]
  rfl

theorem eval_rxPost_busy {p : Bytes} (hr : ¬ k.RxReady) :
    (Receive.post p).eval (k.rx c, k.station c app) = (.ok false, k.rx c, k.station c app) := by
  unfold Receive.post
  rw [Op.eval_bind_ok (eval_ready_busy hr)]
  rfl

section Queue

variable {p : Bytes} {rest : List Bytes}

theorem Sound.head_fits (h : k.Sound c) (hq : k.queue = p :: rest) :
    p.length ≤ Frame.maxPayload :=
  h.queue_fits p (by rw [hq]; exact List.mem_cons_self)

/-- The first frame of the queue is taken out. -/
theorem Sound.popped (h : k.Sound c) (hq : k.queue = p :: rest) :
    ({ k with queue := rest } : Live ω).Sound c := by
  refine ⟨h.image_length, ?_, h.cached_fits⟩
  intro q hm
  exact h.queue_fits q (by rw [hq]; exact List.mem_cons_of_mem p hm)

/-- The first frame of the queue is moved into the cache. -/
theorem Sound.cached (h : k.Sound c) (hq : k.queue = p :: rest) :
    ({ k with queue := rest, cached := some p } : Live ω).Sound c := by
  refine ⟨h.image_length, (h.popped hq).queue_fits, ?_⟩
  intro _ hp
  cases hp
  exact h.head_fits hq

end Queue

theorem eval_rxProcess (app : Application ω) (hc : c.Accepted) (h : k.Sound c) :
    ∃ k', Receive.process.eval (k.rx c, k.station c app) =
        (.ok (), k'.rx c, k'.station c app) ∧ RxStep c k k' := by
  unfold Receive.process
  rw [Op.eval_bind_ok (Op.eval_read _)]
  dsimp only
  rw [show (k.rx c).state = k.rxState from rfl, show (k.rx c).queue = k.queue from rfl,
    show (k.rx c).cached = k.cached from rfl]
  cases hs : k.rxState with
  | waitForFrame =>
    cases hq : k.queue with
    | nil => exact ⟨k, rfl, .idle hs hq⟩
    | cons p rest =>
      dsimp only
      rw [Op.eval_bind_ok (Op.eval_onFirst_of (Op.eval_update _ _) _)]
      -- the popped frame waits in the cache while it is offered
      let k1 : Live ω := { k with queue := rest, cached := some p }
      have h1 : k1.Sound c := h.cached hq
      by_cases hr : k.RxReady
      · refine ⟨_, ?_, .posted hs hq hr⟩
        show Op.eval _ (k1.rx c, k1.station c app) = _
        rw [Op.eval_bind_ok (eval_rxPost hc h1 (h.head_fits hq) (show k1.RxReady from hr))]
        rfl
      · refine ⟨_, ?_, .postponed hs hq hr⟩
        show Op.eval _ (k1.rx c, k1.station c app) = _
        rw [Op.eval_bind_ok (eval_rxPost_busy (show ¬ k1.RxReady from hr))]
        rfl
  | repostFrame =>
    dsimp only
    by_cases hr : k.RxReady
    · refine ⟨_, ?_, .reposted hs hr⟩
      have hp : (k.cached.getD []).length ≤ Frame.maxPayload := by
        cases hcached : k.cached with
        | none => exact Nat.zero_le _
        | some p => exact h.cached_fits p hcached
      rw [Op.eval_bind_ok (eval_rxPost hc h hp hr)]
      rfl
    · refine ⟨k, ?_, .waiting hs hr⟩
      rw [Op.eval_bind_ok (eval_rxPost_busy hr)]
      rfl

/-! ## All of them -/

theorem Sound.logStep (h : k.Sound c) (hs : LogStep k k') : k'.Sound c := by
  cases hs <;> exact ⟨h.1, h.2, h.3⟩

theorem Sound.txStep (h : k.Sound c) (hs : TxStep c net k k') : k'.Sound c := by
  cases hs <;> exact ⟨h.1, h.2, h.3⟩

theorem Sound.offered {p : Bytes} (h : k.Sound c) : (k.offered c p).Sound c := by
  refine ⟨?_, h.2, ?_⟩
  · show (Span.place _ _ _).length = _
    rw [Span.length_place]
    exact h.1
  · intro _ h
    cases h

theorem Sound.rxStep (h : k.Sound c) (hs : RxStep c k k') : k'.Sound c := by
  cases hs with
  | idle => exact h
  | posted _ hq => exact (h.popped hq).offered
  | postponed _ hq =>
    obtain ⟨h1, h2, h3⟩ := h.cached hq
    exact ⟨h1, h2, h3⟩
  | reposted =>
    obtain ⟨h1, h2, h3⟩ := h.offered (p := k.cached.getD [])
    exact ⟨h1, h2, h3⟩
  | waiting => exact h

theorem Sound.entryStep {e : LogEntry} {a : Posting} (h : k.Sound c) (hs : EntryStep c e k a k') :
    k'.Sound c := by
  cases hs with
  | busy => exact h
  | posted =>
    obtain ⟨h1, h2, h3⟩ := sound_putBuffer.mpr h
    exact ⟨h1, h2, h3⟩

theorem Sound.frameStep {p : Bytes} {r : Except Fault Unit} (h : k.Sound c)
    (hs : FrameStep p k r k') : k'.Sound c := by
  cases hs with
  | refused => exact h
  | queued hp =>
    refine ⟨h.1, ?_, h.3⟩
    intro q hm
    rcases List.mem_append.mp hm with hm | hm
    · exact h.queue_fits q hm
    · rw [List.mem_singleton.mp hm]
      exact hp

/-- A free channel makes no step. -/
theorem LogStep.eq_of_free (hs : LogStep k k') (h : k.logLocked = false) : k' = k := by
  cases hs with
  | idle => rfl
  | acknowledged hl | expired hl | waiting hl => exact absurd (h.symm.trans hl) (by simp)

/-- The receiving side makes no step without a frame. -/
theorem RxStep.eq_of_idle (hs : RxStep c k k') (h : k.rxState = .waitForFrame ∧ k.queue = []) :
    k' = k := by
  cases hs with
  | idle => rfl
  | posted _ hq | postponed _ hq => exact absurd (h.2.symm.trans hq) (by simp)
  | reposted hs | waiting hs => exact absurd (h.1.symm.trans hs) (by simp)

/-- The background loop never fails. Every channel makes one step, in this order. -/
theorem eval_processAsync (app : Application ω) (net : Transport ω) (hc : c.Accepted)
    (h : k.Sound c) :
    ∃ k1 k2 k3, (Endpoint.processAsync net).eval (k.endpoint c app) =
        (.ok (), k3.endpoint c app) ∧
      LogStep k k1 ∧ TxStep c net k1 k2 ∧ RxStep c k2 k3 := by
  obtain ⟨k1, hlog, hs1⟩ := eval_logProcess c app k
  obtain ⟨k2, htx, hs2⟩ := eval_txProcess app net k1 hc
  obtain ⟨k3, hrx, hs3⟩ := eval_rxProcess app hc ((h.logStep hs1).txStep hs2)
  refine ⟨k1, k2, k3, ?_, hs1, hs2, hs3⟩
  have hfirst : (Endpoint.onLog (Station.withBench LogChannel.process)).eval (k.endpoint c app) =
      (.ok (), k1.endpoint c app) := by
    unfold Endpoint.onLog Station.withBench
    rw [Op.eval_within, Op.eval_within]
    show ((LogChannel.process.eval (k.log c, (k.station c app).around)).1, _) = _
    rw [show (((k.endpoint c app).log, (k.endpoint c app).station).1,
      ((k.endpoint c app).log, (k.endpoint c app).station).2.around) =
      (k.log c, (k.station c app).around) from rfl, hlog]
    cases hs1 <;> rfl
  have hsecond : (Endpoint.onSsdo (SsdoChannel.process net)).eval (k1.endpoint c app) =
      (.ok (), k3.endpoint c app) := by
    have hontx : (SsdoChannel.onTx (Transmit.process net)).eval
        ((k1.endpoint c app).ssdo, (k1.endpoint c app).station) =
        (.ok (), (⟨k2.tx c, k2.rx c⟩ : SsdoChannel), k2.station c app) := by
      unfold SsdoChannel.onTx
      rw [Op.eval_within]
      show (((Transmit.process net).eval (k1.tx c, k1.station c app)).1, _) = _
      rw [show (((k1.endpoint c app).ssdo, (k1.endpoint c app).station).1.tx,
        ((k1.endpoint c app).ssdo, (k1.endpoint c app).station).2) =
        (k1.tx c, k1.station c app) from rfl, htx]
      cases hs2 <;> rfl
    have honrx : (SsdoChannel.onRx Receive.process).eval
        ((⟨k2.tx c, k2.rx c⟩ : SsdoChannel), k2.station c app) =
        (.ok (), (⟨k3.tx c, k3.rx c⟩ : SsdoChannel), k3.station c app) := by
      unfold SsdoChannel.onRx
      rw [Op.eval_within]
      dsimp only
      rw [hrx]
      cases hs3 <;> rfl
    unfold Endpoint.onSsdo SsdoChannel.process
    rw [Op.eval_within, Op.eval_bind_ok (Op.eval_attempt _ _), hontx,
      Op.eval_bind_ok (Op.eval_attempt _ _), honrx]
    cases hs2 <;> cases hs3 <;> rfl
  unfold Endpoint.processAsync
  rw [Op.eval_bind_ok (Endpoint.eval_posting_ok hfirst)]
  apply Endpoint.eval_posting_ok
  rw [Op.eval_reporting, hsecond]
  rfl

end Live

end SlimInterface
