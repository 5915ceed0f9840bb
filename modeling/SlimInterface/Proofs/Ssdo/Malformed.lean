import SlimInterface.Proofs.Numeral
import SlimInterface.Proofs.Ssdo.TransmitStep
import SlimInterface.Proofs.Wire

/-!
# Buffers that hold no frame

While the transmitting side waits for a frame, the buffer may hold none: its sequence byte or its
length is wrong (`Frame.malformed_iff`). The side then remembers the sequence byte and does nothing
else, and logs a line unless it remembered the same byte already.

What it remembers decides about that line only. Two sides that are the same but for the remembered
byte stay so, as long as they see the same buffer (`Transmit.process_of_same`), and also when one of
them sees no frame and the other the one acknowledged last (`Transmit.process_of_known`). No other
line of the side can be mistaken for the one about the buffer, because a line tells its message
(`Transmit.line_inj`).
-/

namespace SlimInterface

variable {ω : Type}

namespace Frame

/-- The sequence byte or the length is none that a frame has. -/
def Malformed (b : Bytes) : Prop :=
  1 < (b[seqOffset]?.getD 0).toNat ∨ maxPayload < (b.word lengthOffset).toNat

instance (b : Bytes) : Decidable (Malformed b) := inferInstanceAs (Decidable (_ ∨ _))

variable {b : Bytes}

/-- A channel buffer is read unless its sequence byte or its length is wrong. -/
theorem malformed_iff (h : b.length = bufferSize) : Malformed b ↔ ∃ e, read b = .error e := by
  have hb : b.length = 256 := h
  have hseq : b.byteAt seqOffset = .ok (b[seqOffset]?.getD 0) :=
    Bytes.byteAt_of_lt (by rw [hb]; decide)
  have hlength : b.wordAt lengthOffset = .ok (b.word lengthOffset) :=
    Bytes.wordAt_of_le (by rw [hb]; decide)
  unfold Malformed read
  simp only [hseq, hlength, bind, Except.bind]
  cases hbyte : SeqNr.ofByte (b[seqOffset]?.getD 0) with
  | error e => exact iff_of_true (.inl (SeqNr.one_lt_of_ofByte hbyte)) ⟨e, rfl⟩
  | ok seq =>
    have hle : ¬ 1 < (b[seqOffset]?.getD 0).toNat := by
      rw [← SeqNr.toByte_of_ofByte hbyte]
      exact Nat.not_lt.mpr seq.toNat_toByte_le
    dsimp only
    by_cases hp : maxPayload < (b.word lengthOffset).toNat
    · rw [if_pos hp]
      exact iff_of_true (.inr hp) ⟨_, rfl⟩
    · have hroom : payloadOffset + (b.word lengthOffset).toNat ≤ b.length := by
        have hm : (b.word lengthOffset).toNat ≤ 252 := Nat.not_lt.mp hp
        show 4 + _ ≤ _
        omega
      rw [if_neg hp, Bytes.slice?, if_pos hroom]
      refine iff_of_false (not_or.mpr ⟨hle, hp⟩) ?_
      rintro ⟨e, he⟩
      cases he

theorem ne_nil_of_malformed (h : Malformed b) : b ≠ [] := by
  rintro rfl
  revert h
  decide

end Frame

/-- The network without the lines it logs itself. -/
def Transport.muted (net : Transport ω) : Transport ω where
  send id p := fun w => { net.send id p w with lines := [] }
  poll := net.poll

namespace Transmit

/-! ## What the remembered byte does not matter for -/

/-- The same but for the remembered byte, on any stream. -/
def Same (p q : Transmit × Station ω) : Prop :=
  ∃ rejected stream, q = ({ p.1 with rejected }, ⟨stream, p.2.around⟩)

variable {net : Transport ω} {p q : Transmit × Station ω} {t : Transmit} {s : Station ω}

theorem respects_moveTo (state : TransmitState) :
    (moveTo state : Op (Transmit × Station ω) Unit).Respects Same := by
  rintro p _ ⟨rejected, stream, rfl⟩
  exact ⟨rfl, rejected, stream, rfl⟩

theorem respects_onBench {α : Type} (op : Op (Bench ω) α) :
    (Op.onSecond (Station.onBench op) : Op (Transmit × Station ω) α).Respects Same := by
  rintro p _ ⟨rejected, stream, rfl⟩
  exact ⟨rfl, rejected, stream, rfl⟩

theorem respects_send (net : Transport ω) : (send net).Respects Same := by
  rintro p _ ⟨rejected, stream, rfl⟩
  unfold send
  rw [Op.eval_bind_ok (Op.eval_read _), Op.eval_bind_ok (Op.eval_read _)]
  dsimp only
  refine ((respects_onBench _).attempt.bind fun answer => ?_) _ _ ⟨rejected, stream, rfl⟩
  cases answer with
  | ok u => exact respects_moveTo _
  | error e => exact Op.respects_log _

theorem respects_poll (net : Transport ω) : (poll net).Respects Same := by
  rintro p _ ⟨rejected, stream, rfl⟩
  unfold poll
  rw [Op.eval_bind_ok (Op.eval_read _), Op.eval_bind_ok (Op.eval_read _)]
  dsimp only
  refine ((respects_onBench _).bind fun progress => ?_) _ _ ⟨rejected, stream, rfl⟩
  cases progress with
  | pending => exact Op.respects_pure _
  | finished => exact respects_moveTo _
  | arpFailed =>
    exact (Op.respects_log _).bind fun _ => (respects_onBench _).bind fun _ => respects_moveTo _

theorem respects_pause : (pause : Op (Transmit × Station ω) Unit).Respects Same := by
  rintro p _ ⟨rejected, stream, rfl⟩
  unfold pause
  rw [Op.eval_bind_ok (Op.eval_read _), Op.eval_bind_ok (Op.eval_read _)]
  dsimp only
  by_cases he : p.1.retryState p.2.around = .expired
  · rw [if_pos he, if_pos (show retryState { p.1 with rejected } p.2.around = .expired from he)]
    exact ((respects_onBench _).bind fun _ => respects_moveTo _) _ _ ⟨rejected, stream, rfl⟩
  · rw [if_neg he, if_neg (show ¬ retryState { p.1 with rejected } p.2.around = .expired from he)]
    exact Op.respects_pure () _ _ ⟨rejected, stream, rfl⟩

theorem respects_acknowledge : (acknowledge : Op (Transmit × Station ω) Unit).Respects Same := by
  rintro p _ ⟨rejected, stream, rfl⟩
  unfold acknowledge
  rw [Op.eval_bind_ok (Op.eval_read _), Op.eval_bind_ok (Op.eval_read _)]
  dsimp only
  refine ((respects_onBench _).bind fun _ => ?_) _ _ ⟨rejected, stream, rfl⟩
  refine Op.Respects.bind ?_ fun _ => (Op.respects_log _).bind fun _ => respects_moveTo _
  rintro q _ ⟨rejected', stream', rfl⟩
  exact ⟨rfl, rejected', stream', rfl⟩

theorem respects_task (net : Transport ω) {state : TransmitState} (hs : state ≠ .waitForFrame)
    (shown : Option Bytes) : (task net state shown).Respects Same := by
  cases state with
  | waitForFrame => exact absurd rfl hs
  | processFrame => exact respects_send net
  | waitForTxFinished => exact respects_poll net
  | waitForNextArpRetry => exact respects_pause
  | txFinished => exact respects_acknowledge

/-- Two sides that are the same but for the remembered byte stay so when they see the same
buffer. -/
theorem process_of_same (h : Same p q)
    (hshown : q.2.stream.buffer? q.1.buffer = p.2.stream.buffer? p.1.buffer) :
    ((process net).eval p).1 = ((process net).eval q).1 ∧
      Same ((process net).eval p).2 ((process net).eval q).2 := by
  have hsame := h
  obtain ⟨rejected, stream, rfl⟩ := hsame
  obtain ⟨t, s⟩ := p
  by_cases hs : t.state = .waitForFrame
  · have hs' : ({ t with rejected } : Transmit).state = .waitForFrame := hs
    cases hb : s.stream.buffer? t.buffer with
    | none =>
      rw [Op.eval_of_run (run_process_missing hs hb),
        Op.eval_of_run (run_process_missing hs' (hshown.trans hb))]
      exact ⟨rfl, h⟩
    | some b =>
      have hb' := hshown.trans hb
      cases hf : Frame.read b with
      | error e =>
        rw [Op.eval_of_run (run_process_malformed hs hb hf),
          Op.eval_of_run (run_process_malformed hs' hb' hf)]
        exact ⟨rfl, b.head?, stream, rfl⟩
      | ok f =>
        by_cases ha : f.seq = t.acked
        · rw [Op.eval_of_run (run_process_known hs hb hf ha),
            Op.eval_of_run (run_process_known hs' hb' hf ha)]
          exact ⟨rfl, none, stream, rfl⟩
        · rw [Op.eval_of_run (run_process_new hs hb hf ha),
            Op.eval_of_run (run_process_new hs' hb' hf ha)]
          exact ⟨rfl, none, stream, rfl⟩
  · -- with a frame in flight neither the remembered byte nor the buffer matters
    rw [eval_process_of_busy hs,
      eval_process_of_busy (show ({ t with rejected } : Transmit).state ≠ .waitForFrame from hs)]
    exact respects_task net hs none _ _ h

/-- A buffer that holds no frame does what one does that holds the frame acknowledged last. -/
theorem process_of_known {b b' : Bytes} {e : Fault} {f : Frame} (h : Same p q)
    (hs : p.1.state = .waitForFrame) (hb : p.2.stream.buffer? p.1.buffer = some b)
    (he : Frame.read b = .error e) (hb' : q.2.stream.buffer? q.1.buffer = some b')
    (hf : Frame.read b' = .ok f) (hseq : f.seq = p.1.acked) :
    ((process net).eval p).1 = ((process net).eval q).1 ∧
      Same ((process net).eval p).2 ((process net).eval q).2 := by
  obtain ⟨rejected, stream, rfl⟩ := h
  obtain ⟨t, s⟩ := p
  rw [Op.eval_of_run (run_process_malformed hs hb he),
    Op.eval_of_run (run_process_known
      (show ({ t with rejected } : Transmit).state = .waitForFrame from hs) hb' hf hseq)]
  exact ⟨rfl, none, stream, rfl⟩

/-! ## What is logged with a frame in flight -/

theorem line_text (id : UInt8) (level : Level) (message : String) : (line id level message).text =
    "[system=psi, component=ssdo-tx, id=" ++ (toString id.toNat ++ ("] " ++ message)) := by
  show "[" ++ ("system=" ++ "psi" ++ ", component=" ++ "ssdo-tx" ++ ", id=" ++ toString id.toNat) ++
    "] " ++ message = _
  simp only [String.append_assoc]
  rfl

/-- A line tells its level and its message. -/
theorem line_inj {id id' : UInt8} {level level' : Level} {message message' : String}
    (h : line id level message = line id' level' message') :
    level = level' ∧ message = message' := by
  have htext := congrArg Line.text h
  rw [line_text, line_text, String.append_right_inj] at htext
  have hended (m : String) : Numeral.Ended ("] " ++ m).toList := Numeral.ended_append _ _ rfl rfl
  obtain ⟨-, hmessage⟩ := Numeral.toString_append_inj (hended _) (hended _) htext
  exact ⟨congrArg Line.level h, (String.append_right_inj _).mp hmessage⟩

/-- The line is no mention of a buffer that holds no frame. -/
def Plain (l : Line) : Prop := ∀ id e, l ≠ warning id e

theorem plain_of_level {level : Level} {text : String} (h : level ≠ .warn) :
    Plain ⟨level, text⟩ := fun _ _ he => h (congrArg Line.level he)

theorem plain_of_message {id : UInt8} {message : String} (h : message.toList.head? ≠ some 'I') :
    Plain (line id .warn message) := by
  intro id' e he
  rw [(line_inj he).2] at h
  exact h (by simp [String.toList_append])

variable {α : Type}

theorem logs_moveTo (state : TransmitState) :
    (moveTo state : Op (Transmit × Station ω) Unit).Logs Plain :=
  Op.logs_read_bind fun _ => (Op.logs_log (plain_of_level (by decide))).bind fun _ =>
    (Op.logs_update _).within

theorem logs_onBench {op : Op (Bench ω) α} (h : op.Logs Plain) :
    (Op.onSecond (Station.onBench op) : Op (Transmit × Station ω) α).Logs Plain :=
  h.within.within

/-- A network whose own lines are left out. -/
theorem logs_send (net : Transport ω) : (send net.muted).Logs Plain := by
  refine Op.logs_read_bind fun p => Op.Logs.bind (logs_onBench (Op.Logs.within ?_)).attempt
    fun answer => ?_
  · exact fun _ _ hl => absurd hl List.not_mem_nil
  · cases answer with
    | ok u => exact logs_moveTo _
    | error e =>
      exact Op.logs_log (plain_of_message (by simp [String.toList_append]))

theorem logs_poll (net : Transport ω) : (poll net).Logs Plain := by
  refine Op.logs_read_bind fun p => Op.Logs.bind (logs_onBench (Op.Logs.within ?_))
    fun progress => ?_
  · exact fun _ _ hl => absurd hl List.not_mem_nil
  · cases progress with
    | pending => exact Op.logs_pure _
    | finished => exact logs_moveTo _
    | arpFailed =>
      exact (Op.logs_log (plain_of_message (by decide))).bind fun _ =>
        (logs_onBench (Op.logs_update _)).bind fun _ => logs_moveTo _

theorem logs_pause : (pause : Op (Transmit × Station ω) Unit).Logs Plain := by
  refine Op.logs_read_bind fun p => ?_
  dsimp only
  by_cases he : p.1.retryState p.2.around = .expired
  · rw [if_pos he]
    exact (logs_onBench (Op.logs_update _)).bind fun _ => logs_moveTo _
  · rw [if_neg he]
    exact Op.logs_pure _

theorem logs_acknowledge : (acknowledge : Op (Transmit × Station ω) Unit).Logs Plain := by
  have hcheck (channel : UInt8) (count : Nat) :
      (Status.checkChannel channel count : Op (Bench ω) Unit).Logs Plain := by
    unfold Status.checkChannel
    by_cases hc : channel.toNat < count
    · rw [if_pos hc]
      exact Op.logs_pure _
    · rw [if_neg hc]
      exact (Op.logs_log (plain_of_level (by decide))).bind fun _ => Op.logs_fail _
  have hset (status : Status) (channel : UInt8) (seq : SeqNr) :
      (status.setSsdoRxFlag channel seq : Op (Bench ω) Unit).Logs Plain :=
    (hcheck _ _).bind fun _ => Op.logs_read_bind fun _ => (Op.logs_update _).bind fun _ =>
      Op.logs_log (plain_of_level (by decide))
  exact Op.logs_read_bind fun _ => (logs_onBench (hset _ _ _)).bind fun _ =>
    (Op.logs_update _).within.bind fun _ => (Op.logs_log (plain_of_level (by decide))).bind fun _ =>
      logs_moveTo _

/-- With a frame in flight no line mentions the buffer. -/
theorem plain_of_busy {l : Line} (hs : t.state ≠ .waitForFrame)
    (hl : l ∈ ((process net.muted).run (t, s)).lines) : Plain l := by
  rw [run_process] at hl
  cases hst : t.state with
  | waitForFrame => exact absurd hst hs
  | processFrame =>
    rw [hst] at hl
    exact logs_send net _ l hl
  | waitForTxFinished =>
    rw [hst] at hl
    exact logs_poll net.muted _ l hl
  | waitForNextArpRetry =>
    rw [hst] at hl
    exact logs_pause _ l hl
  | txFinished =>
    rw [hst] at hl
    exact logs_acknowledge _ l hl

/-- Neither does one while the side waits and the buffer holds a frame. -/
theorem plain_of_frame {l : Line} (hs : t.state = .waitForFrame)
    (hf : ∀ b, s.stream.buffer? t.buffer = some b → ∃ f, Frame.read b = .ok f)
    (hl : l ∈ ((process net).run (t, s)).lines) : Plain l := by
  cases hb : s.stream.buffer? t.buffer with
  | none =>
    rw [run_process_missing hs hb] at hl
    exact absurd hl List.not_mem_nil
  | some b =>
    obtain ⟨f, hf⟩ := hf b hb
    by_cases ha : f.seq = t.acked
    · rw [run_process_known hs hb hf ha] at hl
      exact absurd hl List.not_mem_nil
    · rw [run_process_new hs hb hf ha] at hl
      rw [List.mem_singleton.mp hl]
      exact plain_of_level (by decide)

end Transmit

end SlimInterface
