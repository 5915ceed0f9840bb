import Mathlib.Algebra.Group.Nat.Defs
import SlimInterface.Proofs.Storage.Steps

/-!
# What a failed step leaves

A device whose writes are atomic stores all bytes or fails and stays as it was (`AtomicDevice`).
On such a device a step that writes once and fails has changed nothing. Only the first step of a
store writes twice. When its magic word is written and its length is refused, the header is torn:
the device carries the magic word of an image that is not there (`Torn`), and the next step marks
it as one.

`unchanged_of_failed` says that this is the only way a failed step shows: without it the device is
what it was, and whatever is called afterwards answers and writes as if the step had not been made.
Two stores that only differ in what a failed step leaves are `Alike`, and no call tells them apart
(`Alike.observe_eq`).
-/

namespace SlimInterface

/-- A device whose writes store all bytes, or fail and leave it as it was. -/
class AtomicDevice (δ : Type) [NonVolatile δ] where
  /-- The bytes it holds. -/
  contents : δ → Bytes
  write_cases (off : Nat) (data : Bytes) (d : δ) :
    (∃ d', (NonVolatile.write off data).eval d = (.ok (), d') ∧
      off + data.length ≤ (contents d).length ∧ contents d' = (contents d).overwrite off data) ∨
    ∃ e, (NonVolatile.write off data).eval d = (.error e, d)

namespace MemoryStore

theorem eval_write_of_le {d : MemoryStore} {off : Nat} {data : Bytes}
    (h : off + data.length ≤ d.bytes.length) :
    (write off data).eval d = (.ok (), ⟨d.bytes.overwrite off data⟩) := by
  unfold write
  rw [Op.eval_bind_ok (Op.eval_read _), Bytes.put?, if_pos h]
  rfl

theorem eval_write_of_lt {d : MemoryStore} {off : Nat} {data : Bytes}
    (h : d.bytes.length < off + data.length) :
    (write off data).eval d = (.error (.storageError "write out of range"), d) := by
  unfold write
  rw [Op.eval_bind_ok (Op.eval_read _), Bytes.put?, if_neg (Nat.not_le.mpr h)]
  rfl

end MemoryStore

instance : AtomicDevice MemoryStore where
  contents d := d.bytes
  write_cases off data d := by
    by_cases h : off + data.length ≤ d.bytes.length
    · exact .inl ⟨_, MemoryStore.eval_write_of_le h, h, rfl⟩
    · exact .inr ⟨_, MemoryStore.eval_write_of_lt (Nat.lt_of_not_le h)⟩

instance : AtomicDevice FileStore where
  contents d := d.memory
  write_cases off data d := by
    show (∃ d', (FileStore.write off data).eval d = _ ∧ _) ∨
      ∃ e, (FileStore.write off data).eval d = _
    unfold FileStore.write
    rw [Op.eval_bind_ok (Op.eval_read _)]
    by_cases ho : d.isOpen = true
    · rw [if_pos ho, Bytes.put?]
      by_cases h : off + data.length ≤ d.memory.length
      · rw [if_pos h]
        exact .inl ⟨_, rfl, h, FileStore.memory_writeThrough _ _ _⟩
      · rw [if_neg h]
        exact .inr ⟨_, rfl⟩
    · rw [if_neg ho]
      exact .inr ⟨_, rfl⟩

namespace ParameterStore

section Alike

variable {δ ω : Type} {s t : ParameterStore δ ω}

/-! ## Stores that no call tells apart -/

/-- The same device, and the same progress. -/
structure Same (s t : ParameterStore δ ω) : Prop where
  device : s.device = t.device
  phase : s.phase = t.phase
  position : s.position = t.position
  written : s.written = t.written

/-- The same device, and the same progress as far as it matters: a store that has not begun sets
its place anew. -/
structure Alike (s t : ParameterStore δ ω) : Prop where
  device : s.device = t.device
  phase : s.phase = t.phase
  place : s.phase ≠ .start → s.position = t.position ∧ s.written = t.written

theorem Alike.refl (s : ParameterStore δ ω) : s.Alike s := ⟨rfl, rfl, fun _ => ⟨rfl, rfl⟩⟩

theorem Same.alike (h : s.Same t) : s.Alike t :=
  ⟨h.device, h.phase, fun _ => ⟨h.position, h.written⟩⟩

theorem Alike.same (h : s.Alike t) (hs : s.phase ≠ .start) : s.Same t :=
  ⟨h.device, h.phase, (h.place hs).1, (h.place hs).2⟩

theorem respects_onDevice_same {α : Type} (op : Op δ α) :
    (onDevice op : Op (ParameterStore δ ω) α).Respects Same :=
  Op.respects_within op (fun _ _ h => h.device) fun _ _ _ h => ⟨rfl, h.phase, h.position, h.written⟩

theorem respects_onDevice {α : Type} (op : Op δ α) :
    (onDevice op : Op (ParameterStore δ ω) α).Respects Alike :=
  Op.respects_within op (fun _ _ h => h.device) fun _ _ _ h => ⟨rfl, h.phase, h.place⟩

/-- Posting passes the answer through. -/
theorem answer_posting {α : Type} (op : Op (ParameterStore δ ω) α) :
    ((posting op).eval s).1 = (op.eval s).1 := by
  rcases h : op.eval s with ⟨_ | a, t⟩
  · obtain ⟨tally, world, hpost⟩ := eval_posting_error h
    rw [hpost]
  · rw [eval_posting_ok h]

/-- What posting adds to a state does not matter. -/
theorem alike_posting {α : Type} (op : Op (ParameterStore δ ω) α) :
    (op.eval s).2.Alike ((posting op).eval s).2 := by
  rcases h : op.eval s with ⟨_ | a, t⟩
  · obtain ⟨tally, world, hpost⟩ := eval_posting_error h
    rw [hpost]
    exact ⟨rfl, rfl, fun _ => ⟨rfl, rfl⟩⟩
  · rw [eval_posting_ok h]
    exact .refl _

theorem Alike.symm (h : s.Alike t) : t.Alike s :=
  ⟨h.device.symm, h.phase.symm, fun ht =>
    ⟨(h.place (h.phase ▸ ht)).1.symm, (h.place (h.phase ▸ ht)).2.symm⟩⟩

theorem Alike.trans {u : ParameterStore δ ω} (h : s.Alike t) (h' : t.Alike u) : s.Alike u :=
  ⟨h.device.trans h'.device, h.phase.trans h'.phase, fun hs =>
    ⟨(h.place hs).1.trans (h'.place (h.phase ▸ hs)).1,
      (h.place hs).2.trans (h'.place (h.phase ▸ hs)).2⟩⟩

theorem respects_posting {α : Type} {op : Op (ParameterStore δ ω) α} (h : op.Respects Alike) :
    (posting op).Respects Alike := by
  intro s t hst
  obtain ⟨ha, hst'⟩ := h s t hst
  rw [answer_posting, answer_posting]
  exact ⟨ha, ((alike_posting op).symm.trans hst').trans (alike_posting op)⟩

end Alike

variable {δ ω : Type} [NonVolatile δ] {s t : ParameterStore δ ω} {p : Bytes} {e : Fault} {d : δ}

theorem respects_begin (p : Bytes) :
    (begin p : Op (ParameterStore δ ω) StoreProgress).Respects Alike := by
  intro s t h
  unfold begin
  rw [Op.eval_bind_ok (Op.eval_read _), Op.eval_bind_ok (Op.eval_read _), h.device]
  by_cases hm : StoredImage.hasMagic t.device = true
  · rw [if_pos hm]
    exact ((respects_onDevice _).bind fun _ => (Op.respects_log _).bind fun _ =>
      Op.respects_pure _) s t h
  · rw [if_neg hm, Op.eval_bind_ok (Op.eval_log ..), Op.eval_bind_ok (Op.eval_log ..),
      Op.eval_bind_ok (Op.eval_update ..), Op.eval_bind_ok (Op.eval_update ..)]
    -- once the place is set, the two have made the same progress
    have hsame : Same { s with position := UInt32.ofNat imageLayout.dataOffset, written := 0 }
        { t with position := UInt32.ofNat imageLayout.dataOffset, written := 0 } :=
      ⟨h.device, h.phase, rfl, rfl⟩
    refine And.imp_right Same.alike ?_
    refine ((respects_onDevice_same _).bind fun _ => (respects_onDevice_same _).bind fun _ =>
      (Op.respects_update ?_).bind fun _ => Op.respects_pure _) _ _ hsame
    intro u v huv
    exact ⟨huv.device, rfl, huv.position, huv.written⟩

theorem respects_addChecksum (p : Bytes) :
    (addChecksum p : Op (ParameterStore δ ω) StoreProgress).Respects Same := by
  unfold addChecksum
  dsimp only
  by_cases hz : checksum 0 p = 0
  · rw [if_pos hz]
    exact (Op.respects_log _).bind fun _ => Op.respects_fail _
  · rw [if_neg hz]
    refine (respects_onDevice_same _).bind fun _ => ?_
    exact (Op.respects_update fun _ _ h => ⟨h.device, rfl, h.position, h.written⟩).bind fun _ =>
      Op.respects_pure _

theorem respects_writeChunk (p : Bytes) :
    (writeChunk p : Op (ParameterStore δ ω) StoreProgress).Respects Same := by
  intro s t h
  unfold writeChunk
  rw [Op.eval_bind_ok (Op.eval_read _), Op.eval_bind_ok (Op.eval_read _)]
  dsimp only
  -- what is written depends on the place, in which the two agree
  rw [h.position, h.written]
  by_cases hw : p.length ≤ t.written
  · rw [if_pos hw]
    exact ((Op.respects_log _).bind fun _ => Op.respects_fail _) s t h
  · rw [if_neg hw]
    refine ((respects_onDevice_same _).bind fun _ => (Op.respects_update ?_).bind fun _ =>
      Op.respects_pure _) s t h
    intro u v huv
    refine ⟨huv.device, ?_, ?_, rfl⟩
    · dsimp only
      rw [huv.phase]
    · dsimp only
      rw [huv.position]

theorem respects_process (p : Bytes) :
    (process p : Op (ParameterStore δ ω) StoreProgress).Respects Alike := by
  refine respects_posting fun s t h => ?_
  unfold step
  by_cases ha : p.isEmpty = true ∨ UInt32.size - 1 ≤ p.length
  · rw [if_pos ha]
    exact Op.respects_fail _ s t h
  · rw [if_neg ha, Op.eval_bind_ok (Op.eval_read _), Op.eval_bind_ok (Op.eval_read _), ← h.phase]
    cases hs : s.phase with
    | start => exact respects_begin p s t h
    | addChecksum =>
      have hstep := respects_addChecksum p s t (h.same (by rw [hs]; simp))
      exact ⟨hstep.1, hstep.2.alike⟩
    | writeData =>
      have hstep := respects_writeChunk p s t (h.same (by rw [hs]; simp))
      exact ⟨hstep.1, hstep.2.alike⟩
    | finish => exact ⟨rfl, h.device, rfl, fun hn => absurd rfl hn⟩

/-- What can be done with a store. -/
inductive Call (δ : Type)
  | process (p : Bytes)
  | prepare
  | image
  /-- The application works on the device itself. -/
  | device (f : δ → δ)

/-- What a call answers. -/
inductive Answer
  | progress (r : Except Fault StoreProgress)
  | erased (r : Except Fault Unit)
  | found (set : Except Fault (Option Bytes))
  | nothing

/-- A call with its answer. -/
def Call.op : Call δ → Op (ParameterStore δ ω) Answer
  | process p => do
    let r ← Op.attempt (ParameterStore.process p)
    pure (.progress r)
  | prepare => do
    let r ← Op.attempt ParameterStore.prepare
    pure (.erased r)
  | image => do
    let set ← Op.attempt ParameterStore.image
    pure (.found set)
  | device f => do
    Op.update fun s => { s with device := f s.device }
    pure .nothing

/-- What calls answer one after the other, and the device after each of them. -/
def observe : List (Call δ) → ParameterStore δ ω → List (Except Fault Answer × δ)
  | [], _ => []
  | c :: rest, s => ((c.op.eval s).1, (c.op.eval s).2.device) :: observe rest (c.op.eval s).2

theorem respects_call (c : Call δ) : (c.op : Op (ParameterStore δ ω) Answer).Respects Alike := by
  cases c with
  | process p => exact (respects_process p).attempt.bind fun _ => Op.respects_pure _
  | prepare =>
    exact (respects_posting (respects_onDevice _)).attempt.bind fun _ => Op.respects_pure _
  | image =>
    refine Op.Respects.bind (Op.Respects.attempt fun s t h => ⟨?_, h⟩) fun _ => Op.respects_pure _
    show Except.ok (StoredImage.find s.device).set? = Except.ok (StoredImage.find t.device).set?
    rw [h.device]
  | device f =>
    exact (Op.respects_update fun _ _ h => ⟨congrArg f h.device, h.phase, h.place⟩).bind fun _ =>
      Op.respects_pure _

/-- No calls tell the two apart. -/
theorem Alike.observe_eq (h : s.Alike t) (cs : List (Call δ)) : observe cs s = observe cs t := by
  induction cs generalizing s t with
  | nil => rfl
  | cons c rest ih =>
    obtain ⟨ha, hst⟩ := respects_call c s t h
    unfold observe
    rw [ha, hst.device, ih hst]

/-! ## Torn headers -/

/-- A write of a device that was accepted. -/
theorem eval_onDevice_ok {off : Nat} {data : Bytes}
    (h : (NonVolatile.write off data).eval s.device = (.ok (), d)) :
    (onDevice (NonVolatile.write off data)).eval s = (.ok (), { s with device := d }) :=
  Op.eval_within_of h

/-- A write that was refused, on a device that stays as it was. -/
theorem eval_onDevice_error {off : Nat} {data : Bytes}
    (h : (NonVolatile.write off data).eval s.device = (.error e, s.device)) :
    (onDevice (NonVolatile.write off data)).eval s = (.error e, s) :=
  Op.eval_within_of h

/-- The first step of storing `p` writes its magic word, which makes the device `d`, and is refused
the length. -/
structure Torn (p : Bytes) (s : ParameterStore δ ω) (d : δ) : Prop where
  admissible : StoreView.Admissible p
  start : s.phase = .start
  noImage : StoredImage.hasMagic s.device = false
  magic : (NonVolatile.write imageLayout.magicOffset
    (Bytes.littleEndian 4 imageLayout.magic.toNat)).eval s.device = (.ok (), d)
  length : ∃ e, (NonVolatile.write imageLayout.lengthOffset
    (Bytes.littleEndian 4 (UInt32.ofNat p.length).toNat)).eval d = (.error e, d)

/-- What an admissible set goes through, by phase. -/
theorem eval_step_of_admissible (h : StoreView.Admissible p) :
    (step p).eval s = (match s.phase with
      | .start => begin p
      | .addChecksum => addChecksum p
      | .writeData => writeChunk p
      | .finish => finish : Op (ParameterStore δ ω) StoreProgress).eval s := by
  unfold step
  rw [if_neg fun hr => StoreView.refused_iff.mp hr h]
  refine (Op.eval_bind_ok (Op.eval_read _)).trans ?_
  cases s.phase <;> rfl

theorem eval_step_of_start (h : StoreView.Admissible p) (hs : s.phase = .start) :
    (step p).eval s = (begin p).eval s := by
  rw [eval_step_of_admissible h, hs]

/-- What a store with a torn header has done. -/
theorem eval_begin_of_torn (h : Torn p s d) :
    ∃ e, (begin p).eval s =
      (.error e,
        { s with device := d, position := UInt32.ofNat imageLayout.dataOffset, written := 0 }) := by
  obtain ⟨e, hlength⟩ := h.length
  refine ⟨e, ?_⟩
  let s0 : ParameterStore δ ω :=
    { s with position := UInt32.ofNat imageLayout.dataOffset, written := 0 }
  unfold begin putWord
  rw [Op.eval_bind_ok (Op.eval_read _), if_neg (by rw [h.noImage]; decide),
    Op.eval_bind_ok (Op.eval_log _ _), Op.eval_bind_ok (Op.eval_update _ _),
    Op.eval_bind_ok (eval_onDevice_ok (s := s0) h.magic),
    Op.eval_bind_error (eval_onDevice_error hlength)]

/-- A torn header fails the step, and stays on the device. -/
theorem eval_process_of_torn (h : Torn p s d) :
    ∃ e t, (process p).eval s = (.error e, t) ∧ t.device = d ∧ t.phase = .start := by
  obtain ⟨e, hbegin⟩ := eval_begin_of_torn h
  obtain ⟨tally, world, hpost⟩ :=
    eval_posting_error ((eval_step_of_start h.admissible h.start).trans hbegin)
  exact ⟨e, _, hpost, rfl, h.start⟩

/-- On a device that reads its magic word back, the next step answers that there is an image, or
fails to mark it. -/
theorem answer_process_of_magic (hs : s.phase = .start) (hm : StoredImage.hasMagic s.device = true)
    (hp : StoreView.Admissible p) :
    ((process p).eval s).1 = ((NonVolatile.write imageLayout.stateOffset
      (Bytes.littleEndian 4 imageLayout.invalid.toNat)).eval s.device).1.map
        fun _ => .notApplicable := by
  unfold process
  rw [answer_posting, eval_step_of_start hp hs]
  unfold begin putWord onDevice
  rw [Op.eval_bind_ok (Op.eval_read _), if_pos hm, Op.eval_bind, Op.eval_within]
  rcases (NonVolatile.write imageLayout.stateOffset
    (Bytes.littleEndian 4 imageLayout.invalid.toNat)).eval s.device with ⟨_ | _, _⟩ <;> rfl

/-! ## Failed steps -/

section Atomic

variable [AtomicDevice δ]

theorem Torn.contents_eq (h : Torn p s d) :
    AtomicDevice.contents d = (AtomicDevice.contents s.device).overwrite imageLayout.magicOffset
      (Bytes.littleEndian 4 imageLayout.magic.toNat) := by
  rcases AtomicDevice.write_cases imageLayout.magicOffset
    (Bytes.littleEndian 4 imageLayout.magic.toNat) s.device with ⟨d', hw, -, hc⟩ | ⟨e, hw⟩
  · obtain rfl : d' = d := (Prod.mk.inj (hw.symm.trans h.magic)).2
    exact hc
  · exact absurd (hw.symm.trans h.magic) (by simp)

/-- A write that is all there is to do fails without a trace. -/
theorem eq_of_write_failed {α : Type} {off : Nat} {data : Bytes} {next : Op (ParameterStore δ ω) α}
    (h : (onDevice (NonVolatile.write off data) >>= fun _ => next).eval s = (.error e, t))
    (hnext : ∀ u, ∃ a v, next.eval u = (.ok a, v)) : t = s := by
  rcases AtomicDevice.write_cases off data s.device with ⟨d, hw, -⟩ | ⟨e', hw⟩
  · rw [Op.eval_bind_ok (eval_onDevice_ok hw)] at h
    obtain ⟨a, v, hv⟩ := hnext { s with device := d }
    rw [hv] at h
    cases h
  · rw [Op.eval_bind_error (eval_onDevice_error hw)] at h
    cases h
    rfl

theorem begin_failed (hp : StoreView.Admissible p) (hs : s.phase = .start)
    (h : (begin p).eval s = (.error e, t)) : s.Alike t ∨ ∃ d, Torn p s d := by
  unfold begin at h
  rw [Op.eval_bind_ok (Op.eval_read _)] at h
  by_cases hm : StoredImage.hasMagic s.device = true
  · rw [if_pos hm] at h
    obtain rfl := eq_of_write_failed h fun u => ⟨_, _, rfl⟩
    exact .inl (.refl _)
  · let s0 : ParameterStore δ ω :=
      { s with position := UInt32.ofNat imageLayout.dataOffset, written := 0 }
    unfold putWord at h
    rw [if_neg hm, Op.eval_bind_ok (Op.eval_log _ _), Op.eval_bind_ok (Op.eval_update _ _)] at h
    rcases AtomicDevice.write_cases imageLayout.magicOffset
      (Bytes.littleEndian 4 imageLayout.magic.toNat) s.device with ⟨d, hw, -⟩ | ⟨e', hw⟩
    · rw [Op.eval_bind_ok (eval_onDevice_ok (s := s0) hw)] at h
      rcases AtomicDevice.write_cases imageLayout.lengthOffset
        (Bytes.littleEndian 4 (UInt32.ofNat p.length).toNat) d with ⟨d', hw', -⟩ | hw'
      · rw [Op.eval_bind_ok (eval_onDevice_ok hw'), Op.eval_bind_ok (Op.eval_update _ _),
          Op.eval_pure] at h
        cases h
      · exact .inr ⟨d, hp, hs, Bool.eq_false_iff.mpr hm, hw, hw'⟩
    -- refused at once: only the place was set, which a store that has not begun does not have
    · rw [Op.eval_bind_error (eval_onDevice_error (s := s0) hw)] at h
      rw [← (Prod.mk.inj h).2]
      exact .inl ⟨rfl, rfl, fun hn => absurd hs hn⟩

theorem eq_of_addChecksum_failed (h : (addChecksum p).eval s = (.error e, t)) : t = s := by
  unfold addChecksum at h
  dsimp only at h
  by_cases hz : checksum 0 p = 0
  · rw [if_pos hz, Op.eval_bind_ok (Op.eval_log _ _), Op.eval_fail] at h
    cases h
    rfl
  · rw [if_neg hz] at h
    exact eq_of_write_failed h fun u => ⟨_, _, rfl⟩

theorem eq_of_writeChunk_failed (h : (writeChunk p).eval s = (.error e, t)) : t = s := by
  unfold writeChunk at h
  rw [Op.eval_bind_ok (Op.eval_read _)] at h
  dsimp only at h
  by_cases hw : p.length ≤ s.written
  · rw [if_pos hw, Op.eval_bind_ok (Op.eval_log _ _), Op.eval_fail] at h
    cases h
    rfl
  · rw [if_neg hw] at h
    exact eq_of_write_failed h fun u => ⟨_, _, rfl⟩

/-- A failed step tears the header, or leaves nothing. -/
theorem step_failed (h : (step p).eval s = (.error e, t)) : s.Alike t ∨ ∃ d, Torn p s d := by
  by_cases hp : StoreView.Admissible p
  · rw [eval_step_of_admissible hp] at h
    cases hs : s.phase with
    | start =>
      rw [hs] at h
      exact begin_failed hp hs h
    | addChecksum =>
      rw [hs] at h
      obtain rfl := eq_of_addChecksum_failed h
      exact .inl (.refl _)
    | writeData =>
      rw [hs] at h
      obtain rfl := eq_of_writeChunk_failed h
      exact .inl (.refl _)
    | finish =>
      rw [hs] at h
      cases h
  · unfold step at h
    rw [if_pos (StoreView.refused_iff.mpr hp), Op.eval_fail] at h
    cases h
    exact .inl (.refl _)

/-- What posting adds to the store does not hide what failed. -/
theorem process_failed (h : (process p).eval s = (.error e, t)) :
    s.Alike t ∨ ∃ d, Torn p s d := by
  have hanswer := answer_posting (step p) (s := s)
  have hpost := alike_posting (step p) (s := s)
  rw [show posting (step p) = process p from rfl, h] at hanswer hpost
  rcases hstep : (step p).eval s with ⟨r, u⟩
  rw [hstep] at hanswer hpost
  obtain rfl : r = .error e := hanswer.symm
  exact (step_failed hstep).imp_left fun halike => halike.trans hpost

/-- A failed step that tears no header leaves the device as it was, and no call made afterwards
tells that it was made. A step that tears one leaves the magic word on the device: as soon as it is
read back, every set is answered as if there were an image. -/
theorem unchanged_of_failed (h : (process p).eval s = (.error e, t)) :
    ((∀ d, ¬ Torn p s d) ∧ t.device = s.device ∧ ∀ cs, observe cs t = observe cs s) ∨
      ∃ d, Torn p s d ∧ t.device = d ∧
        AtomicDevice.contents d = (AtomicDevice.contents s.device).overwrite imageLayout.magicOffset
          (Bytes.littleEndian 4 imageLayout.magic.toNat) ∧
        (StoredImage.hasMagic d = true → ∀ q, StoreView.Admissible q →
          ((process q).eval t).1 = ((NonVolatile.write imageLayout.stateOffset
            (Bytes.littleEndian 4 imageLayout.invalid.toNat)).eval d).1.map
              fun _ => .notApplicable) := by
  by_cases htorn : ∃ d, Torn p s d
  · obtain ⟨d, hd⟩ := htorn
    obtain ⟨e', t', ht, hdev, hphase⟩ := eval_process_of_torn hd
    obtain rfl : t' = t := (Prod.mk.inj (ht.symm.trans h)).2
    refine .inr ⟨d, hd, hdev, hd.contents_eq, fun hm q hq => ?_⟩
    rw [← hdev] at hm ⊢
    exact answer_process_of_magic hphase hm hq
  · have halike := (process_failed h).resolve_right htorn
    exact .inl ⟨fun d hd => htorn ⟨d, hd⟩, halike.device.symm,
      fun cs => (halike.observe_eq cs).symm⟩

/-- Eight erased bytes have room for a magic word and not for a length: nothing is stored, and the
next step takes the word for an image. -/
theorem unchanged_of_failed_eight_bytes :
    let p : Bytes := [7]
    let s : ParameterStore MemoryStore Unit :=
      fresh (MemoryStore.create 8 []) IncidentHandler.silent ()
    ∃ t, (process p).eval s = (.error (.storageError "write out of range"), t) ∧
      StoredImage.find s.device = .absent ∧
      t.device.bytes = [0xEF, 0xBE, 0xAD, 0xDE, 0xFF, 0xFF, 0xFF, 0xFF] ∧
      ((process p).eval t).1 = .ok .notApplicable := by
  intro p s
  have hadmissible : StoreView.Admissible p := ⟨by simp [p], by decide⟩
  rcases h : (process p).eval s with ⟨r, t⟩
  have hr : r = .error (.storageError "write out of range") := (Prod.mk.inj h).1.symm
  have hbytes : t.device.bytes = [0xEF, 0xBE, 0xAD, 0xDE, 0xFF, 0xFF, 0xFF, 0xFF] := by
    rw [← (Prod.mk.inj h).2]
    rfl
  subst hr
  refine ⟨t, rfl, rfl, hbytes, ?_⟩
  rcases unchanged_of_failed h with ⟨-, hdevice, -⟩ | ⟨d, -, hdevice, -, hnext⟩
  · rw [hdevice] at hbytes
    exact absurd hbytes (by decide)
  · have hd : d = ⟨[0xEF, 0xBE, 0xAD, 0xDE, 0xFF, 0xFF, 0xFF, 0xFF]⟩ := by
      rw [← hdevice, ← hbytes]
    subst hd
    rw [hnext (by decide) p hadmissible]
    rfl

end Atomic

end ParameterStore

end SlimInterface
