import Mathlib.Algebra.Group.Nat.Defs
import SlimInterface.Proofs.Storage.Device

/-!
# What a step of storing does

A step depends on the phase of the store, on where it stands, and on what the device holds;
`StoreView` is just that. On a lawful device with room for the set, `StoreStep` lists what a
step that returns can do (`Returns.step`); a step returns whenever the places of the whole set are
words (`exists_returns`). Erasing changes the device and nothing else (`eval_prepare`).
What an image is found to be is a matter of its bytes (`find_eq_intact`, `find_eq_absent`).
-/

namespace SlimInterface

/-- What the progress of a store is made of: the part in memory, and the bytes of the device. -/
structure StoreView where
  phase : StorePhase
  position : Nat
  written : Nat
  bytes : Bytes

namespace StoreView

variable {v v' : StoreView} {p : Bytes}

/-- Write a word of the header. -/
def putWord (off : Nat) (word : UInt32) (v : StoreView) : StoreView :=
  { v with bytes := v.bytes.overwrite off (Bytes.littleEndian 4 word.toNat) }

/-- The next piece of the set. -/
def chunk (p : Bytes) (v : StoreView) : Bytes := (p.drop v.written).take imageLayout.chunkSize

/-- The store after the next piece was written. -/
def putChunk (p : Bytes) (v : StoreView) : StoreView where
  phase := if v.written + (v.chunk p).length = p.length then .finish else v.phase
  position := v.position + (v.chunk p).length
  written := v.written + (v.chunk p).length
  bytes := v.bytes.overwrite v.position (v.chunk p)

/-- A set that can be stored at all. -/
def Admissible (p : Bytes) : Prop := p ≠ [] ∧ p.length < 2 ^ 32 - 1

/-- A step refuses the sets that cannot be stored. -/
theorem refused_iff {p : Bytes} :
    p.isEmpty = true ∨ UInt32.size - 1 ≤ p.length ↔ ¬ Admissible p := by
  unfold Admissible
  rw [List.isEmpty_iff, Decidable.not_and_iff_not_or_not, Decidable.not_not, Nat.not_lt]
  rfl

/-- The next piece lies where it belongs. -/
def Placed (v : StoreView) : Prop :=
  v.phase = .writeData → v.position = imageLayout.dataOffset + v.written

end StoreView

/-- What one step of storing a set can do. -/
inductive StoreStep (p : Bytes) (v : StoreView) :
    Except Fault StoreProgress → StoreView → Prop
  | refused (h : ¬ StoreView.Admissible p) : StoreStep p v (.error .invalidParameter) v
  | occupied (hs : v.phase = .start)
      (hm : v.bytes.dword imageLayout.magicOffset = imageLayout.magic) :
      StoreStep p v (.ok .notApplicable) (v.putWord imageLayout.stateOffset imageLayout.invalid)
  | begun (h : StoreView.Admissible p) (hs : v.phase = .start)
      (hm : v.bytes.dword imageLayout.magicOffset ≠ imageLayout.magic) :
      StoreStep p v (.ok .busy)
        { (v.putWord imageLayout.magicOffset imageLayout.magic).putWord imageLayout.lengthOffset
            (UInt32.ofNat p.length) with
          phase := .addChecksum
          position := imageLayout.dataOffset
          written := 0 }
  | unsummable (hs : v.phase = .addChecksum) (h : checksum 0 p = 0) :
      StoreStep p v (.error .crcError) v
  | summed (hs : v.phase = .addChecksum) (h : checksum 0 p ≠ 0) :
      StoreStep p v (.ok .busy)
        { v.putWord imageLayout.checksumOffset (checksum 0 p) with phase := .writeData }
  | overrun (hs : v.phase = .writeData) (h : p.length ≤ v.written) :
      StoreStep p v (.error .invalidParameter) v
  | written (hs : v.phase = .writeData) (h : v.written < p.length) :
      StoreStep p v (.ok .busy) (v.putChunk p)
  | finished (hs : v.phase = .finish) (h : StoreView.Admissible p) :
      StoreStep p v (.ok .finished) ⟨.start, 0, 0, v.bytes⟩

/-- No step makes the device longer or shorter. -/
theorem StoreStep.length_bytes {p : Bytes} {v v' : StoreView} {r : Except Fault StoreProgress}
    (h : StoreStep p v r v') : v'.bytes.length = v.bytes.length := by
  cases h with
  | refused | unsummable | overrun | finished => rfl
  | occupied | summed | written => exact Bytes.length_overwrite _ _ _
  | begun => exact (Bytes.length_overwrite _ _ _).trans (Bytes.length_overwrite _ _ _)

/-! ## Images -/

namespace Bytes

/-- The header of a set as far as it is written, and the first `n` bytes of the set. -/
structure Carries (b p : Bytes) (summed : Prop) (n : Nat) : Prop where
  magic : b.dword imageLayout.magicOffset = imageLayout.magic
  unmarked : b.dword imageLayout.stateOffset ≠ imageLayout.invalid
  length : b.dword imageLayout.lengthOffset = UInt32.ofNat p.length
  sum : summed → b.dword imageLayout.checksumOffset = checksum 0 p
  data : (b.drop imageLayout.dataOffset).take n = p.take n

end Bytes

namespace StoredImage

variable {δ : Type} [NonVolatile δ] [LawfulDevice δ] {d : δ} {p : Bytes}

theorem dwordAt_eq {off : Nat} (h : imageLayout.dataOffset ≤ (LawfulDevice.contents d).length)
    (hoff : off + 4 ≤ imageLayout.dataOffset) :
    NonVolatile.dwordAt off d = .ok ((LawfulDevice.contents d).dword off) :=
  LawfulDevice.dwordAt_eq (Nat.le_trans hoff h)

theorem hasMagic_iff (h : imageLayout.dataOffset ≤ (LawfulDevice.contents d).length) :
    hasMagic d = true ↔
      (LawfulDevice.contents d).dword imageLayout.magicOffset = imageLayout.magic := by
  unfold hasMagic
  rw [dwordAt_eq h (by decide)]
  exact decide_eq_true_iff

theorem find_eq_absent (h : imageLayout.dataOffset ≤ (LawfulDevice.contents d).length)
    (hm : (LawfulDevice.contents d).dword imageLayout.magicOffset ≠ imageLayout.magic) :
    find d = .absent := by
  unfold find
  rw [if_neg fun he => hm ((hasMagic_iff h).mp he)]

theorem lengthOf?_eq (hp : StoreView.Admissible p)
    (hlen : imageLayout.dataOffset ≤ (LawfulDevice.contents d).length)
    (h : (LawfulDevice.contents d).dword imageLayout.lengthOffset = UInt32.ofNat p.length) :
    lengthOf? d = some p.length := by
  have hpos : 0 < p.length := List.length_pos_iff.mpr hp.1
  have hword : (UInt32.ofNat p.length).toNat = p.length := by
    rw [UInt32.toNat_ofNat', Nat.mod_eq_of_lt (by have := hp.2; omega)]
  unfold lengthOf?
  rw [dwordAt_eq hlen (by decide), h]
  dsimp only
  -- a length is neither zero nor that of an erased header
  rw [if_neg, hword]
  intro h
  rcases h with he | he
  · rw [he] at hword
    exact absurd hword (by simp; omega)
  · rw [he] at hword
    exact absurd hword (by have := hp.2; simp; omega)

theorem dataOf?_eq {n : Nat}
    (hfit : imageLayout.dataOffset + n ≤ (LawfulDevice.contents d).length) :
    dataOf? d n = some (((LawfulDevice.contents d).drop imageLayout.dataOffset).take n) := by
  unfold dataOf?
  rw [LawfulDevice.bytesFrom_eq (Nat.le_trans (Nat.le_add_right _ _) hfit)]
  dsimp only
  unfold Bytes.slice?
  rw [if_pos (by rw [List.length_drop]; omega), List.drop_zero]

/-- Behind the whole header of a set, the data is what its checksum is compared with. -/
theorem find_eq_verified {n : Nat} (hp : StoreView.Admissible p)
    (hfit : imageLayout.dataOffset + p.length ≤ (LawfulDevice.contents d).length)
    (h : (LawfulDevice.contents d).Carries p True n) :
    let data := ((LawfulDevice.contents d).drop imageLayout.dataOffset).take p.length
    find d = if checksum 0 data = checksum 0 p then .intact data else .corrupt := by
  have hlen : imageLayout.dataOffset ≤ (LawfulDevice.contents d).length :=
    Nat.le_trans (Nat.le_add_right _ _) hfit
  unfold find
  rw [if_pos ((hasMagic_iff hlen).mpr h.magic), dwordAt_eq hlen (by decide)]
  dsimp only
  rw [if_neg h.unmarked, lengthOf?_eq hp hlen h.length]
  dsimp only
  unfold verify
  rw [dwordAt_eq hlen (by decide), dataOf?_eq hfit, h.sum trivial]

/-- A set whose header and bytes are all there is found. -/
theorem find_eq_intact (hp : StoreView.Admissible p)
    (hfit : imageLayout.dataOffset + p.length ≤ (LawfulDevice.contents d).length)
    (h : (LawfulDevice.contents d).Carries p True p.length) : find d = .intact p := by
  rw [find_eq_verified hp hfit h, h.data, List.take_length, if_pos rfl]

end StoredImage

namespace ParameterStore

variable {δ ω α : Type} {s t : ParameterStore δ ω} {op : Op (ParameterStore δ ω) α} {p : Bytes}
  {r : Except Fault StoreProgress}

theorem eval_posting_ok {a : α} (h : op.eval s = (.ok a, t)) :
    (posting op).eval s = (.ok a, t) := by
  unfold posting
  rw [Op.eval_bind_ok (Op.eval_attempt _ _), h, Op.eval_bind_ok (Op.eval_read _), Op.eval_within,
    Tally.eval_check_ok]

theorem eval_posting_error {e : Fault} (h : op.eval s = (.error e, t)) :
    ∃ tally world, (posting op).eval s = (.error e, { t with tally, world }) := by
  unfold posting
  rw [Op.eval_bind_ok (Op.eval_attempt _ _), h, Op.eval_bind_ok (Op.eval_read _), Op.eval_within,
    Tally.eval_check_error]
  exact ⟨_, _, rfl⟩

/-! ## Places -/

/-- A place moves by the length of a piece, unless it goes round. -/
theorem toNat_add_of_not_lt {a : UInt32} {n : Nat} (hn : n < 2 ^ 32)
    (h : ¬ a + UInt32.ofNat n < a) : (a + UInt32.ofNat n).toNat = a.toNat + n := by
  have ha := a.toNat_lt
  rw [UInt32.lt_iff_toNat_lt, UInt32.toNat_add, UInt32.toNat_ofNat_of_lt' hn] at h
  rw [UInt32.toNat_add, UInt32.toNat_ofNat_of_lt' hn]
  omega

theorem not_add_lt {a : UInt32} {n : Nat} (h : a.toNat + n < 2 ^ 32) :
    ¬ a + UInt32.ofNat n < a := by
  have hn : n < 2 ^ 32 := Nat.lt_of_le_of_lt (Nat.le_add_left _ _) h
  rw [UInt32.lt_iff_toNat_lt, UInt32.toNat_add, UInt32.toNat_ofNat_of_lt' hn, Nat.mod_eq_of_lt h]
  omega

/-- Only a piece can take the place round. -/
theorem not_wrapped (hs : s.phase ≠ .writeData) : ¬ Wrapped s t := fun h => hs h.1

variable [NonVolatile δ]

/-- The call of a step with `p` returns `r` and leaves `t`. -/
def Returns (s : ParameterStore δ ω) (p : Bytes) (r : Except Fault StoreProgress)
    (t : ParameterStore δ ω) : Prop :=
  (process? p s).map (fun o => (o.result, o.state)) = some (r, t)

variable [LawfulDevice δ]

/-- The view of a store. -/
def view (s : ParameterStore δ ω) : StoreView :=
  ⟨s.phase, s.position.toNat, s.written, LawfulDevice.contents s.device⟩

/-- An open store whose device has room for a set. -/
structure Roomy (p : Bytes) (s : ParameterStore δ ω) : Prop where
  ready : LawfulDevice.Ready s.device
  fits : imageLayout.dataOffset + p.length ≤ s.view.bytes.length

/-! ## Steps -/

/-- A write on the device shows in the bytes, and nowhere else. -/
theorem eval_write (h : s.Roomy p) (off : Nat) (data : Bytes)
    (hfit : off + data.length ≤ s.view.bytes.length) :
    ∃ d, (onDevice (NonVolatile.write off data)).eval s = (.ok (), { s with device := d }) ∧
      ({ s with device := d } : ParameterStore δ ω).Roomy p ∧
      LawfulDevice.contents d = s.view.bytes.overwrite off data := by
  obtain ⟨d, heval, hready, hbytes⟩ := LawfulDevice.eval_write h.ready hfit
  refine ⟨d, ?_, ⟨hready, ?_⟩, hbytes⟩
  · unfold onDevice
    rw [Op.eval_within, heval]
  · show _ ≤ (LawfulDevice.contents d).length
    rw [hbytes, Bytes.length_overwrite]
    exact h.fits

theorem eval_putWord (h : s.Roomy p) (off : Nat) (word : UInt32)
    (hoff : off + 4 ≤ imageLayout.dataOffset) :
    ∃ d, (putWord off word).eval s = (.ok (), { s with device := d }) ∧
      ({ s with device := d } : ParameterStore δ ω).Roomy p ∧
      LawfulDevice.contents d = (s.view.putWord off word).bytes := by
  have hfits := h.fits
  exact eval_write h _ _ (by rw [Bytes.length_littleEndian]; omega)

theorem eval_begin (h : s.Roomy p) (ha : StoreView.Admissible p) (hs : s.phase = .start) :
    ∃ r t, (begin p).eval s = (r, t) ∧ t.Roomy p ∧ StoreStep p s.view r t.view := by
  have hmagic := StoredImage.hasMagic_iff (d := s.device)
    (Nat.le_trans (Nat.le_add_right _ _) h.fits)
  unfold begin
  rw [Op.eval_bind_ok (Op.eval_read _)]
  by_cases hm : StoredImage.hasMagic s.device = true
  · obtain ⟨d, hput, hroomy, hbytes⟩ := eval_putWord h imageLayout.stateOffset
      imageLayout.invalid (by decide)
    rw [if_pos hm, Op.eval_bind_ok hput, Op.eval_bind_ok (Op.eval_log _ _), Op.eval_pure]
    refine ⟨_, _, rfl, hroomy, ?_⟩
    unfold view
    rw [hbytes]
    exact .occupied hs (hmagic.mp hm)
  -- the position is set before the header is written, the phase after it
  · let s0 : ParameterStore δ ω :=
      { s with position := UInt32.ofNat imageLayout.dataOffset, written := 0 }
    have h0 : s0.Roomy p := ⟨h.ready, h.fits⟩
    obtain ⟨d1, hput1, h1, hbytes1⟩ := eval_putWord h0 imageLayout.magicOffset
      imageLayout.magic (by decide)
    obtain ⟨d2, hput2, h2, hbytes2⟩ := eval_putWord h1 imageLayout.lengthOffset
      (UInt32.ofNat p.length) (by decide)
    rw [if_neg hm, Op.eval_bind_ok (Op.eval_log _ _), Op.eval_bind_ok (Op.eval_update _ _),
      Op.eval_bind_ok hput1, Op.eval_bind_ok hput2, Op.eval_bind_ok (Op.eval_update _ _),
      Op.eval_pure]
    refine ⟨_, _, rfl, ⟨h2.ready, h2.fits⟩, ?_⟩
    have hbytes : LawfulDevice.contents d2 =
        ((s.view.putWord imageLayout.magicOffset imageLayout.magic).putWord
          imageLayout.lengthOffset (UInt32.ofNat p.length)).bytes := by
      rw [hbytes2]
      show (LawfulDevice.contents d1).overwrite _ _ = _
      rw [hbytes1]
      rfl
    unfold view
    rw [hbytes]
    exact .begun ha hs fun he => hm (hmagic.mpr he)

theorem eval_addChecksum (h : s.Roomy p) (hs : s.phase = .addChecksum) :
    ∃ r t, (addChecksum p).eval s = (r, t) ∧ t.Roomy p ∧ StoreStep p s.view r t.view := by
  unfold addChecksum
  dsimp only
  by_cases hz : checksum 0 p = 0
  · rw [if_pos hz, Op.eval_bind_ok (Op.eval_log _ _), Op.eval_fail]
    exact ⟨_, s, rfl, h, .unsummable hs hz⟩
  · obtain ⟨d, hput, hroomy, hbytes⟩ := eval_putWord h imageLayout.checksumOffset
      (checksum 0 p) (by decide)
    rw [if_neg hz, Op.eval_bind_ok hput, Op.eval_bind_ok (Op.eval_update _ _), Op.eval_pure]
    refine ⟨_, _, rfl, ⟨hroomy.ready, hroomy.fits⟩, ?_⟩
    unfold view
    rw [hbytes]
    exact .summed hs hz

theorem eval_writeChunk (h : s.Roomy p) (hs : s.phase = .writeData) (hp : s.view.Placed) :
    ∃ r t, (writeChunk p).eval s = (r, t) ∧ t.Roomy p ∧
      (¬ Wrapped s t → StoreStep p s.view r t.view) ∧
      (imageLayout.dataOffset + p.length < 2 ^ 32 → ¬ Wrapped s t) := by
  have hfits := h.fits
  have hposition : s.position.toNat = imageLayout.dataOffset + s.written := hp hs
  unfold writeChunk
  rw [Op.eval_bind_ok (Op.eval_read _)]
  dsimp only
  by_cases hw : p.length ≤ s.written
  · rw [if_pos hw, Op.eval_bind_ok (Op.eval_log _ _), Op.eval_fail]
    exact ⟨_, s, rfl, h, fun _ => .overrun hs hw, fun _ hn => absurd hn.2 (UInt32.lt_irrefl _)⟩
  · have hchunk : (s.view.chunk p).length ≤ p.length - s.written := by
      unfold StoreView.chunk
      rw [List.length_take, List.length_drop]
      exact Nat.min_le_right _ _
    have hshort : (s.view.chunk p).length < 2 ^ 32 := by
      unfold StoreView.chunk
      rw [List.length_take]
      exact Nat.lt_of_le_of_lt (Nat.min_le_left _ _) (by decide)
    obtain ⟨d, hput, hroomy, hbytes⟩ := eval_write h s.position.toNat (s.view.chunk p)
      (by omega)
    have hput' : (onDevice (NonVolatile.write s.position.toNat
        ((p.drop s.written).take imageLayout.chunkSize))).eval s = _ := hput
    rw [if_neg hw, Op.eval_bind_ok hput', Op.eval_bind_ok (Op.eval_update _ _), Op.eval_pure]
    refine ⟨_, _, rfl, ⟨hroomy.ready, hroomy.fits⟩, fun hn => ?_, fun hlt hn => ?_⟩
    · have hmoved : (s.position + UInt32.ofNat (s.view.chunk p).length).toNat =
          s.position.toNat + (s.view.chunk p).length :=
        toNat_add_of_not_lt hshort fun hlt => hn ⟨hs, hlt⟩
      have hstep : StoreStep p s.view (.ok .busy) (s.view.putChunk p) :=
        .written hs (Nat.lt_of_not_le hw)
      unfold StoreView.putChunk at hstep
      rw [show s.view.position = s.position.toNat from rfl, ← hbytes, ← hmoved] at hstep
      exact hstep
    · exact absurd hn.2 (not_add_lt (a := s.position) (n := (s.view.chunk p).length) (by omega))

/-- Every step of storing is one of `StoreStep`, as long as the place does not go round. -/
theorem eval_process (h : s.Roomy p) (hp : s.view.Placed) :
    ∃ r t, (process p).eval s = (r, t) ∧ t.Roomy p ∧
      (¬ Wrapped s t → StoreStep p s.view r t.view) ∧
      (imageLayout.dataOffset + p.length < 2 ^ 32 → ¬ Wrapped s t) := by
  have hstep : ∃ r t, (step p).eval s = (r, t) ∧ t.Roomy p ∧
      (¬ Wrapped s t → StoreStep p s.view r t.view) ∧
      (imageLayout.dataOffset + p.length < 2 ^ 32 → ¬ Wrapped s t) := by
    unfold step
    by_cases ha : StoreView.Admissible p
    · rw [if_neg fun hr => StoreView.refused_iff.mp hr ha, Op.eval_bind_ok (Op.eval_read _)]
      cases hs : s.phase with
      | start =>
        obtain ⟨r, t, heval, hroomy, hst⟩ := eval_begin h ha hs
        exact ⟨r, t, heval, hroomy, fun _ => hst, fun _ => not_wrapped (by simp [hs])⟩
      | addChecksum =>
        obtain ⟨r, t, heval, hroomy, hst⟩ := eval_addChecksum h hs
        exact ⟨r, t, heval, hroomy, fun _ => hst, fun _ => not_wrapped (by simp [hs])⟩
      | writeData => exact eval_writeChunk h hs hp
      | finish =>
        exact ⟨_, { s with phase := .start, position := 0, written := 0 }, rfl,
          ⟨h.ready, h.fits⟩, fun _ => .finished hs ha, fun _ => not_wrapped (by simp [hs])⟩
    · rw [if_pos (StoreView.refused_iff.mpr ha), Op.eval_fail]
      exact ⟨_, s, rfl, h, fun _ => .refused ha, fun _ hn => absurd hn.2 (UInt32.lt_irrefl _)⟩
  obtain ⟨r, t, heval, hroomy, hs⟩ := hstep
  unfold process
  cases r with
  | ok a => exact ⟨_, t, eval_posting_ok heval, hroomy, hs⟩
  -- an incident is posted, which the view does not show
  | error e =>
    obtain ⟨tally, world, hpost⟩ := eval_posting_error heval
    exact ⟨_, _, hpost, ⟨hroomy.ready, hroomy.fits⟩, hs⟩

omit [LawfulDevice δ] in
theorem returns_iff :
    s.Returns p r t ↔ (process p).eval s = (r, t) ∧ ¬ Wrapped s t := by
  have hstate : ((process p).run s).state = ((process p).eval s).2 := rfl
  unfold Returns process?
  dsimp only
  rw [hstate]
  by_cases hw : Wrapped s ((process p).eval s).2
  · rw [if_pos hw]
    refine ⟨fun h => (nomatch h), fun ⟨he, hn⟩ => ?_⟩
    rw [he] at hw
    exact absurd hw hn
  · rw [if_neg hw]
    refine ⟨fun h => ?_, fun ⟨he, _⟩ => congrArg some he⟩
    have he : (process p).eval s = (r, t) := Option.some.inj h
    rw [he] at hw
    exact ⟨he, hw⟩

/-- What a step that returns has done. -/
theorem Returns.step (h : s.Returns p r t) (hs : s.Roomy p) (hp : s.view.Placed) :
    t.Roomy p ∧ StoreStep p s.view r t.view := by
  obtain ⟨he, hn⟩ := returns_iff.mp h
  obtain ⟨r', t', heval, hroomy, hstep, -⟩ := eval_process hs hp
  rw [heval] at he
  cases he
  exact ⟨hroomy, hstep hn⟩

/-- A step of a set whose places are all words returns. -/
theorem exists_returns (hs : s.Roomy p) (hp : s.view.Placed)
    (hlt : imageLayout.dataOffset + p.length < 2 ^ 32) :
    ∃ r t, s.Returns p r t ∧ t.Roomy p ∧ StoreStep p s.view r t.view := by
  obtain ⟨r, t, heval, hroomy, hstep, hn⟩ := eval_process hs hp
  exact ⟨r, t, returns_iff.mpr ⟨heval, hn hlt⟩, hroomy, hstep (hn hlt)⟩

/-- Opening makes the device ready, and nothing is under way. -/
theorem mount_eq_ok {d : δ} {handler : IncidentHandler ω} {w : ω}
    (h : mount.eval (fresh d handler w) = (.ok (), s)) :
    LawfulDevice.Ready s.device ∧ s.phase = .start := by
  rcases hd : (NonVolatile.mount : Op δ Unit).eval d with ⟨r, d'⟩
  have hon : (onDevice (Op.reporting
      (fun e => line .error ("Unable to open the non-volatile store: " ++ e.message)) id
      NonVolatile.mount)).eval (fresh d handler w) = (r, fresh d' handler w) := by
    unfold onDevice
    rw [Op.eval_within, Op.eval_reporting]
    show ((((NonVolatile.mount : Op δ Unit).eval d).1).mapError id,
      fresh ((NonVolatile.mount : Op δ Unit).eval d).2 handler w) = _
    rw [hd]
    cases r <;> rfl
  unfold mount at h
  cases r with
  | error e =>
    obtain ⟨tally, world, hpost⟩ := eval_posting_error hon
    rw [hpost] at h
    cases h
  | ok a =>
    rw [eval_posting_ok hon] at h
    cases h
    exact ⟨LawfulDevice.ready_of_mount hd, rfl⟩

/-- Erasing leaves no header. -/
theorem eval_prepare (h : s.Roomy p) :
    ∃ t, prepare.eval s = (.ok (), t) ∧ t.Roomy p ∧ t.view = { s.view with bytes := t.view.bytes } ∧
      t.view.bytes.Blank := by
  obtain ⟨d, heval, hready, hlen, hblank⟩ := LawfulDevice.eval_erase h.ready
    (Nat.le_trans (Nat.le_add_right _ _) h.fits)
  have herase : (onDevice (NonVolatile.erase imageLayout.magicOffset)).eval s =
      (.ok (), { s with device := d }) :=
    Op.eval_within_of heval
  refine ⟨_, eval_posting_ok herase, ⟨hready, ?_⟩, rfl, hblank⟩
  show _ ≤ (LawfulDevice.contents d).length
  rw [hlen]
  exact h.fits

end ParameterStore

end SlimInterface
