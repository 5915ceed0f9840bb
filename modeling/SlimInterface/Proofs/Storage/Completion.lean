import SlimInterface.Proofs.Run
import SlimInterface.Proofs.Storage.Steps

/-!
# When a finished store left an image

The progress of a store lives in two places: the phase in memory, and the header on the
device. Erasing clears the header and leaves the phase alone. `image_of_finished` says what
that comes to: a store that reports that it is finished has left its set on the device, unless
the device was erased since its header was written; then there is no image.

A run consists of steps that return. A set whose places on the device are not all words has no run
that finishes; every shorter one has, erased or not (`run_finished`).
-/

namespace SlimInterface

namespace Storing

variable {δ ω : Type} [NonVolatile δ] [LawfulDevice δ]

/-! ## Runs -/

/-- What happens to a store. -/
inductive Event
  /-- The device is erased. -/
  | prepare
  /-- One step of storing. -/
  | process (answer : Except Fault StoreProgress)

/-- Steps of storing one set that return, and erasing, in any order. -/
inductive Step (p : Bytes) (s : ParameterStore δ ω) : Event → ParameterStore δ ω → Prop
  | prepare {r : Except Fault Unit} {t : ParameterStore δ ω}
      (h : ParameterStore.prepare.eval s = (r, t)) : Step p s .prepare t
  | process {r : Except Fault StoreProgress} {t : ParameterStore δ ω}
      (h : s.Returns p r t) : Step p s (.process r) t

/-- Where the store at hand is. -/
inductive Underway
  /-- None has begun since the last one was finished. -/
  | idle
  /-- Its header was written. -/
  | whole
  /-- Its header was written, and the device was erased since. -/
  | erased
  deriving DecidableEq, Repr

/-- What an event makes of the store at hand. The first step that does not finish it writes
the header. -/
def Underway.next (u : Underway) : Event → Underway
  | .prepare => if u = .idle then .idle else .erased
  | .process (.ok .busy) => if u = .idle then .whole else u
  | .process (.ok .finished) => .idle
  | .process _ => u

/-- Where the store at hand is after the events `es`. -/
def underway (es : List Event) : Underway := es.foldl Underway.next .idle

theorem underway_append (es : List Event) (e : Event) :
    underway (es ++ [e]) = (underway es).next e := by
  unfold underway
  rw [List.foldl_append]
  rfl

/-! ## Progress -/

/-- The phase, the place and the device belong together. -/
structure Inv (p : Bytes) (u : Underway) (v : StoreView) : Prop where
  idle_iff : u = .idle ↔ v.phase = .start
  placed : v.phase = .addChecksum ∨ v.phase = .writeData →
    v.position = imageLayout.dataOffset + v.written ∧ v.written < p.length
  complete : v.phase = .finish → v.written = p.length
  /-- A mark is only left beside the magic word. -/
  unmarked : v.bytes.dword imageLayout.magicOffset ≠ imageLayout.magic →
    v.bytes.dword imageLayout.stateOffset ≠ imageLayout.invalid
  erased : u = .erased → v.bytes.dword imageLayout.magicOffset ≠ imageLayout.magic
  whole : u = .whole → v.bytes.Carries p (v.phase ≠ .addChecksum) v.written

variable {p : Bytes} {u : Underway} {v v' : StoreView} {r : Except Fault StoreProgress}

theorem blank_magic {b : Bytes} (h : b.Blank) :
    b.dword imageLayout.magicOffset ≠ imageLayout.magic := by
  rw [h.dword (by decide)]
  decide

theorem blank_unmarked {b : Bytes} (h : b.Blank) :
    b.dword imageLayout.stateOffset ≠ imageLayout.invalid := by
  rw [h.dword (by decide)]
  decide

/-- Erasing loses the header, whatever the phase. -/
theorem Inv.prepare (h : Inv p u v) {b : Bytes} (hb : b.Blank) :
    Inv p (u.next .prepare) { v with bytes := b } := by
  have hnext : u.next .prepare = if u = .idle then .idle else .erased := rfl
  rw [hnext]
  refine ⟨?_, h.placed, h.complete, fun _ => blank_unmarked hb, fun _ => blank_magic hb, ?_⟩
  · rw [← h.idle_iff]
    cases u <;> decide
  · intro hu
    exact absurd hu (by cases u <;> decide)

/-- The words of a header after one of them was written. -/
theorem dword_putWord {off : Nat} {word : UInt32} (h : off + 4 ≤ v.bytes.length) :
    (v.putWord off word).bytes.dword off = word :=
  Bytes.dword_overwrite h

theorem dword_putWord_of_apart {off other : Nat} {word : UInt32}
    (h : other + 4 ≤ off ∨ off + 4 ≤ other) :
    (v.putWord off word).bytes.dword other = v.bytes.dword other :=
  Bytes.dword_overwrite_of_apart (by rw [Bytes.length_littleEndian]; exact h)

theorem data_putWord {off n : Nat} {word : UInt32} (h : off + 4 ≤ imageLayout.dataOffset) :
    ((v.putWord off word).bytes.drop imageLayout.dataOffset).take n =
      (v.bytes.drop imageLayout.dataOffset).take n :=
  Bytes.take_drop_overwrite_of_apart (.inr (by rw [Bytes.length_littleEndian]; exact h))

/-- What a piece does to the words of the header. -/
theorem dword_putChunk {off : Nat} (hoff : off + 4 ≤ imageLayout.dataOffset)
    (hpos : v.position = imageLayout.dataOffset + v.written) :
    (v.putChunk p).bytes.dword off = v.bytes.dword off :=
  Bytes.dword_overwrite_of_apart (.inl (by omega))

theorem length_chunk : (v.chunk p).length = min imageLayout.chunkSize (p.length - v.written) := by
  unfold StoreView.chunk
  rw [List.length_take, List.length_drop]

/-- A piece lies behind those before it. -/
theorem data_putChunk (hw : v.written < p.length)
    (hfit : imageLayout.dataOffset + p.length ≤ v.bytes.length)
    (hpos : v.position = imageLayout.dataOffset + v.written)
    (hdata : (v.bytes.drop imageLayout.dataOffset).take v.written = p.take v.written) :
    ((v.putChunk p).bytes.drop imageLayout.dataOffset).take (v.putChunk p).written =
      p.take (v.putChunk p).written := by
  have hlen := length_chunk (p := p) (v := v)
  have hchunk : (p.drop v.written).take (v.chunk p).length = v.chunk p := by
    unfold StoreView.chunk
    rw [List.length_take, ← List.take_eq_take_min]
  show ((v.bytes.overwrite v.position (v.chunk p)).drop imageLayout.dataOffset).take
    (v.written + (v.chunk p).length) = p.take (v.written + (v.chunk p).length)
  rw [hpos, Bytes.take_drop_overwrite (by omega), hdata, List.take_add, hchunk]

/-- The first step writes the magic word and the length. -/
theorem carries_begun (hhead : imageLayout.dataOffset ≤ v.bytes.length)
    (hmark : v.bytes.dword imageLayout.stateOffset ≠ imageLayout.invalid) :
    ((v.putWord imageLayout.magicOffset imageLayout.magic).putWord imageLayout.lengthOffset
      (UInt32.ofNat p.length)).bytes.Carries p False 0 := by
  have hlen : imageLayout.dataOffset ≤
      (v.putWord imageLayout.magicOffset imageLayout.magic).bytes.length :=
    Nat.le_trans hhead (Nat.le_of_eq (Bytes.length_overwrite _ _ _).symm)
  refine ⟨?_, ?_, dword_putWord (Nat.le_trans (by decide) hlen), False.elim, rfl⟩
  · rw [dword_putWord_of_apart (by decide)]
    exact dword_putWord (Nat.le_trans (by decide) hhead)
  · rw [dword_putWord_of_apart (by decide), dword_putWord_of_apart (by decide)]
    exact hmark

theorem carries_summed {n : Nat} (hhead : imageLayout.dataOffset ≤ v.bytes.length)
    (h : v.bytes.Carries p False n) :
    (v.putWord imageLayout.checksumOffset (checksum 0 p)).bytes.Carries p True n := by
  refine ⟨?_, ?_, ?_, fun _ => dword_putWord (Nat.le_trans (by decide) hhead), ?_⟩
  · rw [dword_putWord_of_apart (by decide), h.magic]
  · rw [dword_putWord_of_apart (by decide)]
    exact h.unmarked
  · rw [dword_putWord_of_apart (by decide), h.length]
  · rw [data_putWord (by decide), h.data]

theorem carries_putChunk (hw : v.written < p.length)
    (hfit : imageLayout.dataOffset + p.length ≤ v.bytes.length)
    (hpos : v.position = imageLayout.dataOffset + v.written)
    (h : v.bytes.Carries p True v.written) :
    (v.putChunk p).bytes.Carries p True (v.putChunk p).written := by
  refine ⟨?_, ?_, ?_, fun ht => ?_, data_putChunk hw hfit hpos h.data⟩
  · rw [dword_putChunk (by decide) hpos, h.magic]
  · rw [dword_putChunk (by decide) hpos]
    exact h.unmarked
  · rw [dword_putChunk (by decide) hpos, h.length]
  · rw [dword_putChunk (by decide) hpos, h.sum ht]

/-- A piece leaves something to be written, or ends the set. -/
theorem written_putChunk (hw : v.written < p.length) (hs : v.phase = .writeData) :
    (v.putChunk p).phase = .writeData ∧ (v.putChunk p).written < p.length ∨
      (v.putChunk p).phase = .finish ∧ (v.putChunk p).written = p.length := by
  have hlen := length_chunk (p := p) (v := v)
  show (if v.written + (v.chunk p).length = p.length then _ else _) = _ ∧
      v.written + (v.chunk p).length < p.length ∨
    (if v.written + (v.chunk p).length = p.length then _ else _) = _ ∧
      v.written + (v.chunk p).length = p.length
  by_cases he : v.written + (v.chunk p).length = p.length
  · right
    rw [if_pos he]
    exact ⟨rfl, he⟩
  · left
    rw [if_neg he]
    exact ⟨hs, by omega⟩

/-- Every step of storing keeps the phase, the place and the device together. -/
theorem Inv.step (h : Inv p u v) (hfit : imageLayout.dataOffset + p.length ≤ v.bytes.length)
    (hs : StoreStep p v r v') : Inv p (u.next (.process r)) v' := by
  have hhead : imageLayout.dataOffset ≤ v.bytes.length :=
    Nat.le_trans (Nat.le_add_right _ _) hfit
  have hbusy (hne : v.phase ≠ .start) : u.next (.process (.ok .busy)) = u :=
    if_neg fun hu => hne (h.idle_iff.mp hu)
  cases hs with
  | refused | unsummable | overrun => exact h
  | occupied hs hm =>
    -- the mark is put on an image that is there
    have hu : u = .idle := h.idle_iff.mpr hs
    have hmagic : (v.putWord imageLayout.stateOffset imageLayout.invalid).bytes.dword
        imageLayout.magicOffset = imageLayout.magic := by
      rw [dword_putWord_of_apart (by decide), hm]
    refine ⟨h.idle_iff, h.placed, h.complete, fun hn => absurd hmagic hn, ?_, ?_⟩
    · intro he
      exact absurd (hu.symm.trans he) (by decide)
    · intro he
      exact absurd (hu.symm.trans he) (by decide)
  | begun ha hs hm =>
    have hcarries := carries_begun (p := p) hhead (h.unmarked hm)
    rw [show u.next (.process (.ok .busy)) = .whole from if_pos (h.idle_iff.mpr hs)]
    refine ⟨by simp, fun _ => ⟨rfl, List.length_pos_iff.mpr ha.1⟩, by simp,
      fun _ => hcarries.unmarked, by simp, fun _ => ?_⟩
    simpa using hcarries
  | summed hs hsum =>
    rw [hbusy (by rw [hs]; simp)]
    refine ⟨by simp [h.idle_iff, hs], fun _ => h.placed (.inl hs), by simp, ?_, ?_, ?_⟩
    · intro hn
      rw [dword_putWord_of_apart (by decide)] at hn ⊢
      exact h.unmarked hn
    · intro he
      rw [dword_putWord_of_apart (by decide)]
      exact h.erased he
    · intro he
      have hwhole := h.whole he
      rw [hs] at hwhole
      show Bytes.Carries _ p (StorePhase.writeData ≠ .addChecksum) v.written
      simpa using carries_summed hhead (n := v.written) (by simpa using hwhole)
  | written hs hw =>
    -- a piece is written behind the header, whether there is one or not
    obtain ⟨hpos, -⟩ := h.placed (.inr hs)
    have hnext := written_putChunk hw hs
    rw [hbusy (by rw [hs]; simp)]
    refine ⟨?_, ?_, ?_, ?_, ?_, ?_⟩
    · rw [h.idle_iff, hs]
      rcases hnext with ⟨hp, -⟩ | ⟨hp, -⟩ <;> simp [hp]
    · intro hp
      rcases hnext with ⟨-, hlt⟩ | ⟨hp', -⟩
      · refine ⟨?_, hlt⟩
        show v.position + _ = _ + (v.written + _)
        omega
      · rw [hp'] at hp
        exact absurd hp (by simp)
    · intro hp
      rcases hnext with ⟨hp', -⟩ | ⟨-, he⟩
      · rw [hp'] at hp
        cases hp
      · exact he
    · intro hn
      rw [dword_putChunk (by decide) hpos] at hn ⊢
      exact h.unmarked hn
    · intro he
      rw [dword_putChunk (by decide) hpos]
      exact h.erased he
    · intro he
      have hwhole := h.whole he
      rw [hs] at hwhole
      have hcarries := carries_putChunk hw hfit hpos (by simpa using hwhole)
      have hne : (v.putChunk p).phase ≠ .addChecksum := by
        rcases hnext with ⟨hp, -⟩ | ⟨hp, -⟩ <;> simp [hp]
      simpa [hne] using hcarries
  | finished hs ha =>
    exact ⟨by simp [Underway.next], by simp, by simp, h.unmarked, by simp [Underway.next],
      by simp [Underway.next]⟩

/-! ## Images -/

variable {s s0 t : ParameterStore δ ω} {es : List Event}

/-- What holds of a store after the events `es`. -/
structure Sound (p : Bytes) (es : List Event) (s : ParameterStore δ ω) : Prop extends
    s.Roomy p where
  inv : Inv p (underway es) s.view

theorem Inv.toPlaced (h : Inv p u v) : v.Placed := fun hs => (h.placed (.inr hs)).1

theorem Sound.step {e : Event} (h : Sound p es s) (hs : Step p s e t) :
    Sound p (es ++ [e]) t := by
  cases hs with
  | prepare he =>
    obtain ⟨t', heval, hroomy, hview, hblank⟩ := ParameterStore.eval_prepare h.toRoomy
    rw [heval] at he
    cases he
    refine ⟨hroomy, ?_⟩
    rw [underway_append, hview]
    exact h.inv.prepare hblank
  | process hr =>
    obtain ⟨hroomy, hstep⟩ := hr.step h.toRoomy h.inv.toPlaced
    refine ⟨hroomy, ?_⟩
    rw [underway_append]
    exact h.inv.step h.fits hstep

/-- A store that was just opened over an erased header. -/
theorem sound_fresh {d : δ} {handler : IncidentHandler ω} {w : ω}
    (hopen : ParameterStore.mount.eval (ParameterStore.fresh d handler w) = (.ok (), s0))
    (hroom : imageLayout.dataOffset + p.length ≤ (LawfulDevice.contents s0.device).length)
    (hblank : (LawfulDevice.contents s0.device).Blank) : Sound p [] s0 := by
  obtain ⟨hready, hphase⟩ := ParameterStore.mount_eq_ok hopen
  refine ⟨⟨hready, hroom⟩, ?_⟩
  have hstart : s0.view.phase = .start := hphase
  exact ⟨by simp [hstart, underway], by simp [hstart], by simp [hstart],
    fun _ => blank_unmarked hblank, by simp [underway], by simp [underway]⟩

/-! ## Stores that finish -/

/-- The steps that write the set, and the one before, if the device was not looked at. -/
structure InCourse (p : Bytes) (s : ParameterStore δ ω) : Prop extends s.Roomy p where
  nonempty : p ≠ []
  /-- Every place of the set is a word. -/
  words : imageLayout.dataOffset + p.length < 2 ^ 32
  position_eq : s.view.position = imageLayout.dataOffset + s.written
  written_lt : s.written < p.length

theorem InCourse.admissible (h : InCourse p s) : StoreView.Admissible p := by
  have hwords := h.words
  have hsixteen : imageLayout.dataOffset = 16 := rfl
  exact ⟨h.nonempty, by omega⟩

theorem InCourse.exists_returns (h : InCourse p s) :
    ∃ r t, s.Returns p r t ∧ t.Roomy p ∧ StoreStep p s.view r t.view :=
  ParameterStore.exists_returns h.toRoomy (fun _ => h.position_eq) h.words

/-- The pieces that are left of a set. -/
def piecesLeft (p : Bytes) (s : ParameterStore δ ω) : Nat :=
  (p.length - s.written + (imageLayout.chunkSize - 1)) / imageLayout.chunkSize

/-- One step for each piece that is left. -/
theorem run_pieces {n : Nat} (h : InCourse p s) (hs : s.phase = .writeData)
    (hn : piecesLeft p s = n) :
    ∃ t, Run (Step p) s (List.replicate n (.process (.ok .busy))) t ∧ t.Roomy p ∧
      t.phase = .finish := by
  have hwritten := h.written_lt
  have hsize : imageLayout.chunkSize = 8 := rfl
  induction n generalizing s with
  | zero =>
    unfold piecesLeft at hn
    rw [hsize] at hn
    omega
  | succ n ih =>
    obtain ⟨r, t, hreturns, hroomy, hstep⟩ := h.exists_returns
    generalize hv : t.view = v at hstep
    cases hstep with
    | refused hp => exact absurd h.admissible hp
    | overrun _ hw => exact absurd h.written_lt (Nat.not_lt.mpr hw)
    | occupied hs' | begun _ hs' | unsummable hs' | summed hs' | finished hs' =>
      exact absurd (hs.symm.trans hs') (by simp)
    | written _ hw =>
      have hlen : (s.view.chunk p).length = min 8 (p.length - s.written) := length_chunk
      have hposition : t.view.position = s.view.position + (s.view.chunk p).length :=
        congrArg StoreView.position hv
      have hcount : t.written = s.written + (s.view.chunk p).length :=
        congrArg StoreView.written hv
      have hphase : t.phase = (s.view.putChunk p).phase := congrArg StoreView.phase hv
      rw [List.replicate_succ]
      unfold piecesLeft at hn
      rw [hsize] at hn
      rcases written_putChunk hw hs with ⟨hp, hlt⟩ | ⟨hp, he⟩
      · have hlt' : t.written < p.length := by
          rw [hcount]
          exact hlt
        have hcourse : InCourse p t :=
          ⟨hroomy, h.nonempty, h.words,
            by rw [hposition, hcount, h.position_eq, Nat.add_assoc], hlt'⟩
        obtain ⟨t', hrun, hend⟩ := ih hcourse (hphase.trans hp) (by
          unfold piecesLeft
          rw [hsize]
          omega) hlt'
        exact ⟨t', (Run.one (.process hreturns)).trans hrun, hend⟩
      · have he' : s.written + (s.view.chunk p).length = p.length := he
        obtain rfl : n = 0 := by omega
        exact ⟨t, .one (.process hreturns), hroomy, hphase.trans hp⟩

/-- A store whose header was written goes through all its steps, whatever the device holds. -/
theorem run_finished (h : InCourse p s) (hs : s.phase = .addChecksum) (hsum : checksum 0 p ≠ 0) :
    ∃ s' t, Run (Step p) s (List.replicate (1 + piecesLeft p s) (.process (.ok .busy))) s' ∧
      s'.Returns p (.ok .finished) t := by
  obtain ⟨r, t, hreturns, hroomy, hstep⟩ := h.exists_returns
  generalize hv : t.view = v at hstep
  cases hstep with
  | refused hp => exact absurd h.admissible hp
  | unsummable _ hz => exact absurd hz hsum
  | occupied hs' | begun _ hs' | overrun hs' | written hs' | finished hs' =>
    exact absurd (hs.symm.trans hs') (by simp)
  | summed =>
    have hwritten : t.written = s.written := congrArg StoreView.written hv
    have hposition : t.view.position = s.view.position := by rw [hv]; rfl
    have hcourse : InCourse p t := by
      refine ⟨hroomy, h.nonempty, h.words, ?_, ?_⟩
      · rw [hposition, hwritten, h.position_eq]
      · rw [hwritten]
        exact h.written_lt
    obtain ⟨s', hrun, hroomy', hphase⟩ := run_pieces (n := piecesLeft p s) hcourse
      (congrArg StoreView.phase hv) (by unfold piecesLeft; rw [hwritten])
    obtain ⟨r', t', hreturns', -, hstep'⟩ := ParameterStore.exists_returns hroomy' (fun hp => by
      exact absurd (hphase.symm.trans hp) (by simp)) h.words
    rw [Nat.add_comm, List.replicate_succ]
    generalize t'.view = v' at hstep'
    cases hstep' with
    | refused hp => exact absurd h.admissible hp
    | finished => exact ⟨s', t', (Run.one (.process hreturns)).trans hrun, hreturns'⟩
    | occupied hs' | begun _ hs' | unsummable hs' | summed hs' | overrun hs' | written hs' =>
      exact absurd (hphase.symm.trans hs') (by simp)

theorem step_begun (h : s.Roomy p) (hp : p ≠ [])
    (hwords : imageLayout.dataOffset + p.length < 2 ^ 32) (hs : s.phase = .start)
    (hm : s.view.bytes.dword imageLayout.magicOffset ≠ imageLayout.magic) :
    ∃ t, Step p s (.process (.ok .busy)) t ∧ InCourse p t ∧ t.phase = .addChecksum ∧
      t.written = 0 := by
  have hsixteen : imageLayout.dataOffset = 16 := rfl
  obtain ⟨r, t, hreturns, hroomy, hstep⟩ := ParameterStore.exists_returns h (fun hp => by
    exact absurd (hs.symm.trans hp) (by simp)) hwords
  generalize hv : t.view = v at hstep
  cases hstep with
  | refused hn => exact absurd ⟨hp, by omega⟩ hn
  | occupied _ he => exact absurd he hm
  | unsummable hs' | summed hs' | overrun hs' | written hs' | finished hs' =>
    exact absurd (hs.symm.trans hs') (by simp)
  | begun =>
    have hwritten : t.written = 0 := congrArg StoreView.written hv
    refine ⟨t, .process hreturns, ⟨hroomy, hp, hwords, ?_, ?_⟩, congrArg StoreView.phase hv,
      hwritten⟩
    · rw [hwritten]
      exact congrArg StoreView.position hv
    · rw [hwritten]
      exact List.length_pos_iff.mpr hp

/-- Erasing does not interrupt a store. -/
theorem step_prepare (h : InCourse p s) :
    ∃ t, Step p s .prepare t ∧ InCourse p t ∧ t.phase = s.phase ∧ t.written = s.written := by
  obtain ⟨t, heval, hroomy, hview, -⟩ := ParameterStore.eval_prepare h.toRoomy
  have hwritten : t.written = s.written := congrArg StoreView.written hview
  have hposition : t.view.position = s.view.position := by rw [hview]
  refine ⟨t, .prepare heval, ⟨hroomy, h.nonempty, h.words, ?_, ?_⟩, congrArg StoreView.phase hview,
    hwritten⟩
  · rw [hposition, hwritten, h.position_eq]
  · rw [hwritten]
    exact h.written_lt

/-! ## Finished stores -/

/-- When a store reports that it is finished, its set is on the device, unless the device was
erased since its header was written; then there is no image. -/
theorem image_of_finished {d : δ} {handler : IncidentHandler ω} {w : ω}
    (hopen : ParameterStore.mount.eval (ParameterStore.fresh d handler w) = (.ok (), s0))
    (hroom : imageLayout.dataOffset + p.length ≤ (LawfulDevice.contents s0.device).length)
    (hblank : (LawfulDevice.contents s0.device).Blank) (hrun : Run (Step p) s0 es s)
    (hfinished : s.Returns p (.ok .finished) t) :
    (ParameterStore.image.eval t).1 =
      .ok (if underway es = .whole then some p else none) := by
  have hs : Sound p es s := hrun.invariant (I := Sound p) (sound_fresh hopen hroom hblank)
    fun h hstep => h.step hstep
  obtain ⟨-, hstep⟩ := hfinished.step hs.toRoomy hs.inv.toPlaced
  generalize hv : t.view = v at hstep
  cases hstep with
  | finished hphase ha =>
    have hbytes : LawfulDevice.contents t.device = s.view.bytes := congrArg StoreView.bytes hv
    have hne : underway es ≠ .idle := fun hu => by
      have := hs.inv.idle_iff.mp hu
      rw [hphase] at this
      cases this
    show Except.ok (StoredImage.find t.device).set? = _
    -- the last phase is reached by writing the whole set, over a header or without one
    cases hu : underway es with
    | idle => exact absurd hu hne
    | whole =>
      have hcarries := hs.inv.whole hu
      rw [hphase, hs.inv.complete hphase, ← hbytes] at hcarries
      rw [StoredImage.find_eq_intact ha (hbytes ▸ hs.fits) (by simpa using hcarries), if_pos rfl]
      rfl
    | erased =>
      have herased := hs.inv.erased hu
      rw [← hbytes] at herased
      rw [StoredImage.find_eq_absent
        (Nat.le_trans (Nat.le_add_right _ _) (hbytes ▸ hs.fits)) herased, if_neg (by decide)]
      rfl

/-- The same five steps with and without erasing the device after the first one. -/
theorem image_of_finished_memory :
    let p : Bytes := [7]
    let busy : Event := .process (.ok .busy)
    ∃ s0 s s' t t' : ParameterStore MemoryStore Unit,
      ParameterStore.mount.eval
          (ParameterStore.fresh (MemoryStore.create 24 []) IncidentHandler.silent ()) =
        (.ok (), s0) ∧
      Run (Step p) s0 [busy, busy, busy] s ∧
      s.Returns p (.ok .finished) t ∧
      (ParameterStore.image.eval t).1 = .ok (some p) ∧
      Run (Step p) s0 [busy, .prepare, busy, busy] s' ∧
      s'.Returns p (.ok .finished) t' ∧
      (ParameterStore.image.eval t').1 = .ok none := by
  intro p busy
  let s0 : ParameterStore MemoryStore Unit :=
    ParameterStore.fresh (MemoryStore.create 24 []) IncidentHandler.silent ()
  have hopen : ParameterStore.mount.eval s0 = (.ok (), s0) := rfl
  have hroom : imageLayout.dataOffset + p.length ≤ (LawfulDevice.contents s0.device).length := by
    decide
  have hblank : (LawfulDevice.contents s0.device).Blank := Bytes.blank_replicate (by decide)
  have hs : Sound p [] s0 := sound_fresh hopen hroom hblank
  have hsum : checksum 0 p ≠ 0 := by decide +kernel
  -- one step, with or without erasing after it, and then on to the end
  obtain ⟨s1, hstep1, h1, hphase1, hwritten1⟩ :=
    step_begun hs.toRoomy (by simp [p]) (by decide) rfl (blank_magic hblank)
  obtain ⟨s2, hstep2, h2, hphase2, hwritten2⟩ := step_prepare h1
  obtain ⟨s, t, hrun, hfinished⟩ := run_finished h1 hphase1 hsum
  obtain ⟨s', t', hrun', hfinished'⟩ := run_finished h2 (hphase2.trans hphase1) hsum
  have hpieces {s : ParameterStore MemoryStore Unit} (h : s.written = 0) : piecesLeft p s = 1 := by
    unfold piecesLeft
    rw [h]
    show (1 - 0 + (8 - 1)) / 8 = 1
    decide
  rw [hpieces hwritten1] at hrun
  rw [hpieces (hwritten2.trans hwritten1)] at hrun'
  have hwhole := (Run.one hstep1).trans hrun
  have herased := ((Run.one hstep1).next hstep2).trans hrun'
  exact ⟨s0, s, s', t, t', hopen, hwhole, hfinished,
    image_of_finished hopen hroom hblank hwhole hfinished, herased, hfinished',
    image_of_finished hopen hroom hblank herased hfinished'⟩

end Storing

end SlimInterface
