import SlimInterface.Proofs.Storage.Completion

/-!
# Sets that change size while they are stored

Each step of storing is called with a set of its own, and nothing makes these the same set. The
first gives the length in the header, the second the checksum, each further one the piece that
comes next. What a step compares is the length of its own set with the bytes already written, and
only once the checksum is there.

`finished_iff_tiled` says exactly when a store is finished, and when a step fails: the pieces must
follow each other, each set but the last reaching beyond its piece (`Tiled`). The length in the
header and the length of the summed set do not come into it, so a store whose sets shrink is
finished as long as no set is used up before its piece begins.
-/

namespace SlimInterface

namespace Resizing

/-! ## Calls -/

/-- A call with a set of its own, and its answer. -/
structure Event where
  set : Bytes
  answer : Except Fault StoreProgress

/-- The set of a call that wrote something of it and goes on. -/
def Event.written? (e : Event) : Option Bytes :=
  match e.answer with
  | .ok .busy => some e.set
  | _ => none

/-- The sets of which something was written, in order. -/
def written (es : List Event) : List Bytes := es.filterMap Event.written?

/-- Some call reported the store as finished. -/
def Finished (es : List Event) : Prop := ∃ e ∈ es, e.answer = .ok .finished

theorem finished_append {es : List Event} {e : Event} :
    Finished (es ++ [e]) ↔ Finished es ∨ e.answer = .ok .finished := by
  unfold Finished
  simp [or_and_right, exists_or]

/-! ## Pieces -/

/-- Each of the sets reaches beyond its piece. -/
def Reaching (rs : List Bytes) : Prop :=
  ∀ j r, rs[j]? = some r → imageLayout.chunkSize * (j + 1) < r.length

theorem reaching_nil : Reaching [] := fun _ _ h => by simp at h

theorem reaching_append {rs : List Bytes} {r : Bytes} (h : Reaching rs)
    (hr : imageLayout.chunkSize * (rs.length + 1) < r.length) : Reaching (rs ++ [r]) := by
  intro j r' hj
  rcases Nat.lt_trichotomy j rs.length with hlt | he | hgt
  · rw [List.getElem?_append_left hlt] at hj
    exact h j r' hj
  · subst he
    rw [List.getElem?_concat_length] at hj
    cases hj
    exact hr
  · rw [List.getElem?_eq_none (by simp; omega)] at hj
    cases hj

/-- The sets a whole store is made of: one for the length, one for the checksum, and then one for
each piece, of which the last ends with its piece. -/
def Tiled (ps : List Bytes) : Prop :=
  ∃ first summed front last, ps = first :: summed :: (front ++ [last]) ∧
    checksum 0 summed ≠ 0 ∧ Reaching front ∧
    imageLayout.chunkSize * front.length < last.length ∧
    last.length ≤ imageLayout.chunkSize * (front.length + 1)

/-- After the sets `ps`, a step with `p` fails. -/
inductive Rejected : List Bytes → Bytes → Prop
  | unsummable {first p : Bytes} (h : checksum 0 p = 0) : Rejected [first] p
  /-- The pieces are already past the end of the set. -/
  | overrun {first summed p : Bytes} {rs : List Bytes} (ht : ¬ Tiled (first :: summed :: rs))
      (h : p.length ≤ imageLayout.chunkSize * rs.length) : Rejected (first :: summed :: rs) p

/-- Where each set reaches beyond its piece, none ends the store. -/
theorem Reaching.not_tiled {first summed : Bytes} {rs : List Bytes} (h : Reaching rs) :
    ¬ Tiled (first :: summed :: rs) := by
  rintro ⟨_, _, front, last, he, -, -, -, hend⟩
  simp only [List.cons.injEq] at he
  obtain ⟨-, -, rfl⟩ := he
  have := h front.length last List.getElem?_concat_length
  omega

theorem not_tiled_of_length {ps : List Bytes} (h : ps.length < 3) : ¬ Tiled ps := by
  rintro ⟨_, _, front, last, rfl, -⟩
  simp only [List.length_cons, List.length_append, List.length_nil] at h
  omega

/-- Nothing is refused once every piece is written. -/
theorem Tiled.not_rejected {ps : List Bytes} {p : Bytes} (h : Tiled ps) : ¬ Rejected ps p := by
  intro hr
  cases hr with
  | unsummable => exact not_tiled_of_length (by simp) h
  | overrun ht => exact ht h

/-! ## Progress -/

/-- What each phase says about the sets `ps` that have gone into the store. -/
structure Progress (finished : Prop) (ps : List Bytes) (v : StoreView) : Prop where
  fresh : v.phase = .start → v.bytes.dword imageLayout.magicOffset ≠ imageLayout.magic →
    ¬ finished ∧ ps = []
  done : v.phase = .start → v.bytes.dword imageLayout.magicOffset = imageLayout.magic →
    finished ∧ Tiled ps
  headed : v.phase = .addChecksum → ¬ finished ∧ v.written = 0 ∧ ∃ first, ps = [first]
  writing : v.phase = .writeData → ¬ finished ∧ ∃ first summed rs, ps = first :: summed :: rs ∧
    checksum 0 summed ≠ 0 ∧ Reaching rs ∧ v.written = imageLayout.chunkSize * rs.length
  complete : v.phase = .finish → ¬ finished ∧ Tiled ps
  placed : v.phase = .addChecksum ∨ v.phase = .writeData →
    v.position = imageLayout.dataOffset + v.written
  magic : ps ≠ [] → v.bytes.dword imageLayout.magicOffset = imageLayout.magic
  length (first : Bytes) : ps.head? = some first →
    v.bytes.dword imageLayout.lengthOffset = UInt32.ofNat first.length

variable {p : Bytes} {ps : List Bytes} {fin : Prop} {v v' : StoreView}
  {r : Except Fault StoreProgress}

theorem Progress.toPlaced (h : Progress fin ps v) : v.Placed := fun hs => h.placed (.inr hs)

/-- The step after the last piece finishes the store, and no other. -/
theorem Progress.finished_iff (h : Progress fin ps v) (hs : StoreStep p v r v')
    (ha : StoreView.Admissible p) : r = .ok .finished ↔ ¬ fin ∧ Tiled ps := by
  cases hs with
  | refused hp => exact absurd ha hp
  | occupied hs hm => simp [(h.done hs hm).1]
  | begun _ hs hm =>
    rw [(h.fresh hs hm).2]
    simp [not_tiled_of_length]
  | unsummable hs | summed hs =>
    obtain ⟨-, -, first, rfl⟩ := h.headed hs
    simp [not_tiled_of_length]
  | overrun hs | written hs =>
    obtain ⟨-, first, summed, rs, rfl, -, hr, -⟩ := h.writing hs
    simp [hr.not_tiled]
  | finished hs => simp [h.complete hs]

/-- A step fails where its set cannot go into the store. -/
theorem Progress.failed_iff (h : Progress fin ps v) (hs : StoreStep p v r v')
    (ha : StoreView.Admissible p) : (∃ e, r = .error e) ↔ Rejected ps p := by
  have hgoes (hr : ∃ a, r = .ok a) (hn : ¬ Rejected ps p) :
      (∃ e, r = .error e) ↔ Rejected ps p := by
    obtain ⟨a, rfl⟩ := hr
    simp [hn]
  cases hs with
  | refused hp => exact absurd ha hp
  | occupied hs hm =>
    exact hgoes ⟨_, rfl⟩ (h.done hs hm).2.not_rejected
  | begun _ hs hm =>
    rw [(h.fresh hs hm).2] at hgoes ⊢
    exact hgoes ⟨_, rfl⟩ fun hr => nomatch hr
  | unsummable hs hz =>
    obtain ⟨-, -, first, rfl⟩ := h.headed hs
    exact ⟨fun _ => .unsummable hz, fun _ => ⟨_, rfl⟩⟩
  | summed hs hz =>
    obtain ⟨-, -, first, rfl⟩ := h.headed hs
    refine hgoes ⟨_, rfl⟩ fun hr => ?_
    cases hr with
    | unsummable hz' => exact hz hz'
  | overrun hs hw =>
    obtain ⟨-, first, summed, rs, rfl, -, hr, hwritten⟩ := h.writing hs
    exact ⟨fun _ => .overrun hr.not_tiled (hwritten ▸ hw), fun _ => ⟨_, rfl⟩⟩
  | written hs hw =>
    obtain ⟨-, first, summed, rs, rfl, -, -, hwritten⟩ := h.writing hs
    refine hgoes ⟨_, rfl⟩ fun hr => ?_
    cases hr with
    | overrun _ hle => omega
  | finished hs => exact hgoes ⟨_, rfl⟩ (h.complete hs).2.not_rejected

/-- Only a finished store is an image that is there already. -/
theorem Progress.notApplicable_iff (h : Progress fin ps v) (hs : StoreStep p v r v')
    (ha : StoreView.Admissible p) : r = .ok .notApplicable ↔ fin := by
  cases hs with
  | refused hp => exact absurd ha hp
  | occupied hs hm => simp [(h.done hs hm).1]
  | begun _ hs hm => simp [(h.fresh hs hm).1]
  | unsummable hs | summed hs => simp [(h.headed hs).1]
  | overrun hs | written hs => simp [(h.writing hs).1]
  | finished hs => simp [(h.complete hs).1]

/-- A piece leaves the store in want of another, or is the last. -/
theorem tiled_or_reaching {first summed : Bytes} {rs : List Bytes} (hsum : checksum 0 summed ≠ 0)
    (hr : Reaching rs) (hw : v.written = imageLayout.chunkSize * rs.length)
    (hlt : v.written < p.length) (hs : v.phase = .writeData) :
    (v.putChunk p).phase = .writeData ∧ Reaching (rs ++ [p]) ∧
        (v.putChunk p).written = imageLayout.chunkSize * (rs ++ [p]).length ∨
      (v.putChunk p).phase = .finish ∧ Tiled (first :: summed :: (rs ++ [p])) := by
  have hlen := Storing.length_chunk (p := p) (v := v)
  have hcount : (v.putChunk p).written = v.written + (v.chunk p).length := rfl
  have hsize : imageLayout.chunkSize = 8 := rfl
  rw [hsize] at hw hlen
  rcases Storing.written_putChunk hlt hs with ⟨hp, hless⟩ | ⟨hp, he⟩
  · refine .inl ⟨hp, reaching_append hr (by rw [hsize]; omega), ?_⟩
    rw [List.length_append, List.length_singleton, hsize]
    omega
  · exact .inr ⟨hp, first, summed, rs, p, rfl, hsum, hr, by rw [hsize]; omega, by rw [hsize]; omega⟩

/-- Where only the rest of the header and the data differ, the store has come as far. -/
theorem Progress.of_eq (h : Progress fin ps v) (hs : v'.phase = v.phase)
    (hp : v'.position = v.position) (hw : v'.written = v.written)
    (hm : v'.bytes.dword imageLayout.magicOffset = v.bytes.dword imageLayout.magicOffset)
    (hl : v'.bytes.dword imageLayout.lengthOffset = v.bytes.dword imageLayout.lengthOffset) :
    Progress fin ps v' := by
  obtain ⟨_, _, _, b⟩ := v
  obtain ⟨_, _, _, b'⟩ := v'
  dsimp only at hs hp hw hm hl
  subst hs hp hw
  refine ⟨?_, ?_, h.headed, h.writing, h.complete, h.placed, ?_, ?_⟩
  · exact fun hs hne => h.fresh hs (hm ▸ hne)
  · exact fun hs he => h.done hs (hm ▸ he)
  · exact fun hne => hm.trans (h.magic hne)
  · exact fun first hf => hl.trans (h.length first hf)

theorem Progress.begun (hf : ¬ fin) (hhead : imageLayout.dataOffset ≤ v.bytes.length) :
    Progress fin [p]
      { (v.putWord imageLayout.magicOffset imageLayout.magic).putWord imageLayout.lengthOffset
          (UInt32.ofNat p.length) with
        phase := .addChecksum
        position := imageLayout.dataOffset
        written := 0 } := by
  have hlen : imageLayout.dataOffset ≤
      (v.putWord imageLayout.magicOffset imageLayout.magic).bytes.length :=
    Nat.le_trans hhead (Nat.le_of_eq (Bytes.length_overwrite _ _ _).symm)
  refine ⟨by simp, by simp, fun _ => ⟨hf, rfl, p, rfl⟩, by simp, by simp, fun _ => rfl, ?_, ?_⟩
  · intro _
    show ((v.putWord imageLayout.magicOffset imageLayout.magic).putWord imageLayout.lengthOffset
      (UInt32.ofNat p.length)).bytes.dword imageLayout.magicOffset = _
    rw [Storing.dword_putWord_of_apart (by decide)]
    exact Storing.dword_putWord (Nat.le_trans (by decide) hhead)
  · intro first hfirst
    cases hfirst
    exact Storing.dword_putWord (Nat.le_trans (by decide) hlen)

theorem Progress.summed (h : Progress fin ps v) (hs : v.phase = .addChecksum)
    (hsum : checksum 0 p ≠ 0) :
    Progress fin (ps ++ [p])
      { v.putWord imageLayout.checksumOffset (checksum 0 p) with phase := .writeData } := by
  obtain ⟨hf, hw, first, rfl⟩ := h.headed hs
  have hword {off : Nat} (ho : off + 4 ≤ imageLayout.checksumOffset) :
      (v.putWord imageLayout.checksumOffset (checksum 0 p)).bytes.dword off = v.bytes.dword off :=
    Storing.dword_putWord_of_apart (.inl ho)
  refine ⟨by simp, by simp, by simp, fun _ => ⟨hf, first, p, [], rfl, hsum, reaching_nil, hw⟩,
    by simp, fun _ => h.placed (.inl hs), fun _ => ?_, fun first' hfirst => ?_⟩
  · exact (hword (by decide)).trans (h.magic (by simp))
  · exact (hword (by decide)).trans (h.length first' hfirst)

theorem Progress.written (h : Progress fin ps v) (hs : v.phase = .writeData)
    (hlt : v.written < p.length) : Progress fin (ps ++ [p]) (v.putChunk p) := by
  obtain ⟨hf, first, summed, rs, rfl, hsum, hr, hw⟩ := h.writing hs
  have hpos := h.placed (.inr hs)
  have hplace : (v.putChunk p).position = imageLayout.dataOffset + (v.putChunk p).written := by
    show v.position + _ = _ + (v.written + _)
    omega
  have hmagic : (v.putChunk p).bytes.dword imageLayout.magicOffset = imageLayout.magic :=
    (Storing.dword_putChunk (by decide) hpos).trans (h.magic (by simp))
  have hlength (first' : Bytes) (hfirst : (first :: summed :: (rs ++ [p])).head? = some first') :
      (v.putChunk p).bytes.dword imageLayout.lengthOffset = UInt32.ofNat first'.length :=
    (Storing.dword_putChunk (by decide) hpos).trans (h.length first' hfirst)
  rcases tiled_or_reaching hsum hr hw hlt hs with ⟨hp, hr', hw'⟩ | ⟨hp, ht⟩
  · exact ⟨by simp [hp], by simp [hp], by simp [hp],
      fun _ => ⟨hf, first, summed, rs ++ [p], rfl, hsum, hr', hw'⟩, by simp [hp], fun _ => hplace,
      fun _ => hmagic, hlength⟩
  · exact ⟨by simp [hp], by simp [hp], by simp [hp], by simp [hp], fun _ => ⟨hf, ht⟩,
      fun _ => hplace, fun _ => hmagic, hlength⟩

theorem Progress.finished (h : Progress fin ps v) (hs : v.phase = .finish) :
    Progress True ps ⟨.start, 0, 0, v.bytes⟩ := by
  obtain ⟨-, ht⟩ := h.complete hs
  have hne : ps ≠ [] := fun he => not_tiled_of_length (by rw [he]; decide) ht
  exact ⟨fun _ hm => absurd (h.magic hne) hm, fun _ _ => ⟨trivial, ht⟩, by simp, by simp, by simp,
    by simp, h.magic, h.length⟩

/-- Every step takes its set into the store, or leaves the store as far as it had come. -/
theorem Progress.step (h : Progress fin ps v) (hs : StoreStep p v r v')
    (hhead : imageLayout.dataOffset ≤ v.bytes.length) :
    Progress (fin ∨ r = .ok .finished) (ps ++ (Event.mk p r).written?.toList) v' := by
  have hsame {r' : Except Fault StoreProgress} (hr : r' ≠ .ok .finished) :
      (fin ∨ r' = .ok .finished) = fin := by simp [hr]
  cases hs with
  | refused | unsummable | overrun =>
    rw [hsame (by simp)]
    exact (List.append_nil ps).symm ▸ h
  | occupied =>
    rw [hsame (by simp)]
    refine (List.append_nil ps).symm ▸ h.of_eq rfl rfl rfl ?_ ?_
    · exact Storing.dword_putWord_of_apart (by decide)
    · exact Storing.dword_putWord_of_apart (by decide)
  | begun _ hs hm =>
    obtain ⟨hf, rfl⟩ := h.fresh hs hm
    rw [hsame (by simp)]
    exact .begun hf hhead
  | summed hs hsum =>
    rw [hsame (by simp)]
    exact h.summed hs hsum
  | written hs hlt =>
    rw [hsame (by simp)]
    exact h.written hs hlt
  | finished hs =>
    rw [show (fin ∨ Except.ok StoreProgress.finished = (.ok .finished : Except Fault _)) = True by
      simp]
    exact (List.append_nil ps).symm ▸ h.finished hs

/-! ## Runs -/

section Runs

variable {δ ω : Type} [NonVolatile δ] [LawfulDevice δ] {s s0 t : ParameterStore δ ω}
  {es : List Event} {room : Nat}

/-- One call that returns, with any set that fits a device of `room` bytes. -/
structure Step (room : Nat) (s : ParameterStore δ ω) (e : Event) (t : ParameterStore δ ω) :
    Prop where
  fits : imageLayout.dataOffset + e.set.length ≤ room
  returns : s.Returns e.set e.answer t

/-- What holds of a store after the calls `es`. -/
structure Sound (room : Nat) (es : List Event) (s : ParameterStore δ ω) : Prop where
  ready : LawfulDevice.Ready s.device
  size : s.view.bytes.length = room
  progress : Progress (Finished es) (written es) s.view

theorem Sound.roomy (h : Sound room es s) (hfit : imageLayout.dataOffset + p.length ≤ room) :
    s.Roomy p :=
  ⟨h.ready, by rw [h.size]; exact hfit⟩

theorem Sound.step {e : Event} (h : Sound room es s) (hs : Step room s e t) :
    Sound room (es ++ [e]) t := by
  obtain ⟨hroomy, hstep⟩ := hs.returns.step (h.roomy hs.fits) h.progress.toPlaced
  have hhead : imageLayout.dataOffset ≤ s.view.bytes.length := by
    rw [h.size]
    exact Nat.le_trans (Nat.le_add_right _ _) hs.fits
  refine ⟨hroomy.ready, hstep.length_bytes.trans h.size, ?_⟩
  rw [propext finished_append, show written (es ++ [e]) = written es ++ e.written?.toList from
    filterMap_append_one _ _ _]
  exact h.progress.step hstep hhead

/-- A store that was just opened over an erased header. -/
theorem sound_fresh {d : δ} {handler : IncidentHandler ω} {w : ω}
    (hopen : ParameterStore.mount.eval (ParameterStore.fresh d handler w) = (.ok (), s0))
    (hblank : (LawfulDevice.contents s0.device).Blank) :
    Sound (LawfulDevice.contents s0.device).length [] s0 := by
  obtain ⟨hready, hphase⟩ := ParameterStore.mount_eq_ok hopen
  have hstart : s0.view.phase = .start := hphase
  have hmagic : s0.view.bytes.dword imageLayout.magicOffset ≠ imageLayout.magic :=
    Storing.blank_magic hblank
  exact ⟨hready, rfl, fun _ _ => ⟨by simp [Finished], rfl⟩, fun _ he => absurd he hmagic,
    by simp [hstart], by simp [hstart], by simp [hstart], by simp [hstart], by simp [written],
    by simp [written]⟩

/-- A store that is neither whole nor at odds with the set at hand takes it and goes on. -/
theorem Sound.goes_on (h : Sound room es s) (ha : StoreView.Admissible p)
    (hfit : imageLayout.dataOffset + p.length ≤ room)
    (hwords : imageLayout.dataOffset + p.length < 2 ^ 32) (hf : ¬ Finished es)
    (ht : ¬ Tiled (written es)) (hr : ¬ Rejected (written es) p) :
    ∃ t, Step room s ⟨p, .ok .busy⟩ t := by
  obtain ⟨r, t, hreturns, -, hstep⟩ :=
    ParameterStore.exists_returns (h.roomy hfit) h.progress.toPlaced hwords
  have hbusy : r = .ok .busy := by
    rcases r with e | _ | _ | _
    · exact absurd ((h.progress.failed_iff hstep ha).mp ⟨e, rfl⟩) hr
    · rfl
    · exact absurd ((h.progress.finished_iff hstep ha).mp rfl).2 ht
    · exact absurd ((h.progress.notApplicable_iff hstep ha).mp rfl) hf
  subst hbusy
  exact ⟨t, hfit, hreturns⟩

/-- On an erased device with room for every set, a step that returns finishes the store exactly if
the sets before it tile one, whatever their sizes; it fails exactly if its own set has no checksum
or ends before the next piece; and the device has the length of the first set, whatever the others
were. A step returns whenever the places of its set are words. -/
theorem finished_iff_tiled {d : δ} {handler : IncidentHandler ω} {w : ω}
    (hopen : ParameterStore.mount.eval (ParameterStore.fresh d handler w) = (.ok (), s0))
    (hblank : (LawfulDevice.contents s0.device).Blank)
    (hrun : Run (Step (LawfulDevice.contents s0.device).length) s0 es s)
    (ha : StoreView.Admissible p)
    (hfit : imageLayout.dataOffset + p.length ≤ (LawfulDevice.contents s0.device).length) :
    (∀ first, (written es).head? = some first →
      (LawfulDevice.contents s.device).dword imageLayout.lengthOffset =
        UInt32.ofNat first.length) ∧
    (imageLayout.dataOffset + p.length < 2 ^ 32 → ∃ r t, s.Returns p r t) ∧
    ∀ r t, s.Returns p r t →
      (r = .ok .finished ↔ ¬ Finished es ∧ Tiled (written es)) ∧
      ((∃ e, r = .error e) ↔ Rejected (written es) p) ∧
      (r = .ok .notApplicable ↔ Finished es) := by
  have hs : Sound _ es s := hrun.invariant (I := Sound _) (sound_fresh hopen hblank)
    fun h hstep => h.step hstep
  refine ⟨hs.progress.length, fun hwords => ?_, fun r t hr => ?_⟩
  · obtain ⟨r, t, hreturns, -⟩ :=
      ParameterStore.exists_returns (hs.roomy hfit) hs.progress.toPlaced hwords
    exact ⟨r, t, hreturns⟩
  · obtain ⟨-, hstep⟩ := hr.step (hs.roomy hfit) hs.progress.toPlaced
    exact ⟨hs.progress.finished_iff hstep ha, hs.progress.failed_iff hstep ha,
      hs.progress.notApplicable_iff hstep ha⟩

/-- Sets of two, two, one and one byte: the second piece of the store is never asked for, and the
header keeps the length of the first set. -/
theorem finished_iff_tiled_shrinking :
    let busy (set : Bytes) : Event := ⟨set, .ok .busy⟩
    ∃ s0 s t : ParameterStore MemoryStore Unit,
      ParameterStore.mount.eval
          (ParameterStore.fresh (MemoryStore.create 24 []) IncidentHandler.silent ()) =
        (.ok (), s0) ∧
      Run (Step 24) s0 [busy [7, 7], busy [7, 7], busy [7]] s ∧
      s.Returns [7] (.ok .finished) t ∧
      s.device.bytes.dword imageLayout.lengthOffset = 2 := by
  intro busy
  let s0 : ParameterStore MemoryStore Unit :=
    ParameterStore.fresh (MemoryStore.create 24 []) IncidentHandler.silent ()
  have hopen : ParameterStore.mount.eval s0 = (.ok (), s0) := rfl
  have hblank : (LawfulDevice.contents s0.device).Blank := Bytes.blank_replicate (by decide)
  have hsum : checksum 0 [7, 7] ≠ 0 := by decide +kernel
  have hend {es : List Event} (h : ∀ e ∈ es, e.answer = .ok .busy) : ¬ Finished es := by
    rintro ⟨e, he, hfinished⟩
    cases (h e he).symm.trans hfinished
  -- the header, the checksum, and one piece, none of them at odds with its set
  have hs0 : Sound 24 [] s0 := sound_fresh hopen hblank
  obtain ⟨s1, h1⟩ := hs0.goes_on (p := [7, 7]) ⟨by simp, by decide⟩ (by decide) (by decide)
    (hend (by simp)) (not_tiled_of_length (by decide)) (fun h => nomatch h)
  have hs1 := hs0.step h1
  obtain ⟨s2, h2⟩ := hs1.goes_on (p := [7, 7]) ⟨by simp, by decide⟩ (by decide) (by decide)
    (hend (by simp)) (not_tiled_of_length (by decide)) (by rintro ⟨hz⟩; exact hsum hz)
  have hs2 := hs1.step h2
  obtain ⟨s3, h3⟩ := hs2.goes_on (p := [7]) ⟨by simp, by decide⟩ (by decide) (by decide)
    (hend (by simp)) (not_tiled_of_length (by decide))
    (by rintro (_ | ⟨_, hle⟩); exact absurd hle (by decide))
  have hrun := ((Run.one h1).next h2).next h3
  obtain ⟨hlength, hreturns, hanswer⟩ :=
    finished_iff_tiled hopen hblank hrun (p := [7]) ⟨by simp, by decide⟩ (by decide)
  obtain ⟨r, t, hr⟩ := hreturns (by decide)
  have htiled : Tiled (written [busy [7, 7], busy [7, 7], busy [7]]) :=
    ⟨[7, 7], [7, 7], [], [7], rfl, hsum, reaching_nil, by decide, by decide⟩
  have hfinished : r = .ok .finished := (hanswer r t hr).1.mpr ⟨hend (by simp), htiled⟩
  exact ⟨s0, s3, t, hopen, hrun, hfinished ▸ hr, hlength [7, 7] rfl⟩

end Runs

end Resizing

end SlimInterface
