import SlimInterface.Proofs.Checksum.Burst
import SlimInterface.Proofs.Storage.Completion

/-!
# Images whose data was damaged

The header of an image carries the checksum of its data. When bits of the data flip and the
header stays, the image is still there, but its checksum does not fit any more, provided that the
bits that flipped are a burst (`find_eq_corrupt_of_burst`). `damage_detected` says this of every
store that finished, and of the checksum itself.
-/

namespace SlimInterface

namespace Bytes

variable {b b' p : Bytes} {n off : Nat}

/-- A word of the header, when only bytes behind the header changed. -/
theorem dword_of_tail (h : ∀ i, b'[i]? ≠ b[i]? → imageLayout.dataOffset ≤ i)
    (hoff : off + 4 ≤ imageLayout.dataOffset) : b'.dword off = b.dword off := by
  have hread : (b'.drop off).take 4 = (b.drop off).take 4 := by
    apply List.ext_getElem?
    intro i
    rw [List.getElem?_take, List.getElem?_take, List.getElem?_drop, List.getElem?_drop]
    by_cases hi : i < 4
    · rw [if_pos hi, if_pos hi]
      apply Decidable.byContradiction
      intro hne
      have := h _ hne
      omega
    · rw [if_neg hi, if_neg hi]
  unfold dword
  rw [hread]

/-- The header of a set is there, whatever happened to the data behind it. -/
theorem Carries.of_tail {summed : Prop} (h : b.Carries p summed n)
    (htail : ∀ i, b'[i]? ≠ b[i]? → imageLayout.dataOffset ≤ i) : b'.Carries p summed 0 := by
  refine ⟨?_, ?_, ?_, fun hs => ?_, rfl⟩
  · rw [dword_of_tail htail (by decide), h.magic]
  · rw [dword_of_tail htail (by decide)]
    exact h.unmarked
  · rw [dword_of_tail htail (by decide), h.length]
  · rw [dword_of_tail htail (by decide), h.sum hs]

end Bytes

namespace StoredImage

variable {δ : Type} [NonVolatile δ] [LawfulDevice δ] {d d' : δ} {p : Bytes}

/-- A burst in the data of an image makes it corrupt. -/
theorem find_eq_corrupt_of_burst (hp : StoreView.Admissible p)
    (hfit : imageLayout.dataOffset + p.length ≤ (LawfulDevice.contents d).length)
    (h : (LawfulDevice.contents d).Carries p True p.length)
    (hburst : (LawfulDevice.contents d).Burst (LawfulDevice.contents d'))
    (hdata : ∀ i, (LawfulDevice.contents d')[i]? ≠ (LawfulDevice.contents d)[i]? →
      imageLayout.dataOffset ≤ i ∧ i < imageLayout.dataOffset + p.length) :
    find d' = .corrupt := by
  have hfit' : imageLayout.dataOffset + p.length ≤ (LawfulDevice.contents d').length := by
    rw [hburst.length_eq]
    exact hfit
  have hslice := hburst.slice hdata
  rw [h.data, List.take_length] at hslice
  rw [find_eq_verified hp hfit' (h.of_tail fun i hi => (hdata i hi).1),
    if_neg (checksum_ne_of_burst hslice 0)]

end StoredImage

namespace Storing

variable {δ ω : Type} [NonVolatile δ] [LawfulDevice δ] {p : Bytes} {es : List Event}
  {s t : ParameterStore δ ω}

/-- What a store that finished has left on its device. -/
theorem Sound.finished (h : Sound p es s)
    (hfinished : s.Returns p (.ok .finished) t) :
    StoreView.Admissible p ∧ t.Roomy p ∧
      (underway es = .whole ∧ (LawfulDevice.contents t.device).Carries p True p.length ∨
        underway es = .erased ∧
          (LawfulDevice.contents t.device).dword imageLayout.magicOffset ≠ imageLayout.magic) := by
  obtain ⟨hroomy, hstep⟩ := hfinished.step h.toRoomy h.inv.toPlaced
  generalize hv : t.view = v at hstep
  cases hstep with
  | finished hphase ha =>
    have hbytes : LawfulDevice.contents t.device = s.view.bytes := congrArg StoreView.bytes hv
    refine ⟨ha, hroomy, ?_⟩
    rw [hbytes]
    cases hu : underway es with
    | idle =>
      have hstart := h.inv.idle_iff.mp hu
      rw [hphase] at hstart
      cases hstart
    | whole =>
      have hcarries := h.inv.whole hu
      rw [hphase, h.inv.complete hphase] at hcarries
      exact .inl ⟨rfl, by simpa using hcarries⟩
    | erased => exact .inr ⟨rfl, h.inv.erased hu⟩

/-- The checksum tells a burst of flipped bits from the original, in data of any length and
continued from any register. Therefore no parameter set is read from a device on which a store
finished once such bits of its data area have flipped. -/
theorem damage_detected :
    (∀ (start : UInt32) (d d' : Bytes), d.Burst d' → checksum start d' ≠ checksum start d) ∧
    ∀ {δ ω : Type} [NonVolatile δ] [LawfulDevice δ] {p : Bytes} {d : δ}
      {handler : IncidentHandler ω} {w : ω} {s0 s t u : ParameterStore δ ω} {es : List Event},
      ParameterStore.mount.eval (ParameterStore.fresh d handler w) = (.ok (), s0) →
      imageLayout.dataOffset + p.length ≤ (LawfulDevice.contents s0.device).length →
      (LawfulDevice.contents s0.device).Blank →
      Run (Step p) s0 es s →
      s.Returns p (.ok .finished) t →
      (LawfulDevice.contents t.device).Burst (LawfulDevice.contents u.device) →
      (∀ i, (LawfulDevice.contents u.device)[i]? ≠ (LawfulDevice.contents t.device)[i]? →
        imageLayout.dataOffset ≤ i ∧ i < imageLayout.dataOffset + p.length) →
      (ParameterStore.image.eval u).1 = .ok none := by
  refine ⟨fun start d d' h => checksum_ne_of_burst h start, ?_⟩
  intro δ ω _ _ p d handler w s0 s t u es hopen hroom hblank hrun hfinished hburst hdata
  have hs : Sound p es s := hrun.invariant (I := Sound p) (sound_fresh hopen hroom hblank)
    fun h hstep => h.step hstep
  obtain ⟨ha, hroomy, hleft⟩ := hs.finished hfinished
  have hfits : imageLayout.dataOffset + p.length ≤ (LawfulDevice.contents t.device).length :=
    hroomy.fits
  show Except.ok (StoredImage.find u.device).set? = _
  rcases hleft with ⟨-, hcarries⟩ | ⟨-, habsent⟩
  · rw [StoredImage.find_eq_corrupt_of_burst ha hfits hcarries hburst hdata]
    rfl
  -- there was no image, and damage to the data does not make one
  · have htail : (LawfulDevice.contents u.device).dword imageLayout.magicOffset ≠
        imageLayout.magic := by
      rw [Bytes.dword_of_tail (fun i hi => (hdata i hi).1) (by decide)]
      exact habsent
    rw [StoredImage.find_eq_absent (by rw [hburst.length_eq]; omega) htail]
    rfl

/-- Nine bytes are stored and read back; then bits of four of them flip, from the first bit of one
to the last bit of another. -/
theorem damage_detected_nine_bytes :
    let p : Bytes := [1, 2, 3, 4, 5, 6, 7, 8, 9]
    let busy : Event := .process (.ok .busy)
    ∃ s0 s t u : ParameterStore MemoryStore Unit,
      ParameterStore.mount.eval
          (ParameterStore.fresh (MemoryStore.create 32 []) IncidentHandler.silent ()) =
        (.ok (), s0) ∧
      imageLayout.dataOffset + p.length ≤ (LawfulDevice.contents s0.device).length ∧
      (LawfulDevice.contents s0.device).Blank ∧
      Run (Step p) s0 [busy, busy, busy, busy] s ∧
      s.Returns p (.ok .finished) t ∧
      (ParameterStore.image.eval t).1 = .ok (some p) ∧
      u = { t with device := ⟨t.device.bytes.overwrite 18 [0x83, 4, 5, 7]⟩ } ∧
      (LawfulDevice.contents t.device).Burst (LawfulDevice.contents u.device) ∧
      (ParameterStore.image.eval u).1 = .ok none := by
  intro p busy
  let s0 : ParameterStore MemoryStore Unit :=
    ParameterStore.fresh (MemoryStore.create 32 []) IncidentHandler.silent ()
  have hopen : ParameterStore.mount.eval s0 = (.ok (), s0) := rfl
  have hroom : imageLayout.dataOffset + p.length ≤ (LawfulDevice.contents s0.device).length := by
    decide
  have hblank : (LawfulDevice.contents s0.device).Blank := Bytes.blank_replicate (by decide)
  have h0 : Sound p [] s0 := sound_fresh hopen hroom hblank
  have ha : StoreView.Admissible p := ⟨by simp [p], by decide⟩
  have hsum : checksum 0 p ≠ 0 := by decide +kernel
  obtain ⟨s1, hstep1, h1, hphase1, hwritten1⟩ :=
    step_begun h0.toRoomy ha.1 (by decide) rfl (blank_magic hblank)
  obtain ⟨s, t, hrun, hfinished⟩ := run_finished h1 hphase1 hsum
  have hpieces : piecesLeft p s1 = 2 := by
    unfold piecesLeft
    rw [hwritten1]
    show (9 - 0 + (8 - 1)) / 8 = 2
    decide
  rw [hpieces] at hrun
  have hwhole := (Run.one hstep1).trans hrun
  have hs : Sound p [busy, busy, busy, busy] s := hwhole.invariant (I := Sound p) h0
    fun h hstep => h.step hstep
  obtain ⟨-, hroomy, hleft⟩ := hs.finished hfinished
  have hcarries : (LawfulDevice.contents t.device).Carries p True p.length := by
    rcases hleft with ⟨-, hcarries⟩ | ⟨herased, -⟩
    · exact hcarries
    · cases herased
  have hfits : 25 ≤ t.device.bytes.length := hroomy.fits
  let u : ParameterStore MemoryStore Unit :=
    { t with device := ⟨t.device.bytes.overwrite 18 [0x83, 4, 5, 7]⟩ }
  have hother : ∀ i, (t.device.bytes.overwrite 18 [0x83, 4, 5, 7])[i]? ≠ t.device.bytes[i]? →
      18 ≤ i ∧ i < 18 + 4 := by
    intro i hi
    rw [Bytes.getElem?_overwrite] at hi
    split at hi
    · next hin => exact ⟨hin.1, hin.2.1⟩
    · exact absurd rfl hi
  have hne : t.device.bytes.overwrite 18 [0x83, 4, 5, 7] ≠ t.device.bytes := by
    intro he
    have hdata : ((t.device.bytes.drop 16).take 9)[2]? = some 3 := by
      rw [show (t.device.bytes.drop 16).take 9 = p from hcarries.data]
      rfl
    rw [← he, List.getElem?_take_of_lt (by decide), List.getElem?_drop, Bytes.getElem?_overwrite,
      if_pos ⟨by decide, by decide, by omega⟩] at hdata
    cases hdata
  have hburst : (LawfulDevice.contents t.device).Burst (LawfulDevice.contents u.device) :=
    Bytes.burst_of_bytes (Bytes.length_overwrite _ _ _) hne (Nat.le_refl 4) hother
  refine ⟨s0, s, t, u, hopen, hroom, hblank, hwhole, hfinished, ?_, rfl, hburst, ?_⟩
  · show Except.ok (StoredImage.find t.device).set? = _
    rw [StoredImage.find_eq_intact ha hroomy.fits hcarries]
    rfl
  · refine damage_detected.2 hopen hroom hblank hwhole hfinished hburst ?_
    intro i hi
    have := hother i hi
    exact ⟨by show 16 ≤ i; omega, by show i < 25; omega⟩

end Storing

end SlimInterface
