import Mathlib.Algebra.Group.Nat.Defs
import SlimInterface.Proofs.Checksum.Erased
import SlimInterface.Proofs.Storage.Corruption
import SlimInterface.Proofs.Storage.Restart

/-!
# A flipped bit in an image

The checksum covers the data of an image and nothing else. What a flipped bit does to an image
that was stored on an erased device is therefore a question for each word of the header, and
`afterFlip` is the answer: no image for the magic word, the checksum and the data, the same set
for the state, which is only ever compared with the mark of an invalid image. The length is not
protected. A flipped bit cuts a power of two off the set, or reads as many erased bytes behind it,
and the image passes for intact if the checksum of the other data happens to be the same
(`found_flip`).

`Pristine` is what a device looks like when the store has finished; that it gets there is by an
invariant of the steps (`Unspoilt`), and `image_of_flip` puts the two together.
-/

namespace SlimInterface

/-! ## Numbers -/

namespace Bytes

/-- Flipping a bit that is zero adds its power of two. -/
theorem xor_two_pow_of_not_testBit {n k : Nat} (h : n.testBit k = false) :
    n ^^^ 2 ^ k = n + 2 ^ k := by
  induction k generalizing n with
  | zero =>
    have hdiv : (n ^^^ 1) / 2 = n / 2 := by rw [Nat.xor_div_two]; exact Nat.xor_zero _
    have hmod := Nat.xor_mod_two_eq_one (a := n) (b := 1)
    rw [Nat.testBit_zero] at h
    have heven : n % 2 ≠ 1 := of_decide_eq_false h
    rw [Nat.pow_zero]
    omega
  | succ k ih =>
    have hpow : 2 ^ (k + 1) = 2 * 2 ^ k := Nat.pow_succ'
    have hdiv : (n ^^^ 2 ^ (k + 1)) / 2 = n / 2 + 2 ^ k := by
      rw [Nat.xor_div_two, hpow, Nat.mul_div_cancel_left _ (by decide)]
      exact ih (Nat.testBit_succ n k ▸ h)
    have hmod := Nat.xor_mod_two_eq_one (a := n) (b := 2 ^ (k + 1))
    omega

/-- Flipping a bit that is one takes its power of two away. -/
theorem xor_two_pow_of_testBit {n k : Nat} (h : n.testBit k = true) :
    2 ^ k ≤ n ∧ n ^^^ 2 ^ k = n - 2 ^ k := by
  have hclear : (n ^^^ 2 ^ k).testBit k = false := by
    rw [Nat.testBit_xor, h, Nat.testBit_two_pow_self]
    rfl
  have hback := xor_two_pow_of_not_testBit hclear
  rw [Nat.xor_assoc, Nat.xor_self, Nat.xor_zero] at hback
  omega

/-! ## Flipped bits -/

/-- The bytes with bit `i` flipped. The bits of a byte are counted from the most significant
one. -/
def flip (b : Bytes) (i : Nat) : Bytes := b.modify (i / 8) (· ^^^ UInt8.ofNat (2 ^ (7 - i % 8)))

/-- The place that bit `i` has in a word at `off`. -/
def placeIn (off i : Nat) : Nat := 8 * (i / 8 - off) + (7 - i % 8)

variable {b : Bytes} {i off n : Nat}

theorem placeIn_lt (h : i / 8 < off + 4) : placeIn off i < 32 := by
  unfold placeIn
  omega

@[simp] theorem length_flip (b : Bytes) (i : Nat) : (b.flip i).length = b.length :=
  List.length_modify _ _ _

theorem getElem?_flip (b : Bytes) (i j : Nat) :
    (b.flip i)[j]? =
      if i / 8 = j then b[j]?.map (· ^^^ UInt8.ofNat (2 ^ (7 - i % 8))) else b[j]? := by
  unfold flip
  rw [List.getElem?_modify]
  split <;> simp

theorem getElem?_flip_of_ne {j : Nat} (h : (b.flip i)[j]? ≠ b[j]?) : j = i / 8 := by
  apply Decidable.byContradiction
  intro hj
  rw [getElem?_flip, if_neg fun he => hj he.symm] at h
  exact h rfl

theorem testBit_toNat_two_pow {k j : Nat} (hk : k < 8) :
    (UInt8.ofNat (2 ^ k)).toNat.testBit j = decide (k = j) := by
  rw [UInt8.toNat_ofNat_of_lt' (Nat.pow_lt_pow_right (by decide) hk)]
  exact Nat.testBit_two_pow

theorem flip_ne (h : i / 8 < b.length) : b.flip i ≠ b := by
  intro he
  have hbyte : (b.flip i)[i / 8]? = b[i / 8]? := by rw [he]
  rw [getElem?_flip, if_pos rfl, List.getElem?_eq_getElem h] at hbyte
  have hbit : (b[i / 8] ^^^ UInt8.ofNat (2 ^ (7 - i % 8))).toNat.testBit (7 - i % 8) =
      b[i / 8].toNat.testBit (7 - i % 8) :=
    congrArg (·.toNat.testBit (7 - i % 8)) (Option.some.inj hbyte)
  rw [UInt8.toNat_xor, Nat.testBit_xor, testBit_toNat_two_pow (by omega), decide_eq_true rfl,
    Bool.xor_true] at hbit
  cases hx : b[i / 8].toNat.testBit (7 - i % 8) <;> rw [hx] at hbit <;> cases hbit

/-- A single flipped bit is a burst. -/
theorem burst_flip (h : i / 8 < b.length) : b.Burst (b.flip i) :=
  burst_of_bytes (length_flip b i) (flip_ne h) (show 1 ≤ 4 by decide) fun j hj => by
    obtain rfl := getElem?_flip_of_ne hj
    exact ⟨Nat.le_refl _, Nat.lt_succ_self _⟩

theorem take_drop_flip_of_apart (h : i / 8 < off ∨ off + n ≤ i / 8) :
    ((b.flip i).drop off).take n = (b.drop off).take n := by
  apply List.ext_getElem?
  intro j
  rw [List.getElem?_take, List.getElem?_take, List.getElem?_drop, List.getElem?_drop]
  by_cases hj : j < n
  · rw [if_pos hj, if_pos hj, getElem?_flip, if_neg (by omega)]
  · rw [if_neg hj, if_neg hj]

theorem drop_flip_of_lt (h : i / 8 < off) : (b.flip i).drop off = b.drop off := by
  apply List.ext_getElem?
  intro j
  rw [List.getElem?_drop, List.getElem?_drop, getElem?_flip, if_neg (by omega)]

theorem dword_flip_of_apart (off : Nat) (h : i / 8 < off ∨ off + 4 ≤ i / 8) :
    (b.flip i).dword off = b.dword off := by
  unfold dword
  rw [take_drop_flip_of_apart h]

theorem testBit_dword (b : Bytes) (off : Nat) {k : Nat} (hk : k < 32) :
    (b.dword off).toNat.testBit k = (b[off + k / 8]?.getD 0).toNat.testBit (k % 8) := by
  unfold dword
  rw [UInt32.toNat_ofNat', Nat.testBit_mod_two_pow, decide_eq_true hk, Bool.true_and,
    testBit_value, List.getElem?_take_of_lt (by omega), List.getElem?_drop]

/-- A flipped bit in a word is a flipped bit of the word. -/
theorem dword_flip (off : Nat) (hoff : off ≤ i / 8) (hi : i / 8 < off + 4)
    (hlen : i / 8 < b.length) :
    (b.flip i).dword off = b.dword off ^^^ UInt32.ofNat (2 ^ placeIn off i) := by
  have hplace := placeIn_lt hi
  apply UInt32.toNat_inj.mp
  apply Nat.eq_of_testBit_eq
  intro k
  by_cases hk : k < 32
  · rw [UInt32.toNat_xor, Nat.testBit_xor, testBit_dword _ _ hk, testBit_dword _ _ hk,
      UInt32.toNat_ofNat_of_lt' (Nat.pow_lt_pow_right (by decide) hplace), Nat.testBit_two_pow,
      getElem?_flip]
    by_cases hbyte : i / 8 = off + k / 8
    · rw [if_pos hbyte, ← hbyte, List.getElem?_eq_getElem hlen]
      show (b[i / 8] ^^^ _).toNat.testBit _ = (b[i / 8].toNat.testBit _ ^^ _)
      rw [UInt8.toNat_xor, Nat.testBit_xor, testBit_toNat_two_pow (by omega)]
      congr 2
      unfold placeIn
      exact propext ⟨fun _ => by omega, fun _ => by omega⟩
    · rw [if_neg hbyte, decide_eq_false (by unfold placeIn; omega), Bool.xor_false]
  · have hpow : 2 ^ 32 ≤ 2 ^ k := Nat.pow_le_pow_right (by decide) (by omega)
    rw [Nat.testBit_lt_two_pow (Nat.lt_of_lt_of_le (UInt32.toNat_lt _) hpow),
      Nat.testBit_lt_two_pow (Nat.lt_of_lt_of_le (UInt32.toNat_lt _) hpow)]

end Bytes

/-! ## Images as bytes -/

namespace StoredImage

/-- What is behind a header that gives the length of the set as `length`. -/
def reading (b : Bytes) (length : UInt32) : StoredImage :=
  if length = 0 ∨ length = 0xFFFFFFFF then .absent
  else if imageLayout.dataOffset + length.toNat ≤ b.length then
    let data := (b.drop imageLayout.dataOffset).take length.toNat
    if checksum 0 data = b.dword imageLayout.checksumOffset then .intact data else .corrupt
  else .absent

/-- What a device with the given bytes is found to hold. -/
def found (b : Bytes) : StoredImage :=
  if b.dword imageLayout.magicOffset = imageLayout.magic then
    if b.dword imageLayout.stateOffset = imageLayout.invalid then .invalid
    else reading b (b.dword imageLayout.lengthOffset)
  else .absent

/-- Looking at a lawful device is looking at its bytes. -/
theorem find_eq_found {δ : Type} [NonVolatile δ] [LawfulDevice δ] {d : δ}
    (h : imageLayout.dataOffset ≤ (LawfulDevice.contents d).length) :
    find d = found (LawfulDevice.contents d) := by
  have hmagic := hasMagic_iff h
  unfold find found
  by_cases hm : (LawfulDevice.contents d).dword imageLayout.magicOffset = imageLayout.magic
  · rw [if_pos (hmagic.mpr hm), if_pos hm, dwordAt_eq h (by decide)]
    dsimp only
    unfold lengthOf? reading
    rw [dwordAt_eq h (by decide)]
    dsimp only
    generalize (LawfulDevice.contents d).dword imageLayout.lengthOffset = length
    by_cases hlength : length = 0 ∨ length = 0xFFFFFFFF
    · rw [if_pos hlength, if_pos hlength]
    -- the checksum can be read in any case, the data only if the device is long enough
    · rw [if_neg hlength, if_neg hlength]
      dsimp only
      unfold verify
      rw [dwordAt_eq h (by decide)]
      by_cases hfit : imageLayout.dataOffset + length.toNat ≤ (LawfulDevice.contents d).length
      · rw [dataOf?_eq hfit, if_pos hfit]
      · have hnone : dataOf? d length.toNat = none := by
          unfold dataOf?
          rw [LawfulDevice.bytesFrom_eq h]
          exact if_neg (by rw [List.length_drop]; omega)
        rw [hnone, if_neg hfit]
  · rw [if_neg fun he => hm (hmagic.mp he), if_neg hm]

end StoredImage

/-! ## Images on erased devices -/

/-- The bytes of a device on which a set was stored when all of it was erased. -/
structure Bytes.Pristine (b p : Bytes) : Prop where
  admissible : StoreView.Admissible p
  fits : imageLayout.dataOffset + p.length ≤ b.length
  carries : b.Carries p True p.length
  /-- Storing does not write the state. -/
  state : b.dword imageLayout.stateOffset = 0xFFFFFFFF
  behind : b.drop (imageLayout.dataOffset + p.length) =
    List.replicate (b.length - (imageLayout.dataOffset + p.length)) erased

theorem Bytes.Pristine.drop_eq {b p : Bytes} (h : b.Pristine p) :
    b.drop imageLayout.dataOffset = p ++
      List.replicate (b.length - (imageLayout.dataOffset + p.length)) Bytes.erased := by
  have hdata := h.carries.data
  rw [List.take_length] at hdata
  rw [← List.take_append_drop p.length (b.drop imageLayout.dataOffset), hdata, List.drop_drop,
    h.behind]

namespace StoredImage

/-- The set that is read when bit `k` of its length is flipped, on a device of `n` bytes. -/
def resized (n : Nat) (p : Bytes) (k : Nat) : Option Bytes :=
  if p.length.testBit k then
    let rest := p.take (p.length - 2 ^ k)
    if 2 ^ k < p.length ∧ checksum 0 rest = checksum 0 p then some rest else none
  else if p.length + 2 ^ k ≠ 2 ^ 32 - 1 ∧ imageLayout.dataOffset + (p.length + 2 ^ k) ≤ n ∧
      checksum (checksum 0 p) [Bytes.erased] = checksum 0 p then
    some (p ++ List.replicate (2 ^ k) Bytes.erased)
  else none

/-- The set that is read when bit `i` of the image of `p` is flipped, on a device of `n` bytes. -/
def afterFlip (n : Nat) (p : Bytes) (i : Nat) : Option Bytes :=
  if i / 8 < imageLayout.stateOffset then none
  else if i / 8 < imageLayout.lengthOffset then some p
  else if i / 8 < imageLayout.checksumOffset then
    resized n p (Bytes.placeIn imageLayout.lengthOffset i)
  else none

variable {b p : Bytes} {i k : Nat}

theorem toNat_length (hp : StoreView.Admissible p) :
    (UInt32.ofNat p.length).toNat = p.length := by
  have := hp.2
  exact UInt32.toNat_ofNat_of_lt' (by show p.length < 2 ^ 32; omega)

theorem toNat_unit (hk : k < 32) : (UInt32.ofNat (2 ^ k)).toNat = 2 ^ k :=
  UInt32.toNat_ofNat_of_lt' (Nat.pow_lt_pow_right (by decide) hk)

/-- No word with a single zero is the mark of an invalid image. -/
theorem xor_ones_ne_invalid (hk : k < 32) :
    0xFFFFFFFF ^^^ UInt32.ofNat (2 ^ k) ≠ imageLayout.invalid := by
  revert k
  decide

theorem xor_unit_ne (word : UInt32) (hk : k < 32) : word ^^^ UInt32.ofNat (2 ^ k) ≠ word := by
  intro he
  have hzero := Checksum.xor_eq_zero_iff.mpr he
  rw [UInt32.xor_comm word, UInt32.xor_assoc, UInt32.xor_self, UInt32.xor_zero] at hzero
  have hpos : 0 < 2 ^ k := Nat.two_pow_pos k
  rw [← toNat_unit hk, hzero] at hpos
  exact absurd hpos (by decide)

/-- A length that can be is taken at its word. -/
theorem set?_reading {length sum : UInt32} (hne : length.toNat ≠ 0)
    (hle : length.toNat ≠ 2 ^ 32 - 1) (hsum : b.dword imageLayout.checksumOffset = sum) :
    (reading b length).set? =
      let data := (b.drop imageLayout.dataOffset).take length.toNat
      if imageLayout.dataOffset + length.toNat ≤ b.length ∧ checksum 0 data = sum then some data
      else none := by
  unfold reading
  rw [if_neg, hsum]
  · dsimp only
    by_cases hfit : imageLayout.dataOffset + length.toNat ≤ b.length
    · rw [if_pos hfit]
      by_cases hdata : checksum 0 ((b.drop imageLayout.dataOffset).take length.toNat) = sum
      · rw [if_pos hdata, if_pos ⟨hfit, hdata⟩]
        rfl
      · rw [if_neg hdata, if_neg fun h => hdata h.2]
        rfl
    · rw [if_neg hfit, if_neg fun h => hfit h.1]
      rfl
  · rintro (rfl | rfl)
    · exact hne rfl
    · exact hle rfl

/-- Behind the length of the set, everything depends on the checksum. -/
theorem set?_reading_length {sum : UInt32} (hp : StoreView.Admissible p)
    (hfits : imageLayout.dataOffset + p.length ≤ b.length)
    (hsum : b.dword imageLayout.checksumOffset = sum) :
    (reading b (UInt32.ofNat p.length)).set? =
      let data := (b.drop imageLayout.dataOffset).take p.length
      if checksum 0 data = sum then some data else none := by
  have hpos : 0 < p.length := List.length_pos_iff.mpr hp.1
  have hlt := hp.2
  have hlength := toNat_length hp
  rw [set?_reading (by omega) (by omega) hsum, hlength]
  simp only [hfits, true_and]

/-- Every bit of the length leads to the set `resized`. -/
theorem set?_reading_flipped (hp : StoreView.Admissible p)
    (hfits : imageLayout.dataOffset + p.length ≤ b.length) (hk : k < 32)
    (hsum : b.dword imageLayout.checksumOffset = checksum 0 p)
    (hdata : b.drop imageLayout.dataOffset = p ++
      List.replicate (b.length - (imageLayout.dataOffset + p.length)) Bytes.erased) :
    (reading b (UInt32.ofNat p.length ^^^ UInt32.ofNat (2 ^ k))).set? = resized b.length p k := by
  have hpos : 0 < p.length := List.length_pos_iff.mpr hp.1
  have hlt := hp.2
  have hlength : (UInt32.ofNat p.length ^^^ UInt32.ofNat (2 ^ k)).toNat = p.length ^^^ 2 ^ k := by
    rw [UInt32.toNat_xor, toNat_length hp, toNat_unit hk]
  generalize UInt32.ofNat p.length ^^^ UInt32.ofNat (2 ^ k) = length at hlength
  have hunit : 0 < 2 ^ k := Nat.two_pow_pos k
  unfold resized
  cases hbit : p.length.testBit k with
  | true =>
    obtain ⟨hle, hsub⟩ := Bytes.xor_two_pow_of_testBit hbit
    rw [hsub] at hlength
    rw [if_pos rfl]
    by_cases hall : 2 ^ k = p.length
    · have hzero : length = 0 := UInt32.toNat_inj.mp (by show length.toNat = 0; omega)
      rw [hzero, if_neg fun h => Nat.ne_of_lt h.1 hall]
      rfl
    · have hrest : (b.drop imageLayout.dataOffset).take length.toNat =
          p.take (p.length - 2 ^ k) := by
        rw [hlength, hdata, List.take_append_of_le_length (Nat.sub_le _ _)]
      rw [set?_reading (by omega) (by omega) hsum, hrest]
      dsimp only
      simp only [show imageLayout.dataOffset + length.toNat ≤ b.length by omega,
        show 2 ^ k < p.length by omega]
  | false =>
    have hadd := Bytes.xor_two_pow_of_not_testBit hbit
    rw [hadd] at hlength
    rw [if_neg Bool.false_ne_true]
    by_cases hones : p.length + 2 ^ k = 2 ^ 32 - 1
    · have hlast : length = 0xFFFFFFFF := UInt32.toNat_inj.mp (by rw [hlength, hones]; rfl)
      rw [hlast, if_neg fun h => h.1 hones]
      rfl
    · rw [set?_reading (by omega) (by omega) hsum, hlength]
      dsimp only
      by_cases hroom : imageLayout.dataOffset + (p.length + 2 ^ k) ≤ b.length
      · have hmore : (b.drop imageLayout.dataOffset).take (p.length + 2 ^ k) =
            p ++ List.replicate (2 ^ k) Bytes.erased := by
          rw [hdata, List.take_length_add_append, List.take_replicate, Nat.min_eq_left (by omega)]
        rw [hmore, checksum_append]
        -- a power of two of erased bytes is as good as one of them
        simp only [Checksum.checksum_erased_eq_iff, hones, hroom, true_and, ne_eq,
          not_false_eq_true]
      · rw [if_neg fun h => hroom h.1, if_neg fun h => hroom h.2.1]

/-- A set with this checksum is read with the erased memory behind it, as far as the length tells,
and passes for intact. -/
theorem resized_of_still {n : Nat} (hbit : p.length.testBit k = false)
    (hle : p.length + 2 ^ k ≠ 2 ^ 32 - 1)
    (hroom : imageLayout.dataOffset + (p.length + 2 ^ k) ≤ n)
    (hstill : checksum 0 p = Checksum.still) :
    resized n p k = some (p ++ List.replicate (2 ^ k) Bytes.erased) := by
  have hsame : checksum (checksum 0 p) [Bytes.erased] = checksum 0 p := by
    rw [hstill]
    exact Checksum.absorb_still
  unfold resized
  rw [hbit, if_neg Bool.false_ne_true, if_pos ⟨hle, hroom, hsame⟩]

/-- What is found on a pristine device after a bit of its image was flipped. -/
theorem set?_found_flip (h : b.Pristine p) (hi : i / 8 < imageLayout.dataOffset + p.length) :
    (found (b.flip i)).set? = afterFlip b.length p i := by
  have hlen : i / 8 < b.length := Nat.lt_of_lt_of_le hi h.fits
  have hfits : imageLayout.dataOffset + p.length ≤ (b.flip i).length := by
    rw [Bytes.length_flip]
    exact h.fits
  have hmagic (hoff : imageLayout.stateOffset ≤ i / 8) :
      (b.flip i).dword imageLayout.magicOffset = imageLayout.magic := by
    rw [Bytes.dword_flip_of_apart imageLayout.magicOffset (.inr hoff), h.carries.magic]
  have hstate (hoff : imageLayout.lengthOffset ≤ i / 8) :
      (b.flip i).dword imageLayout.stateOffset ≠ imageLayout.invalid := by
    rw [Bytes.dword_flip_of_apart imageLayout.stateOffset (.inr hoff)]
    exact h.carries.unmarked
  have hlength (hoff : i / 8 < imageLayout.lengthOffset ∨ imageLayout.checksumOffset ≤ i / 8) :
      (b.flip i).dword imageLayout.lengthOffset = UInt32.ofNat p.length := by
    rw [Bytes.dword_flip_of_apart imageLayout.lengthOffset hoff, h.carries.length]
  have hsum (hoff : i / 8 < imageLayout.checksumOffset ∨ imageLayout.dataOffset ≤ i / 8) :
      (b.flip i).dword imageLayout.checksumOffset = checksum 0 p := by
    rw [Bytes.dword_flip_of_apart imageLayout.checksumOffset hoff, h.carries.sum trivial]
  have hdata (hoff : i / 8 < imageLayout.dataOffset) :
      ((b.flip i).drop imageLayout.dataOffset).take p.length = p := by
    rw [Bytes.take_drop_flip_of_apart (.inl hoff), h.carries.data, List.take_length]
  unfold afterFlip found
  by_cases h0 : i / 8 < imageLayout.stateOffset
  · rw [if_pos h0, if_neg]
    · rfl
    · rw [Bytes.dword_flip imageLayout.magicOffset (Nat.zero_le _) h0 hlen, h.carries.magic]
      exact xor_unit_ne _ (Bytes.placeIn_lt h0)
  rw [if_neg h0, if_pos (hmagic (Nat.le_of_not_lt h0))]
  by_cases h1 : i / 8 < imageLayout.lengthOffset
  · have hmark : (b.flip i).dword imageLayout.stateOffset ≠ imageLayout.invalid := by
      rw [Bytes.dword_flip imageLayout.stateOffset (Nat.le_of_not_lt h0) h1 hlen, h.state]
      exact xor_ones_ne_invalid (Bytes.placeIn_lt h1)
    rw [if_pos h1, if_neg hmark, hlength (.inl h1), set?_reading_length h.admissible hfits
      (hsum (.inl (Nat.lt_trans h1 (by decide)))), hdata (Nat.lt_trans h1 (by decide))]
    exact if_pos rfl
  rw [if_neg h1, if_neg (hstate (Nat.le_of_not_lt h1))]
  by_cases h2 : i / 8 < imageLayout.checksumOffset
  · have hdrop : (b.flip i).drop imageLayout.dataOffset = p ++ List.replicate
        ((b.flip i).length - (imageLayout.dataOffset + p.length)) Bytes.erased := by
      rw [Bytes.drop_flip_of_lt (Nat.lt_trans h2 (by decide)), h.drop_eq, Bytes.length_flip]
    have hk : Bytes.placeIn imageLayout.lengthOffset i < 32 := Bytes.placeIn_lt h2
    rw [if_pos h2, Bytes.dword_flip imageLayout.lengthOffset (Nat.le_of_not_lt h1) h2 hlen,
      h.carries.length, set?_reading_flipped h.admissible hfits hk (hsum (.inl h2)) hdrop,
      Bytes.length_flip]
  rw [if_neg h2, hlength (.inr (Nat.le_of_not_lt h2))]
  by_cases h3 : i / 8 < imageLayout.dataOffset
  · have hwrong : checksum 0 p ≠ (b.flip i).dword imageLayout.checksumOffset := by
      rw [Bytes.dword_flip imageLayout.checksumOffset (Nat.le_of_not_lt h2) h3 hlen,
        h.carries.sum trivial]
      exact (xor_unit_ne _ (Bytes.placeIn_lt h3)).symm
    rw [set?_reading_length h.admissible hfits rfl, hdata h3]
    exact if_neg hwrong
  · -- in the data, a flipped bit is a burst
    have hpart (j : Nat) (hj : (b.flip i)[j]? ≠ b[j]?) :
        imageLayout.dataOffset ≤ j ∧ j < imageLayout.dataOffset + p.length := by
      obtain rfl := Bytes.getElem?_flip_of_ne hj
      exact ⟨Nat.le_of_not_lt h3, hi⟩
    have hslice := (Bytes.burst_flip hlen).slice hpart
    rw [h.carries.data, List.take_length] at hslice
    rw [set?_reading_length h.admissible hfits (hsum (.inr (Nat.le_of_not_lt h3)))]
    exact if_neg (checksum_ne_of_burst hslice 0)

end StoredImage

/-! ## Stores on erased devices -/

namespace Storing

variable {δ ω : Type} [NonVolatile δ] [LawfulDevice δ] {n : Nat} {p : Bytes} {es : List Event}
  {u : Underway} {v v' : StoreView} {r : Except Fault StoreProgress}
  {s0 s t x : ParameterStore δ ω}

/-- What storing leaves of an erased device of `n` bytes, when nothing else is done to it. -/
structure Unspoilt (n : Nat) (p : Bytes) (u : Underway) (v : StoreView) : Prop where
  length_eq : v.bytes.length = n
  kept : u ≠ .erased
  /-- The state is written only beside the magic word. -/
  blank : v.bytes.dword imageLayout.magicOffset ≠ imageLayout.magic →
    v.bytes.dword imageLayout.stateOffset = 0xFFFFFFFF
  state : u = .whole → v.bytes.dword imageLayout.stateOffset = 0xFFFFFFFF
  behind : v.bytes.drop (imageLayout.dataOffset + p.length) =
    List.replicate (n - (imageLayout.dataOffset + p.length)) Bytes.erased

/-- Every step of storing leaves the state and what is behind the set as they were. -/
theorem Unspoilt.step (h : Unspoilt n p u v) (hinv : Inv p u v) (hs : StoreStep p v r v') :
    Unspoilt n p (u.next (.process r)) v' := by
  have hlen := hs.length_bytes.trans h.length_eq
  have hbehind := (hs.drop_bytes hinv.toPlaced).trans h.behind
  have hbusy (hne : v.phase ≠ .start) : u.next (.process (.ok .busy)) = u :=
    if_neg fun hu => hne (hinv.idle_iff.mp hu)
  cases hs with
  | refused | unsummable | overrun => exact h
  | occupied hs hm =>
    -- the state is written, but there is no store at hand
    have hu : u = .idle := hinv.idle_iff.mpr hs
    have hnext : u.next (.process (.ok .notApplicable)) = .idle := hu
    have hmagic : (v.putWord imageLayout.stateOffset imageLayout.invalid).bytes.dword
        imageLayout.magicOffset = imageLayout.magic := by
      rw [dword_putWord_of_apart (by decide), hm]
    rw [hnext]
    exact ⟨hlen, by decide, fun hn => absurd hmagic hn, fun he => absurd he (by decide), hbehind⟩
  | begun ha hs hm =>
    have hnext : u.next (.process (.ok .busy)) = .whole := if_pos (hinv.idle_iff.mpr hs)
    have hones : ((v.putWord imageLayout.magicOffset imageLayout.magic).putWord
        imageLayout.lengthOffset (UInt32.ofNat p.length)).bytes.dword imageLayout.stateOffset =
          0xFFFFFFFF := by
      rw [dword_putWord_of_apart (by decide), dword_putWord_of_apart (by decide), h.blank hm]
    rw [hnext]
    exact ⟨hlen, by decide, fun _ => hones, fun _ => hones, hbehind⟩
  | summed hs =>
    rw [hbusy (by rw [hs]; decide)]
    refine ⟨hlen, h.kept, fun hn => ?_, fun hu => ?_, hbehind⟩
    · rw [dword_putWord_of_apart (by decide)] at hn ⊢
      exact h.blank hn
    · rw [dword_putWord_of_apart (by decide)]
      exact h.state hu
  | written hs =>
    obtain ⟨hpos, -⟩ := hinv.placed (.inr hs)
    rw [hbusy (by rw [hs]; decide)]
    refine ⟨hlen, h.kept, fun hn => ?_, fun hu => ?_, hbehind⟩
    · rw [dword_putChunk (by decide) hpos] at hn ⊢
      exact h.blank hn
    · rw [dword_putChunk (by decide) hpos]
      exact h.state hu
  | finished =>
    have hnext : u.next (.process (.ok .finished)) = .idle := rfl
    rw [hnext]
    exact ⟨hlen, by decide, h.blank, fun he => absurd he (by decide), hbehind⟩

/-- A store that was just opened over erased bytes. -/
theorem unspoilt_fresh {d : δ} {handler : IncidentHandler ω} {w : ω}
    (hopen : ParameterStore.mount.eval (ParameterStore.fresh d handler w) = (.ok (), s0))
    (herased : LawfulDevice.contents s0.device = List.replicate n Bytes.erased)
    (hroom : imageLayout.dataOffset + p.length ≤ n) :
    Sound p [] s0 ∧ Unspoilt n p (underway []) s0.view := by
  have hblank : s0.view.bytes.Blank := by
    show (LawfulDevice.contents s0.device).Blank
    rw [herased]
    exact Bytes.blank_replicate (Nat.le_trans (Nat.le_add_right _ _) hroom)
  have hlen : s0.view.bytes.length = n := by
    show (LawfulDevice.contents s0.device).length = n
    rw [herased, List.length_replicate]
  refine ⟨sound_fresh hopen (hlen ▸ hroom) hblank, hlen, by decide,
    fun _ => hblank.dword (by decide), fun _ => hblank.dword (by decide), ?_⟩
  show (LawfulDevice.contents s0.device).drop _ = _
  rw [herased, List.drop_replicate]

/-- A whole run on an erased device. -/
theorem unspoilt_of_run (h0 : Sound p [] s0 ∧ Unspoilt n p (underway []) s0.view)
    (hrun : Run (Step p) s0 es s) (hes : Event.prepare ∉ es) :
    Sound p es s ∧ Unspoilt n p (underway es) s.view := by
  refine hrun.invariant (I := fun es s => Event.prepare ∉ es →
    Sound p es s ∧ Unspoilt n p (underway es) s.view) (fun _ => h0) ?_ hes
  intro es s e t h hs hes
  rw [List.mem_append, List.mem_singleton] at hes
  obtain ⟨hsound, hunspoilt⟩ := h fun hm => hes (.inl hm)
  refine ⟨hsound.step hs, ?_⟩
  cases hs with
  | prepare => exact absurd (.inr rfl) hes
  | process hr =>
    obtain ⟨-, hstep⟩ := hr.step hsound.toRoomy hsound.inv.toPlaced
    rw [underway_append]
    exact hunspoilt.step hsound.inv hstep

/-- A store that finishes leaves its device pristine. -/
theorem pristine_of_finished (h0 : Sound p [] s0 ∧ Unspoilt n p (underway []) s0.view)
    (hrun : Run (Step p) s0 es s) (hes : Event.prepare ∉ es)
    (hfinished : s.Returns p (.ok .finished) t) :
    (LawfulDevice.contents t.device).length = n ∧ (LawfulDevice.contents t.device).Pristine p := by
  obtain ⟨hs, hunspoilt⟩ := unspoilt_of_run h0 hrun hes
  obtain ⟨ha, hroomy, hleft⟩ := hs.finished hfinished
  obtain ⟨-, hstep⟩ := hfinished.step hs.toRoomy hs.inv.toPlaced
  have hbytes : LawfulDevice.contents t.device = s.view.bytes := by
    generalize hv : t.view = v at hstep
    cases hstep
    exact congrArg StoreView.bytes hv
  rcases hleft with ⟨hwhole, hcarries⟩ | ⟨herased, -⟩
  · have hlen : (LawfulDevice.contents t.device).length = n := by
      rw [hbytes]
      exact hunspoilt.length_eq
    refine ⟨hlen, ha, hroomy.fits, hcarries, ?_, ?_⟩
    · rw [hbytes]
      exact hunspoilt.state hwhole
    · rw [hlen, hbytes]
      exact hunspoilt.behind
  · exact absurd herased hunspoilt.kept

/-- A set that can be stored is stored, unless there is an image already. -/
theorem run_to_finish (h : s0.Roomy p) (hs : s0.phase = .start)
    (hm : s0.view.bytes.dword imageLayout.magicOffset ≠ imageLayout.magic)
    (hp : p ≠ []) (hwords : imageLayout.dataOffset + p.length < 2 ^ 32) (hsum : checksum 0 p ≠ 0) :
    ∃ s t, Run (Step p) s0 (List.replicate (2 + (p.length + 7) / 8) (.process (.ok .busy))) s ∧
      s.Returns p (.ok .finished) t := by
  obtain ⟨s1, hstep, hcourse, hphase, hwritten⟩ := step_begun h hp hwords hs hm
  obtain ⟨s, t, hrun, hfinished⟩ := run_finished hcourse hphase hsum
  have hpieces : piecesLeft p s1 = (p.length + 7) / 8 := by
    unfold piecesLeft
    rw [hwritten]
    rfl
  have hcount : 2 + (p.length + 7) / 8 = 1 + (p.length + 7) / 8 + 1 := by omega
  rw [hpieces] at hrun
  rw [hcount, List.replicate_succ]
  exact ⟨s, t, (Run.one hstep).trans hrun, hfinished⟩

/-- What a flipped bit makes of a device on which a store finished. -/
theorem eval_image_flip (h : (LawfulDevice.contents t.device).Pristine p) {i : Nat}
    (hi : i < 8 * (imageLayout.dataOffset + p.length))
    (hflip : LawfulDevice.contents x.device = (LawfulDevice.contents t.device).flip i) :
    (ParameterStore.image.eval x).1 =
      .ok (StoredImage.afterFlip (LawfulDevice.contents t.device).length p i) := by
  have hroom : imageLayout.dataOffset ≤ (LawfulDevice.contents x.device).length := by
    rw [hflip, Bytes.length_flip]
    exact Nat.le_trans (Nat.le_add_right _ _) h.fits
  show Except.ok (StoredImage.find x.device).set? = _
  rw [StoredImage.find_eq_found hroom, hflip, StoredImage.set?_found_flip h (by omega)]

/-- A set stored in an erased memory of `n` bytes, of which bit `i` is flipped then. -/
theorem exists_flipped (hroom : imageLayout.dataOffset + p.length ≤ n)
    (hp : p ≠ []) (hwords : imageLayout.dataOffset + p.length < 2 ^ 32)
    (hsum : checksum 0 p ≠ 0) (i : Nat) :
    ∃ s0 s t x : ParameterStore MemoryStore Unit,
      ParameterStore.mount.eval
          (ParameterStore.fresh (MemoryStore.create n []) IncidentHandler.silent ()) =
        (.ok (), s0) ∧
      LawfulDevice.contents s0.device = List.replicate n Bytes.erased ∧
      Run (Step p) s0 (List.replicate (2 + (p.length + 7) / 8) (.process (.ok .busy))) s ∧
      s.Returns p (.ok .finished) t ∧
      LawfulDevice.contents x.device = (LawfulDevice.contents t.device).flip i := by
  let s0 : ParameterStore MemoryStore Unit :=
    ParameterStore.fresh (MemoryStore.create n []) IncidentHandler.silent ()
  have hopen : ParameterStore.mount.eval s0 = (.ok (), s0) := rfl
  have herased : LawfulDevice.contents s0.device = List.replicate n Bytes.erased := by
    show [].take n ++ List.replicate (n - 0) Bytes.erased = _
    rw [List.take_nil, List.nil_append, Nat.sub_zero]
  have hblank : s0.view.bytes.Blank := by
    show (LawfulDevice.contents s0.device).Blank
    rw [herased]
    exact Bytes.blank_replicate (Nat.le_trans (Nat.le_add_right _ _) hroom)
  obtain ⟨hs0, -⟩ := unspoilt_fresh hopen herased hroom
  obtain ⟨s, t, hrun, hfinished⟩ :=
    run_to_finish hs0.toRoomy rfl (blank_magic hblank) hp hwords hsum
  exact ⟨s0, s, t, { t with device := ⟨t.device.bytes.flip i⟩ }, hopen, herased, hrun, hfinished,
    rfl⟩

/-- What is read from a device once a bit of its image has flipped. Unless the bit belongs to the
length, this is the set that was stored, or nothing. -/
theorem image_of_flip {d : δ} {handler : IncidentHandler ω} {w : ω} {i : Nat}
    (hopen : ParameterStore.mount.eval (ParameterStore.fresh d handler w) = (.ok (), s0))
    (herased : LawfulDevice.contents s0.device = List.replicate n Bytes.erased)
    (hroom : imageLayout.dataOffset + p.length ≤ n) (hrun : Run (Step p) s0 es s)
    (hes : Event.prepare ∉ es)
    (hfinished : s.Returns p (.ok .finished) t)
    (hi : i < 8 * (imageLayout.dataOffset + p.length))
    (hflip : LawfulDevice.contents x.device = (LawfulDevice.contents t.device).flip i) :
    (ParameterStore.image.eval x).1 = .ok (StoredImage.afterFlip n p i) := by
  obtain ⟨hlen, hpristine⟩ :=
    pristine_of_finished (unspoilt_fresh hopen herased hroom) hrun hes hfinished
  rw [eval_image_flip hpristine hi hflip, hlen]

/-- Four bytes whose checksum an erased byte does not change. -/
def stillSet : Bytes := [0xEB, 0xA6, 0xDF, 0xC4]

theorem checksum_stillSet : checksum 0 stillSet = Checksum.still := by
  rw [checksum_eq_serial]
  decide +kernel

theorem stillSet_ne_nil : stillSet ≠ [] := by decide

theorem checksum_stillSet_ne_zero : checksum 0 stillSet ≠ 0 := by
  rw [checksum_stillSet]
  decide

/-- The second lowest bit of their length makes it six. -/
theorem image_of_flip_four_bytes :
    let busy : Event := .process (.ok .busy)
    ∃ s0 s t x : ParameterStore MemoryStore Unit,
      ParameterStore.mount.eval
          (ParameterStore.fresh (MemoryStore.create 22 []) IncidentHandler.silent ()) =
        (.ok (), s0) ∧
      LawfulDevice.contents s0.device = List.replicate 22 Bytes.erased ∧
      imageLayout.dataOffset + stillSet.length ≤ 22 ∧
      Run (Step stillSet) s0 [busy, busy, busy] s ∧ Event.prepare ∉ [busy, busy, busy] ∧
      s.Returns stillSet (.ok .finished) t ∧
      70 < 8 * (imageLayout.dataOffset + stillSet.length) ∧
      LawfulDevice.contents x.device = (LawfulDevice.contents t.device).flip 70 ∧
      (ParameterStore.image.eval x).1 = .ok (some (stillSet ++ [0xFF, 0xFF])) := by
  intro busy
  have hroom : imageLayout.dataOffset + stillSet.length ≤ 22 := by decide
  obtain ⟨s0, s, t, x, hopen, herased, hrun, hfinished, hflip⟩ :=
    exists_flipped hroom stillSet_ne_nil (by decide) checksum_stillSet_ne_zero 70
  have hcount : 2 + (stillSet.length + 7) / 8 = 3 := by decide
  rw [hcount] at hrun
  have hes : Event.prepare ∉ [busy, busy, busy] := by simp [busy]
  have hset : StoredImage.afterFlip 22 stillSet 70 = some (stillSet ++ [0xFF, 0xFF]) := by
    rw [StoredImage.afterFlip, if_neg (by decide), if_neg (by decide), if_pos (by decide)]
    exact StoredImage.resized_of_still (by decide) (by decide) (by decide) checksum_stillSet
  refine ⟨s0, s, t, x, hopen, herased, hroom, hrun, hes, hfinished, by decide, hflip, ?_⟩
  rw [image_of_flip hopen herased hroom hrun hes hfinished (by decide) hflip, hset]

/-- With the lowest bit of their length flipped, the same bytes are read with an erased byte behind
them. -/
theorem flipped_length_undetected :
    let busy : Event := .process (.ok .busy)
    ∃ s0 s t x : ParameterStore MemoryStore Unit,
      ParameterStore.mount.eval
          (ParameterStore.fresh (MemoryStore.create 24 []) IncidentHandler.silent ()) =
        (.ok (), s0) ∧
      LawfulDevice.contents s0.device = List.replicate 24 Bytes.erased ∧
      Run (Step stillSet) s0 [busy, busy, busy] s ∧
      s.Returns stillSet (.ok .finished) t ∧
      (ParameterStore.image.eval t).1 = .ok (some stillSet) ∧
      71 < 8 * (imageLayout.dataOffset + stillSet.length) ∧
      LawfulDevice.contents x.device = (LawfulDevice.contents t.device).flip 71 ∧
      (ParameterStore.image.eval x).1 = .ok (some (stillSet ++ [0xFF])) ∧
      stillSet ++ [0xFF] ≠ stillSet := by
  intro busy
  have hroom : imageLayout.dataOffset + stillSet.length ≤ 24 := by decide
  obtain ⟨s0, s, t, x, hopen, herased, hrun, hfinished, hflip⟩ :=
    exists_flipped hroom stillSet_ne_nil (by decide) checksum_stillSet_ne_zero 71
  have hcount : 2 + (stillSet.length + 7) / 8 = 3 := by decide
  rw [hcount] at hrun
  obtain ⟨hlen, hpristine⟩ := pristine_of_finished (unspoilt_fresh hopen herased hroom) hrun
    (by simp) hfinished
  have hbefore : (ParameterStore.image.eval t).1 = .ok (some stillSet) := by
    show Except.ok (StoredImage.find t.device).set? = _
    rw [StoredImage.find_eq_intact hpristine.admissible hpristine.fits hpristine.carries]
    rfl
  have hset : StoredImage.afterFlip 24 stillSet 71 = some (stillSet ++ [0xFF]) := by
    rw [StoredImage.afterFlip, if_neg (by decide), if_neg (by decide), if_pos (by decide)]
    exact StoredImage.resized_of_still (by decide) (by decide) (by decide) checksum_stillSet
  refine ⟨s0, s, t, x, hopen, herased, hrun, hfinished, hbefore, by decide, hflip, ?_, by decide⟩
  rw [eval_image_flip hpristine (by decide) hflip, hlen, hset]

end Storing

end SlimInterface
