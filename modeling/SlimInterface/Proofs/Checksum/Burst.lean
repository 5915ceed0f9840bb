import Mathlib.Algebra.Group.Nat.Defs
import SlimInterface.Proofs.Checksum.Serial

/-!
# Bursts of errors

A burst is a set of flipped bits that lie close together: within as many places as the register
has bits. The checksum tells every burst (`checksum_ne_of_burst`), however long the data is and
wherever the burst lies.

By linearity the two checksums differ by what the flipped bits alone leave in an empty register.
Up to the first flipped bit the register stays empty. From there on it is not, as the polynomial
ends in a one: the register can only become empty again when that one has been shifted out, and
for this a burst is too short (`foldl_absorbBit_ne_zero_of_short`). What comes after the burst
never empties it (`eq_zero_of_foldl_absorbBit`).
-/

namespace SlimInterface

namespace Bytes

/-- All bits in a row, the most significant bit of each byte first. -/
def bits (d : Bytes) : List Bool := d.flatMap Checksum.bits

@[simp] theorem length_bits (d : Bytes) : (bits d).length = 8 * d.length := by
  induction d with
  | nil => rfl
  | cons x d ih =>
    show (Checksum.bits x ++ bits d).length = _
    rw [List.length_append, ih, Checksum.length_bits, List.length_cons]
    omega

theorem getElem?_bits (d : Bytes) (i : Nat) :
    (bits d)[i]? = d[i / 8]?.map fun x => x.toNat.testBit (7 - i % 8) := by
  induction d generalizing i with
  | nil => rfl
  | cons x d ih =>
    show (Checksum.bits x ++ bits d)[i]? = _
    by_cases hi : i < 8
    · rw [List.getElem?_append_left (by rw [Checksum.length_bits]; exact hi),
        Checksum.getElem?_bits x hi, Nat.div_eq_of_lt hi, Nat.mod_eq_of_lt hi]
      rfl
    · have hdiv : i / 8 = (i - 8) / 8 + 1 := by omega
      rw [List.getElem?_append_right (by rw [Checksum.length_bits]; omega), Checksum.length_bits,
        ih, hdiv, List.getElem?_cons_succ, show (i - 8) % 8 = i % 8 by omega]

/-- A byte with a flipped bit is another byte. -/
theorem ne_of_getElem?_bits_ne {d d' : Bytes} {i : Nat} (h : (bits d')[i]? ≠ (bits d)[i]?) :
    d'[i / 8]? ≠ d[i / 8]? := by
  intro he
  rw [getElem?_bits, getElem?_bits, he] at h
  exact h rfl

/-- Two sequences of equal length differ, and only within 32 places in a row. -/
structure Burst (d d' : Bytes) : Prop where
  length_eq : d'.length = d.length
  ne : d' ≠ d
  near : ∃ first, ∀ i, (bits d')[i]? ≠ (bits d)[i]? → first ≤ i ∧ i < first + 32

end Bytes

namespace Checksum

variable {r : UInt32} {b : Bool} {as bs : List Bool}

/-! ## Bits in an empty register -/

theorem absorbBit_zero_false : absorbBit 0 false = 0 := rfl

theorem absorbBit_zero_true : absorbBit 0 true = polynomial := rfl

/-- The polynomial ends in a one, so a register from which it was subtracted does, too. -/
theorem toNat_subtracted (r : UInt32) : ((r <<< 1) ^^^ polynomial).toNat % 2 = 1 := by
  have hbit : ((r <<< 1) ^^^ polynomial).toNat.testBit 0 = true := by
    rw [UInt32.toNat_xor, Nat.testBit_xor, toNat_shiftLeft_one, Nat.testBit_mod_two_pow,
      Nat.testBit_zero, Nat.mul_mod_left]
    rfl
  rw [Nat.testBit_zero] at hbit
  exact of_decide_eq_true hbit

/-- Zeros at the end of a register were there before the last step, all but one. -/
theorem mod_of_absorbBit_mod {k : Nat} (hk : k < 32)
    (h : (absorbBit r b).toNat % 2 ^ (k + 1) = 0) : r.toNat % 2 ^ k = 0 := by
  have hpow : 2 ^ (k + 1) = 2 * 2 ^ k := Nat.pow_succ'
  rw [absorbBit_eq] at h
  cases hs : lead r ^^ b with
  | true =>
    rw [hs, if_pos rfl, hpow] at h
    have hodd := toNat_subtracted r
    have heven := Nat.mod_mul_right_mod ((r <<< 1) ^^^ polynomial).toNat 2 (2 ^ k)
    rw [h, hodd] at heven
    cases heven
  | false =>
    rw [hs, if_neg Bool.false_ne_true, toNat_shiftLeft_one,
      Nat.mod_mod_of_dvd _ (Nat.pow_dvd_pow 2 (by omega)), hpow, Nat.mul_comm r.toNat,
      Nat.mul_mod_mul_left] at h
    omega

theorem mod_of_foldl_absorbBit (hn : bs.length ≤ 32) (h : bs.foldl absorbBit r = 0) :
    r.toNat % 2 ^ (32 - bs.length) = 0 := by
  induction bs generalizing r with
  | nil =>
    have hr : r = 0 := h
    rw [hr]
    rfl
  | cons b bs ih =>
    rw [List.length_cons] at hn ⊢
    have hnext := ih (by omega) h
    rw [show 32 - bs.length = 32 - (bs.length + 1) + 1 by omega] at hnext
    exact mod_of_absorbBit_mod (by omega) hnext

/-- A burst that is not longer than the register leaves something in it. -/
theorem foldl_absorbBit_ne_zero_of_short (hn : bs.length ≤ 32) (h : true ∈ bs) :
    bs.foldl absorbBit 0 ≠ 0 := by
  induction bs with
  | nil => cases h
  | cons b bs ih =>
    rw [List.length_cons] at hn
    rw [List.foldl_cons]
    cases b with
    | false =>
      rw [absorbBit_zero_false]
      exact ih (by omega) (by simpa using h)
    | true =>
      rw [absorbBit_zero_true]
      intro hz
      -- too few bits follow to shift the last one of the polynomial out
      have hmod := mod_of_foldl_absorbBit (by omega) hz
      have heven := Nat.mod_mod_of_dvd polynomial.toNat
        (Nat.pow_dvd_pow 2 (show 1 ≤ 32 - bs.length by omega))
      rw [hmod] at heven
      exact absurd heven (by decide)

theorem eq_zero_of_absorbBit_false (h : absorbBit r false = 0) : r = 0 := by
  have hlt := r.toNat_lt
  rw [absorbBit_eq, Bool.xor_false] at h
  cases hl : lead r with
  | true =>
    rw [hl, if_pos rfl] at h
    have hodd := toNat_subtracted r
    rw [h] at hodd
    cases hodd
  | false =>
    rw [hl, if_neg Bool.false_ne_true] at h
    have hshift := toNat_shiftLeft_one r
    rw [h, show (0 : UInt32).toNat = 0 from rfl] at hshift
    have htop : r.toNat / 2 ^ 31 % 2 ≠ 1 := by
      unfold lead at hl
      rw [Nat.testBit_eq_decide_div_mod_eq] at hl
      exact of_decide_eq_false hl
    apply UInt32.toNat_inj.mp
    show r.toNat = 0
    omega

theorem foldl_absorbBit_zero (h : ∀ b ∈ bs, b = false) : bs.foldl absorbBit 0 = 0 := by
  induction bs with
  | nil => rfl
  | cons b bs ih =>
    rw [List.foldl_cons, h b List.mem_cons_self, absorbBit_zero_false]
    exact ih fun c hc => h c (List.mem_cons_of_mem _ hc)

/-- Data that follows a burst does not undo it. -/
theorem eq_zero_of_foldl_absorbBit (hall : ∀ b ∈ bs, b = false) (h : bs.foldl absorbBit r = 0) :
    r = 0 := by
  induction bs generalizing r with
  | nil => exact h
  | cons b bs ih =>
    rw [List.foldl_cons, hall b List.mem_cons_self] at h
    exact eq_zero_of_absorbBit_false (ih (fun c hc => hall c (List.mem_cons_of_mem _ hc)) h)

/-- A burst anywhere in the data leaves something in the register. -/
theorem foldl_absorbBit_ne_zero {first : Nat} (h : true ∈ bs)
    (hnear : ∀ i, bs[i]? = some true → first ≤ i ∧ i < first + 32) :
    bs.foldl absorbBit 0 ≠ 0 := by
  have hfalse {cs : List Bool} (hc : true ∉ cs) : ∀ b ∈ cs, b = false := by
    intro b hb
    cases b with
    | false => rfl
    | true => exact absurd hb hc
  have hbefore : true ∉ bs.take first := by
    intro hm
    obtain ⟨i, hi⟩ := List.mem_iff_getElem?.mp hm
    rw [List.getElem?_take] at hi
    split at hi
    · have := hnear i hi
      omega
    · cases hi
  have hafter : true ∉ (bs.drop first).drop 32 := by
    intro hm
    obtain ⟨i, hi⟩ := List.mem_iff_getElem?.mp hm
    rw [List.drop_drop, List.getElem?_drop] at hi
    have := hnear _ hi
    omega
  have hsplit : bs = bs.take first ++ ((bs.drop first).take 32 ++ (bs.drop first).drop 32) := by
    rw [List.take_append_drop, List.take_append_drop]
  have hwithin : true ∈ (bs.drop first).take 32 := by
    rw [hsplit, List.mem_append, List.mem_append] at h
    rcases h with hm | hm | hm
    · exact absurd hm hbefore
    · exact hm
    · exact absurd hm hafter
  intro hz
  rw [hsplit, List.foldl_append, List.foldl_append, foldl_absorbBit_zero (hfalse hbefore)] at hz
  exact foldl_absorbBit_ne_zero_of_short (List.length_take_le _ _) hwithin
    (eq_zero_of_foldl_absorbBit (hfalse hafter) hz)

/-- Two rows of bits differ where their sum has a one. -/
theorem getElem?_zipWith_xor (h : as.length = bs.length) (i : Nat) :
    (List.zipWith xor as bs)[i]? = some true ↔ as[i]? ≠ bs[i]? := by
  rw [List.getElem?_zipWith]
  by_cases hi : i < as.length
  · have hi' : i < bs.length := h ▸ hi
    rw [List.getElem?_eq_getElem hi, List.getElem?_eq_getElem hi']
    cases as[i] <;> cases bs[i] <;> decide
  · rw [List.getElem?_eq_none (by omega), List.getElem?_eq_none (by omega)]
    simp

/-! ## Bits of bytes -/

theorem bits_inj {x y : UInt8} (h : bits x = bits y) : x = y := by
  apply UInt8.toNat_inj.mp
  apply Nat.eq_of_testBit_eq
  intro i
  by_cases hi : i < 8
  · have hx := getElem?_bits x (k := 7 - i) (by omega)
    rw [h, getElem?_bits y (by omega), show 7 - (7 - i) = i by omega] at hx
    exact (Option.some.inj hx).symm
  · have hpow : 2 ^ 8 ≤ 2 ^ i := Nat.pow_le_pow_right (by decide) (by omega)
    rw [Nat.testBit_lt_two_pow (Nat.lt_of_lt_of_le x.toNat_lt hpow),
      Nat.testBit_lt_two_pow (Nat.lt_of_lt_of_le y.toNat_lt hpow)]

end Checksum

theorem Bytes.bits_inj {d d' : Bytes} (h : bits d = bits d') : d = d' := by
  induction d generalizing d' with
  | nil =>
    have hlen := congrArg List.length h
    rw [length_bits, length_bits] at hlen
    have hzero : d'.length = 0 := by rw [List.length_nil] at hlen; omega
    exact (List.eq_nil_of_length_eq_zero hzero).symm
  | cons x d ih =>
    cases d' with
    | nil => cases h
    | cons y d' =>
      have happend : Checksum.bits x ++ bits d = Checksum.bits y ++ bits d' := h
      obtain ⟨hx, hd⟩ := List.append_inj happend rfl
      rw [Checksum.bits_inj hx, ih hd]

namespace Bytes

variable {b b' : Bytes} {off n i : Nat}

theorem getElem?_bits_slice (hi : i < 8 * n) :
    (bits ((b.drop off).take n))[i]? = (bits b)[8 * off + i]? := by
  rw [getElem?_bits, getElem?_bits, List.getElem?_take_of_lt (by omega), List.getElem?_drop,
    show (8 * off + i) / 8 = off + i / 8 by omega, show (8 * off + i) % 8 = i % 8 by omega]

/-- A burst is one in any part that holds all of it. -/
theorem Burst.slice (h : b.Burst b')
    (hpart : ∀ i, b'[i]? ≠ b[i]? → off ≤ i ∧ i < off + n) :
    Burst ((b.drop off).take n) ((b'.drop off).take n) := by
  obtain ⟨first, hnear⟩ := h.near
  have hlen := h.length_eq
  refine ⟨?_, ?_, first - 8 * off, ?_⟩
  · rw [List.length_take, List.length_take, List.length_drop, List.length_drop, hlen]
  · intro he
    apply h.ne
    apply List.ext_getElem?
    intro i
    apply Decidable.byContradiction
    intro hi
    have hin := hpart i hi
    have hi' := congrArg (·[i - off]?) he
    rw [List.getElem?_take_of_lt (by omega), List.getElem?_take_of_lt (by omega),
      List.getElem?_drop, List.getElem?_drop, show off + (i - off) = i by omega] at hi'
    exact hi hi'
  · intro i hi
    have hlt : i < 8 * n := by
      apply Decidable.byContradiction
      intro hn
      apply hi
      rw [List.getElem?_eq_none, List.getElem?_eq_none] <;>
        rw [length_bits, List.length_take, List.length_drop] <;> omega
    rw [getElem?_bits_slice hlt, getElem?_bits_slice hlt] at hi
    have := hnear _ hi
    omega

/-- Whatever is done to four bytes in a row is a burst, unless it is nothing. -/
theorem burst_of_bytes (hlen : b'.length = b.length) (hne : b' ≠ b) (hn : n ≤ 4)
    (h : ∀ i, b'[i]? ≠ b[i]? → off ≤ i ∧ i < off + n) : b.Burst b' := by
  refine ⟨hlen, hne, 8 * off, ?_⟩
  intro i hi
  have := h _ (ne_of_getElem?_bits_ne hi)
  omega

end Bytes

/-- A burst changes the checksum, whatever the register held before. -/
theorem checksum_ne_of_burst {d d' : Bytes} (h : d.Burst d') (start : UInt32) :
    checksum start d' ≠ checksum start d := by
  obtain ⟨first, hnear⟩ := h.near
  have hlen : (Bytes.bits d').length = (Bytes.bits d).length := by
    rw [Bytes.length_bits, Bytes.length_bits, h.length_eq]
  let flips := List.zipWith xor (Bytes.bits d') (Bytes.bits d)
  have hflips (i : Nat) : flips[i]? = some true ↔ (Bytes.bits d')[i]? ≠ (Bytes.bits d)[i]? :=
    Checksum.getElem?_zipWith_xor hlen i
  have hmem : true ∈ flips := by
    apply Decidable.byContradiction
    intro hm
    refine h.ne (Bytes.bits_inj (List.ext_getElem? fun i => ?_))
    apply Decidable.byContradiction
    intro hi
    exact hm (List.mem_of_getElem? ((hflips i).mpr hi))
  have hsum : flips.foldl Checksum.absorbBit 0 = checksum start d' ^^^ checksum start d := by
    rw [checksum_eq_serial, checksum_eq_serial, ← UInt32.xor_self (a := start)]
    exact Checksum.foldl_absorbBit_xor hlen start start
  intro he
  rw [he, UInt32.xor_self] at hsum
  exact Checksum.foldl_absorbBit_ne_zero hmem (fun i hi => hnear i ((hflips i).mp hi)) hsum

end SlimInterface
