import Mathlib.Algebra.CharP.Two
import Mathlib.Algebra.Field.ZMod
import Mathlib.Algebra.Polynomial.Div
import SlimInterface.Proofs.Checksum.Residue

/-!
# The checksum as a division of polynomials

Bits are the coefficients of a polynomial over the field of two elements, the leading one first
(`Checksum.ofBits`). A register of 32 bits is then a polynomial of degree below 32, and different
registers are different polynomials (`Checksum.ofRegister_inj`).

To take one bit into the register is to multiply by `X`, to add the bit at `X ^ 32`, and to
subtract the divisor once if there is a term `X ^ 32` then (`Checksum.ofRegister_absorbBit`).
Nothing but multiples of the divisor is lost on the way, so what is left after all the data is the
remainder of the start value, moved up by the length of the data, and the data, moved up by the
length of the register (`checksum_eq_remainder`).
-/

namespace SlimInterface

open Polynomial

namespace Checksum

variable {r s : UInt32}

/-! ## Bits as coefficients -/

/-- A bit as an element of the field of two elements. -/
def ofBit (b : Bool) : ZMod 2 := if b then 1 else 0

/-- A register has no bits from the 32nd on. -/
theorem testBit_of_le (r : UInt32) {i : Nat} (hi : 32 ≤ i) : r.toNat.testBit i = false :=
  Nat.testBit_lt_two_pow (Nat.lt_of_lt_of_le r.toNat_lt (Nat.pow_le_pow_right (by decide) hi))

theorem ofBit_xor (b c : Bool) : ofBit (b ^^ c) = ofBit b + ofBit c := by
  cases b <;> cases c <;> decide

theorem ofBit_inj : ∀ {b c : Bool}, ofBit b = ofBit c → b = c := by decide

/-- The polynomial with these coefficients, the leading one first. -/
noncomputable def ofBits : List Bool → (ZMod 2)[X]
  | [] => 0
  | b :: bs => C (ofBit b) * X ^ bs.length + ofBits bs

/-- The polynomial of a register. -/
noncomputable def ofRegister (r : UInt32) : (ZMod 2)[X] :=
  ofBits (Bytes.bits (Bytes.bigEndian 4 r.toNat))

/-- What the checksum divides by: `Checksum.polynomial` leaves the leading term out. -/
noncomputable def divisor : (ZMod 2)[X] := X ^ 32 + ofRegister polynomial

theorem coeff_ofBits (bs : List Bool) (i : Nat) :
    (ofBits bs).coeff i = ofBit (bs.reverse[i]?.getD false) := by
  induction bs with
  | nil => exact coeff_zero i
  | cons b bs ih =>
    rw [ofBits, coeff_add, coeff_C_mul_X_pow, ih, List.reverse_cons]
    rcases Nat.lt_trichotomy i bs.length with hi | hi | hi
    · rw [if_neg (Nat.ne_of_lt hi), zero_add, List.getElem?_append_left (by simpa using hi)]
    · have hout : bs.reverse[i]? = none := List.getElem?_eq_none (by simp [hi])
      rw [if_pos hi, hout, List.getElem?_append_right (by simp [hi]), List.length_reverse, hi,
        Nat.sub_self]
      exact add_zero _
    · have hout : bs.reverse[i]? = none := List.getElem?_eq_none (by simp; omega)
      have hout' : (bs.reverse ++ [b])[i]? = none := List.getElem?_eq_none (by simp; omega)
      rw [if_neg (Nat.ne_of_gt hi), hout, hout', zero_add]

/-- The coefficients of a register are its bits. -/
theorem coeff_ofRegister (r : UInt32) (i : Nat) :
    (ofRegister r).coeff i = ofBit (r.toNat.testBit i) := by
  have hlen : (Bytes.bits (Bytes.bigEndian 4 r.toNat)).length = 32 := by
    rw [Bytes.length_bits, Bytes.length_bigEndian]
  unfold ofRegister
  rw [coeff_ofBits]
  congr 1
  by_cases hi : i < 32
  · rw [List.getElem?_reverse (by rw [hlen]; exact hi), hlen,
      Bytes.getElem?_bits_bigEndian (by omega), Option.getD_some,
      show 8 * 4 - 1 - (32 - 1 - i) = i by omega]
  · have hout : (Bytes.bits (Bytes.bigEndian 4 r.toNat)).reverse[i]? = none :=
      List.getElem?_eq_none (by rw [List.length_reverse, hlen]; omega)
    rw [hout, testBit_of_le r (Nat.not_lt.mp hi), Option.getD_none]

theorem ofRegister_inj : ofRegister r = ofRegister s ↔ r = s := by
  refine ⟨fun h => ?_, congrArg ofRegister⟩
  apply UInt32.toNat_inj.mp
  apply Nat.eq_of_testBit_eq
  intro i
  apply ofBit_inj
  rw [← coeff_ofRegister, ← coeff_ofRegister, h]

theorem ofRegister_xor (r s : UInt32) :
    ofRegister (r ^^^ s) = ofRegister r + ofRegister s := by
  ext i
  rw [coeff_add, coeff_ofRegister, coeff_ofRegister, coeff_ofRegister, UInt32.toNat_xor,
    Nat.testBit_xor, ofBit_xor]

theorem degree_ofRegister_lt (r : UInt32) : (ofRegister r).degree < (32 : Nat) := by
  rw [degree_lt_iff_coeff_zero]
  intro i hi
  rw [coeff_ofRegister, testBit_of_le r hi]
  rfl

theorem divisor_monic : divisor.Monic := monic_X_pow_add (degree_ofRegister_lt polynomial)

theorem degree_divisor : divisor.degree = (32 : Nat) := by
  unfold divisor
  rw [degree_add_eq_left_of_degree_lt, degree_X_pow]
  rw [degree_X_pow]
  exact degree_ofRegister_lt polynomial

/-! ## One bit -/

/-- Multiplying by `X` shifts the register; the bit that does not fit any more is the leading
one. -/
theorem ofRegister_mul_X (r : UInt32) :
    ofRegister r * X = ofRegister (r <<< 1) + C (ofBit (lead r)) * X ^ 32 := by
  ext i
  rw [coeff_add, coeff_C_mul_X_pow, coeff_ofRegister]
  cases i with
  | zero =>
    have hlow : (r <<< 1).toNat.testBit 0 = false := by
      rw [toNat_shiftLeft_one, Nat.testBit_zero]
      exact decide_eq_false (by omega)
    rw [coeff_mul_X_zero, hlow, if_neg (by decide)]
    exact (add_zero _).symm
  | succ i =>
    rw [coeff_mul_X, coeff_ofRegister]
    rcases Nat.lt_trichotomy i 31 with hi | hi | hi
    · rw [testBit_shiftLeft_one r hi, if_neg (by omega), add_zero]
    · rw [if_pos (by omega), hi, testBit_of_le _ (Nat.le_refl 32)]
      exact (zero_add _).symm
    · rw [if_neg (by omega), testBit_of_le r (by omega), testBit_of_le _ (by omega)]
      exact (add_zero _).symm

/-- One step of the division: the next bit comes in at `X ^ 32`, and the divisor is subtracted if
that leaves a term there. -/
theorem ofRegister_absorbBit (r : UInt32) (b : Bool) :
    ofRegister (absorbBit r b) =
      ofRegister r * X + C (ofBit b) * X ^ 32 - C (ofBit (lead r ^^ b)) * divisor := by
  have hone : C (ofBit true) = (1 : (ZMod 2)[X]) := C_1
  have hzero : C (ofBit false) = (0 : (ZMod 2)[X]) := C_0
  rw [absorbBit_eq, ofRegister_mul_X, add_assoc, ← add_mul, ← C_add, ← ofBit_xor]
  cases lead r ^^ b with
  | false => rw [if_neg (by decide), hzero, zero_mul, zero_mul, add_zero, sub_zero]
  | true =>
    rw [if_pos rfl, hone, one_mul, one_mul, ofRegister_xor, divisor, ← sub_sub,
      add_sub_cancel_right, CharTwo.sub_eq_add]

/-! ## All bits -/

/-- Only multiples of the divisor are lost. -/
theorem divisor_dvd (r : UInt32) (bs : List Bool) :
    divisor ∣ ofRegister r * X ^ bs.length + ofBits bs * X ^ 32 -
      ofRegister (bs.foldl absorbBit r) := by
  induction bs generalizing r with
  | nil => simp [ofBits]
  | cons b bs ih =>
    have hstep : divisor ∣ ofRegister r * X + C (ofBit b) * X ^ 32 -
        ofRegister (absorbBit r b) := by
      rw [ofRegister_absorbBit, sub_sub_cancel]
      exact dvd_mul_left _ _
    have hsplit : ofRegister r * X ^ (b :: bs).length + ofBits (b :: bs) * X ^ 32 -
        ofRegister ((b :: bs).foldl absorbBit r) =
        (ofRegister r * X + C (ofBit b) * X ^ 32 - ofRegister (absorbBit r b)) * X ^ bs.length +
        (ofRegister (absorbBit r b) * X ^ bs.length + ofBits bs * X ^ 32 -
          ofRegister (bs.foldl absorbBit (absorbBit r b))) := by
      rw [ofBits, List.length_cons, List.foldl_cons]
      ring
    rw [hsplit]
    exact dvd_add (hstep.mul_right _) (ih _)

end Checksum

open Checksum in
/-- **The checksum is a remainder.** It is what the division bit by bit leaves, and it is the one
register whose polynomial is the remainder of the start value and the data, both moved up to their
places. -/
theorem checksum_eq_remainder (start : UInt32) (data : Bytes) :
    checksum start data = serial start data ∧
    ∀ r : UInt32, r = checksum start data ↔
      ofRegister r = (ofRegister start * X ^ (8 * data.length) +
        ofBits (Bytes.bits data) * X ^ 32) %ₘ divisor := by
  have hserial := checksum_eq_serial start data
  have hrem : (ofRegister start * X ^ (8 * data.length) + ofBits (Bytes.bits data) * X ^ 32) %ₘ
      divisor = ofRegister (checksum start data) := by
    have hdvd := divisor_dvd start (Bytes.bits data)
    rw [Bytes.length_bits] at hdvd
    have hsmall :
        ofRegister (checksum start data) %ₘ divisor = ofRegister (checksum start data) := by
      rw [modByMonic_eq_self_iff divisor_monic, degree_divisor]
      exact degree_ofRegister_lt _
    rw [modByMonic_eq_of_dvd_sub divisor_monic hdvd, ← hsmall, hserial]
    rfl
  refine ⟨hserial, fun r => ?_⟩
  rw [hrem, ofRegister_inj]

end SlimInterface
