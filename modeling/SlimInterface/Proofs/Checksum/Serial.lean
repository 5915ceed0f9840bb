import Mathlib.Algebra.Group.Nat.Defs
import SlimInterface.Checksum

/-!
# The checksum bit by bit

The register of the checksum is linear: the register of two texts that are added bit by bit is
the sum of their registers (`foldl_absorbBit_xor`). What a register holds in its leading bits is
cancelled by the same bits of data (`foldl_absorbBit_leads`), so a byte and the top of the register
only matter through their sum. That is what makes a table of 256 rows enough: one look into the
table is eight steps of the division (`absorb_eq`), and the whole checksum is the division done
bit by bit (`checksum_eq_serial`).
-/

namespace SlimInterface

namespace Checksum

variable {r s : UInt32} {as bs : List Bool}

/-! ## One bit -/

/-- The bit that the next step shifts out of a register. -/
def lead (r : UInt32) : Bool := r.toNat.testBit 31

theorem and_lead (r : UInt32) : (r &&& 0x80000000 != 0) = lead r := by
  have hand : (r &&& 0x80000000).toBitVec =
      if r.toBitVec.getLsbD 31 then BitVec.twoPow 32 31 else 0#32 :=
    BitVec.and_twoPow r.toBitVec 31
  rw [Bool.eq_iff_iff, bne_iff_ne, ne_eq, ← UInt32.toBitVec_inj, hand]
  unfold lead
  rw [← UInt32.toNat_toBitVec, BitVec.testBit_toNat]
  cases r.toBitVec.getLsbD 31 <;> simp

theorem lead_xor (r s : UInt32) : lead (r ^^^ s) = (lead r ^^ lead s) := by
  unfold lead
  rw [UInt32.toNat_xor, Nat.testBit_xor]

theorem absorbBit_eq (r : UInt32) (b : Bool) :
    absorbBit r b = if lead r ^^ b then (r <<< 1) ^^^ polynomial else r <<< 1 := by
  unfold absorbBit
  rw [and_lead]

theorem shift_eq_absorbBit (r : UInt32) : shift r = absorbBit r false := by
  unfold shift
  rw [absorbBit_eq, Bool.xor_false, ← and_lead]
  by_cases h : r &&& 0x80000000 = 0
  · rw [if_pos h, if_neg (by simp [h])]
  · rw [if_neg h, if_pos (by simpa using h)]

/-- The polynomial is subtracted from a sum if it is from one of the two and not from both. -/
theorem absorbBit_xor (r s : UInt32) (b c : Bool) :
    absorbBit (r ^^^ s) (b ^^ c) = absorbBit r b ^^^ absorbBit s c := by
  have hlead : (lead (r ^^^ s) ^^ (b ^^ c)) = ((lead r ^^ b) ^^ (lead s ^^ c)) := by
    rw [lead_xor]
    cases lead r <;> cases lead s <;> cases b <;> cases c <;> rfl
  rw [absorbBit_eq, absorbBit_eq, absorbBit_eq, hlead, UInt32.shiftLeft_xor]
  cases lead r ^^ b <;> cases lead s ^^ c
  · rfl
  · exact UInt32.xor_assoc _ _ _
  · show r <<< 1 ^^^ s <<< 1 ^^^ polynomial = r <<< 1 ^^^ polynomial ^^^ s <<< 1
    rw [UInt32.xor_assoc, UInt32.xor_comm (s <<< 1), ← UInt32.xor_assoc]
  · show r <<< 1 ^^^ s <<< 1 = r <<< 1 ^^^ polynomial ^^^ (s <<< 1 ^^^ polynomial)
    rw [UInt32.xor_comm (s <<< 1) polynomial, UInt32.xor_assoc, ← UInt32.xor_assoc polynomial,
      UInt32.xor_self, UInt32.zero_xor]

/-- A bit of data cancels the same bit of the register. -/
theorem absorbBit_lead (r : UInt32) : absorbBit r (lead r) = r <<< 1 := by
  rw [absorbBit_eq, Bool.xor_self]
  rfl

/-! ## Several bits -/

theorem foldl_absorbBit_xor (h : as.length = bs.length) (r s : UInt32) :
    (List.zipWith xor as bs).foldl absorbBit (r ^^^ s) =
      as.foldl absorbBit r ^^^ bs.foldl absorbBit s := by
  induction as generalizing bs r s with
  | nil =>
    obtain rfl : bs = [] := List.eq_nil_of_length_eq_zero h.symm
    rfl
  | cons a as ih =>
    cases bs with
    | nil => cases h
    | cons b bs =>
      rw [List.zipWith_cons_cons, List.foldl_cons, List.foldl_cons, List.foldl_cons,
        absorbBit_xor]
      exact ih (Nat.succ.inj h) _ _

theorem toNat_shiftLeft_one (r : UInt32) : (r <<< 1).toNat = r.toNat * 2 % 2 ^ 32 := by
  rw [UInt32.toNat_shiftLeft]
  exact congrArg (· % 2 ^ 32) (Nat.shiftLeft_eq r.toNat 1)

theorem testBit_shiftLeft_one (r : UInt32) {i : Nat} (hi : i < 31) :
    (r <<< 1).toNat.testBit (i + 1) = r.toNat.testBit i := by
  rw [toNat_shiftLeft_one, Nat.testBit_mod_two_pow, decide_eq_true (by omega), Bool.true_and,
    Nat.testBit_succ, Nat.mul_div_cancel _ (by decide)]

/-- Data that agrees with the leading bits of a register cancels them, one after the other. -/
theorem foldl_absorbBit_leads (hn : bs.length ≤ 32)
    (h : ∀ k, k < bs.length → bs[k]? = some (r.toNat.testBit (31 - k))) :
    (bs.foldl absorbBit r).toNat = r.toNat * 2 ^ bs.length % 2 ^ 32 := by
  induction bs generalizing r with
  | nil =>
    rw [List.length_nil, Nat.pow_zero, Nat.mul_one]
    exact (Nat.mod_eq_of_lt r.toNat_lt).symm
  | cons b bs ih =>
    rw [List.length_cons] at hn h
    have hb : b = lead r := Option.some.inj (h 0 (Nat.zero_lt_succ _))
    have hrest : ∀ k, k < bs.length → bs[k]? = some ((r <<< 1).toNat.testBit (31 - k)) := by
      intro k hk
      rw [show 31 - k = 31 - (k + 1) + 1 by omega, testBit_shiftLeft_one r (by omega)]
      exact h (k + 1) (by omega)
    have hpow : 2 ^ (bs.length + 1) = 2 * 2 ^ bs.length := Nat.pow_succ'
    rw [List.foldl_cons, hb, absorbBit_lead, ih (by omega) hrest, toNat_shiftLeft_one,
      List.length_cons, Nat.mod_mul_mod, Nat.mul_assoc, hpow]

/-! ## One byte -/

@[simp] theorem length_bits (byte : UInt8) : (bits byte).length = 8 := rfl

theorem getElem?_bits (byte : UInt8) {k : Nat} (hk : k < 8) :
    (bits byte)[k]? = some (byte.toNat.testBit (7 - k)) := by
  have hplaces : [7, 6, 5, 4, 3, 2, 1, 0][k]? = some (7 - k) := by
    have hall : ∀ k, k < 8 → [7, 6, 5, 4, 3, 2, 1, 0][k]? = some (7 - k) := by decide
    exact hall k hk
  unfold bits
  rw [List.getElem?_map, hplaces]
  rfl

theorem lookup_eq (byte : UInt8) : lookup byte = row byte := by
  unfold lookup table
  rw [Vector.getElem_ofFn, UInt8.ofNat_toNat]

/-- A row holds what a byte at the top of the register turns into when no data comes. -/
theorem row_eq (byte : UInt8) :
    row byte = (List.replicate 8 false).foldl absorbBit (byte.toUInt32 <<< 24) := by
  have hshift : shift = fun r => absorbBit r false := funext shift_eq_absorbBit
  unfold row
  rw [hshift]
  rfl

/-- A byte that stands where the register has the same bits cancels them. -/
theorem foldl_absorbBit_bits {byte : UInt8}
    (h : ∀ k, k < 8 → r.toNat.testBit (31 - k) = byte.toNat.testBit (7 - k)) :
    (bits byte).foldl absorbBit r = r <<< 8 := by
  have hshift : (r <<< 8).toNat = r.toNat <<< 8 % 2 ^ 32 := UInt32.toNat_shiftLeft _ _
  have hleads : ∀ k, k < (bits byte).length →
      (bits byte)[k]? = some (r.toNat.testBit (31 - k)) := by
    intro k hk
    rw [getElem?_bits byte hk, h k hk]
  apply UInt32.toNat_inj.mp
  rw [foldl_absorbBit_leads (by simp) hleads, length_bits, hshift, Nat.shiftLeft_eq]

theorem toNat_top (byte : UInt8) : (byte.toUInt32 <<< 24).toNat = byte.toNat * 2 ^ 24 := by
  have hlt := byte.toNat_lt
  have hshift : (byte.toUInt32 <<< 24).toNat = byte.toUInt32.toNat <<< 24 % 2 ^ 32 :=
    UInt32.toNat_shiftLeft _ _
  rw [hshift, UInt8.toNat_toUInt32, Nat.shiftLeft_eq]
  omega

theorem testBit_top (byte : UInt8) {k : Nat} (hk : k < 8) :
    (byte.toUInt32 <<< 24).toNat.testBit (31 - k) = byte.toNat.testBit (7 - k) := by
  rw [toNat_top, Nat.testBit_mul_two_pow, decide_eq_true (by omega), Bool.true_and,
    show 31 - k - 24 = 7 - k by omega]

/-- The byte at the top of a register. -/
theorem testBit_head (r : UInt32) {k : Nat} (hk : k < 8) :
    (r >>> 24).toUInt8.toNat.testBit (7 - k) = r.toNat.testBit (31 - k) := by
  have hshift : (r >>> 24).toNat = r.toNat >>> 24 := UInt32.toNat_shiftRight _ _
  rw [UInt32.toNat_toUInt8, Nat.testBit_mod_two_pow, hshift, Nat.testBit_shiftRight,
    decide_eq_true (by omega), Bool.true_and, show 24 + (7 - k) = 31 - k by omega]

/-- One look into the table is eight steps of the division. -/
theorem absorb_eq (r : UInt32) (byte : UInt8) : absorb r byte = (bits byte).foldl absorbBit r := by
  -- the register is the sum of the byte that is looked up and a rest that the data cancels
  let top : UInt8 := (r >>> 24).toUInt8 ^^^ byte
  let t : UInt32 := top.toUInt32 <<< 24
  have hsplit : r = t ^^^ (t ^^^ r) := by
    rw [← UInt32.xor_assoc, UInt32.xor_self, UInt32.zero_xor]
  have hbits : bits byte = List.zipWith xor (List.replicate 8 false) (bits byte) := by
    simp [bits]
  have hrest : (bits byte).foldl absorbBit (t ^^^ r) = r <<< 8 := by
    have hout : t <<< 8 = 0 := by
      have hshift : (t <<< 8).toNat = t.toNat <<< 8 % 2 ^ 32 := UInt32.toNat_shiftLeft _ _
      apply UInt32.toNat_inj.mp
      rw [hshift, toNat_top, Nat.shiftLeft_eq, Nat.mul_assoc]
      exact Nat.mul_mod_left _ _
    rw [foldl_absorbBit_bits, UInt32.shiftLeft_xor, hout, UInt32.zero_xor]
    intro k hk
    rw [UInt32.toNat_xor, Nat.testBit_xor, testBit_top top hk, UInt8.toNat_xor, Nat.testBit_xor,
      testBit_head r hk]
    cases r.toNat.testBit (31 - k) <;> simp
  unfold absorb
  rw [lookup_eq, row_eq]
  conv => rhs; rw [hbits, hsplit]
  rw [foldl_absorbBit_xor (by simp), hrest, UInt32.xor_comm]

end Checksum

/-- The checksum is the division done bit by bit. -/
theorem checksum_eq_serial (start : UInt32) (data : Bytes) :
    checksum start data = Checksum.serial start data := by
  have habsorb : Checksum.absorb = fun r byte => (Checksum.bits byte).foldl Checksum.absorbBit r :=
    funext fun r => funext (Checksum.absorb_eq r)
  unfold checksum Checksum.serial
  rw [habsorb, List.foldl_flatMap]

end SlimInterface
