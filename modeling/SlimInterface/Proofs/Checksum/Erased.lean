import Mathlib.Algebra.Group.Nat.Defs
import SlimInterface.Proofs.Checksum.Serial
import SlimInterface.Storage.Device

/-!
# Erased bytes behind a text

A text that is read on into the erased memory behind it gets another checksum, as a rule. The
exceptions are the registers that a single erased byte leaves as they are: they do not change
however many follow. `checksum_erased_eq_iff` says that there are no others for a number of
erased bytes that is a power of two, which is what a flipped bit adds to a length.

By linearity this is a matter of zero bytes. One of them changes a register by its `gap`, any
number of them by the gap of some register (`exists_gap`), and a gap never has the gap zero unless
it is zero itself (`gap_eq_zero`). From there on the number of bytes is halved.
-/

namespace SlimInterface

namespace Checksum

/-! ## Linear maps of registers -/

/-- A map of registers that respects sums. -/
def Linear (f : UInt32 → UInt32) : Prop := ∀ r s, f (r ^^^ s) = f r ^^^ f s

variable {f g : UInt32 → UInt32}

theorem xor_eq_zero_iff {r s : UInt32} : r ^^^ s = 0 ↔ r = s := by
  constructor
  · intro h
    have hs : r ^^^ s ^^^ s = 0 ^^^ s := by rw [h]
    rwa [UInt32.xor_assoc, UInt32.xor_self, UInt32.xor_zero, UInt32.zero_xor] at hs
  · intro h
    rw [h, UInt32.xor_self]

theorem Linear.zero (hf : Linear f) : f 0 = 0 := by
  have h := hf 0 0
  rwa [UInt32.xor_self, UInt32.xor_self] at h

theorem Linear.comp (hf : Linear f) (hg : Linear g) : Linear fun r => f (g r) := by
  intro r s
  show f (g (r ^^^ s)) = f (g r) ^^^ f (g s)
  rw [hg, hf]

theorem Linear.add (hf : Linear f) (hg : Linear g) : Linear fun r => f r ^^^ g r := by
  intro r s
  show f (r ^^^ s) ^^^ g (r ^^^ s) = f r ^^^ g r ^^^ (f s ^^^ g s)
  rw [hf, hg]
  ac_rfl

/-- Without its leading bit a register is below the power of two of that bit. -/
theorem toNat_xor_two_pow_lt {r : UInt32} {n : Nat} (hn : n < 32) (hr : r.toNat < 2 ^ (n + 1))
    (hbit : r.toNat.testBit n = true) : (r ^^^ UInt32.ofNat (2 ^ n)).toNat < 2 ^ n := by
  have hpow : (UInt32.ofNat (2 ^ n)).toNat = 2 ^ n :=
    UInt32.toNat_ofNat_of_lt' (Nat.pow_lt_pow_right (by decide) hn)
  rw [UInt32.toNat_xor, hpow]
  apply Nat.lt_pow_two_of_testBit
  intro i hi
  rw [Nat.testBit_xor]
  rcases Nat.lt_or_eq_of_le hi with hlt | rfl
  · rw [Nat.testBit_lt_two_pow (Nat.lt_of_lt_of_le hr (Nat.pow_le_pow_right (by decide) hlt)),
      Nat.testBit_two_pow_of_ne (by omega)]
    rfl
  · rw [hbit, Nat.testBit_two_pow_self]
    rfl

/-- Linear maps that agree on the registers with a single bit agree on all of them. -/
theorem Linear.ext (hf : Linear f) (hg : Linear g)
    (h : ∀ i, i < 32 → f (UInt32.ofNat (2 ^ i)) = g (UInt32.ofNat (2 ^ i))) (r : UInt32) :
    f r = g r := by
  have hbelow : ∀ n, n ≤ 32 → ∀ r : UInt32, r.toNat < 2 ^ n → f r = g r := by
    intro n
    induction n with
    | zero =>
      intro _ r hr
      obtain rfl : r = 0 := UInt32.toNat_inj.mp (by show r.toNat = 0; omega)
      rw [hf.zero, hg.zero]
    | succ n ih =>
      intro hn r hr
      cases hbit : r.toNat.testBit n with
      | false =>
        refine ih (by omega) r (Nat.lt_pow_two_of_testBit _ fun i hi => ?_)
        rcases Nat.lt_or_eq_of_le hi with hlt | rfl
        · exact Nat.testBit_lt_two_pow
            (Nat.lt_of_lt_of_le hr (Nat.pow_le_pow_right (by decide) hlt))
        · exact hbit
      | true =>
        let unit := UInt32.ofNat (2 ^ n)
        have hsplit : r = (r ^^^ unit) ^^^ unit := by
          rw [UInt32.xor_assoc, UInt32.xor_self, UInt32.xor_zero]
        have hrest := ih (by omega) (r ^^^ unit) (toNat_xor_two_pow_lt (by omega) hr hbit)
        rw [hsplit, hf, hg, hrest, h n (by omega)]
  exact hbelow 32 (Nat.le_refl _) r r.toNat_lt

/-! ## Bytes into registers -/

theorem shift_linear : Linear shift := by
  intro r s
  rw [shift_eq_absorbBit, shift_eq_absorbBit, shift_eq_absorbBit, ← absorbBit_xor]
  rfl

theorem bits_xor (x y : UInt8) : bits (x ^^^ y) = List.zipWith xor (bits x) (bits y) := by
  simp only [bits, UInt8.toNat_xor, List.map_cons, List.map_nil, List.zipWith_cons_cons,
    List.zipWith_nil_left, Nat.testBit_xor]

theorem absorb_xor (r s : UInt32) (x y : UInt8) :
    absorb (r ^^^ s) (x ^^^ y) = absorb r x ^^^ absorb s y := by
  rw [absorb_eq, absorb_eq, absorb_eq, bits_xor,
    foldl_absorbBit_xor (by rw [length_bits, length_bits])]

/-- What a zero byte makes of a register. -/
def pass (r : UInt32) : UInt32 := absorb r 0

/-- What a zero byte adds to a register. -/
def gap (r : UInt32) : UInt32 := pass r ^^^ r

theorem pass_linear : Linear pass := fun r s => absorb_xor r s 0 0

theorem gap_linear : Linear gap := pass_linear.add fun _ _ => rfl

theorem gap_pass (r : UInt32) : gap (pass r) = pass (gap r) := (pass_linear (pass r) r).symm

theorem pass_eq_iff {r : UInt32} : pass r = r ↔ gap r = 0 := xor_eq_zero_iff.symm

/-! ## Gaps of gaps -/

/-- The product of a register and a polynomial, given by its coefficients, the leading one
first. -/
def times (u : List Bool) (r : UInt32) : UInt32 :=
  u.foldl (fun sum b => if b then shift sum ^^^ r else shift sum) 0

theorem times_linear (u : List Bool) : Linear (times u) := by
  intro r s
  have hfrom : ∀ a b : UInt32,
      u.foldl (fun sum c => if c then shift sum ^^^ (r ^^^ s) else shift sum) (a ^^^ b) =
        u.foldl (fun sum c => if c then shift sum ^^^ r else shift sum) a ^^^
          u.foldl (fun sum c => if c then shift sum ^^^ s else shift sum) b := by
    induction u with
    | nil => intro a b; rfl
    | cons c u ih =>
      intro a b
      rw [List.foldl_cons, List.foldl_cons, List.foldl_cons, ← ih]
      cases c with
      | false => rw [shift_linear a b]; rfl
      | true =>
        congr 1
        show shift (a ^^^ b) ^^^ (r ^^^ s) = shift a ^^^ r ^^^ (shift b ^^^ s)
        rw [shift_linear a b]
        ac_rfl
  exact hfrom 0 0

/-- The polynomial `x + 1` is twice in the one of the checksum and eight times in a gap. What else
there is in the polynomial of the checksum has no part in gaps, so that there they can be undone:
this is the inverse of a gap, up to that factor. -/
def ungap : List Bool :=
  [true, false, false, false, true, false, true, true, false, true, true, true, false, false,
    true, false, false, true, false, false, true, false, false, false, true, false, true, true]

theorem times_ungap (r : UInt32) : times ungap (gap (gap r)) = gap r := by
  refine ((times_linear ungap).comp (gap_linear.comp gap_linear)).ext gap_linear ?_ r
  simp only [gap, pass, absorb_eq]
  decide +kernel

theorem gap_eq_zero {r : UInt32} (h : gap (gap r) = 0) : gap r = 0 := by
  rw [← times_ungap r, h]
  exact (times_linear ungap).zero

/-! ## Many zero bytes -/

/-- What `n` zero bytes make of a register. -/
def passes (n : Nat) (r : UInt32) : UInt32 := checksum r (List.replicate n 0)

theorem passes_succ (n : Nat) (r : UInt32) : passes (n + 1) r = pass (passes n r) := by
  unfold passes
  rw [List.replicate_succ', checksum_append]
  rfl

theorem passes_add (m n : Nat) (r : UInt32) : passes (m + n) r = passes n (passes m r) := by
  unfold passes
  rw [← List.replicate_append_replicate, checksum_append]

theorem passes_linear (n : Nat) : Linear (passes n) := by
  induction n with
  | zero => exact fun _ _ => rfl
  | succ n ih =>
    intro r s
    rw [passes_succ, passes_succ, passes_succ, ih, pass_linear]

/-- Zero bytes change a register by a gap. -/
theorem exists_gap (n : Nat) (r : UInt32) : ∃ s, passes n r ^^^ r = gap s := by
  induction n with
  | zero => exact ⟨0, by rw [gap_linear.zero]; exact UInt32.xor_self⟩
  | succ n ih =>
    obtain ⟨s, hs⟩ := ih
    refine ⟨pass s ^^^ r, ?_⟩
    have hnext : pass (passes n r) = pass (gap s) ^^^ pass r := by
      rw [← hs, pass_linear, UInt32.xor_assoc, UInt32.xor_self, UInt32.xor_zero]
    rw [passes_succ, hnext, gap_linear, gap_pass, UInt32.xor_assoc]
    rfl

/-- A register that comes back after a number of zero bytes that is a power of two is not changed
by a single one. -/
theorem pass_eq_of_passes {k : Nat} {r : UInt32} (h : passes (2 ^ k) r = r) : pass r = r := by
  induction k generalizing r with
  | zero => exact h
  | succ k ih =>
    -- the first half of the bytes adds a gap, and the second half must not change what it added
    obtain ⟨s, hs⟩ := exists_gap (2 ^ k) r
    have htwice : passes (2 ^ k) (passes (2 ^ k) r) = r := by
      rw [← passes_add, ← Nat.two_mul, ← Nat.pow_succ', h]
    have hadded : passes (2 ^ k) (gap s) = gap s := by
      rw [← hs, passes_linear, htwice, UInt32.xor_comm]
    have hzero : gap s = 0 := gap_eq_zero (pass_eq_iff.mp (ih hadded))
    rw [hzero, xor_eq_zero_iff] at hs
    exact ih hs

theorem passes_eq_of_pass {r : UInt32} (h : pass r = r) (n : Nat) : passes n r = r := by
  induction n with
  | zero => rfl
  | succ n ih => rw [passes_succ, ih, h]

/-! ## Erased bytes -/

/-- A register that an erased byte does not change. -/
def still : UInt32 := 0x1459203B

theorem absorb_still : absorb still Bytes.erased = still := by
  rw [absorb_eq]
  decide +kernel

/-- As seen from there, an erased byte is a zero byte. -/
theorem checksum_erased (n : Nat) (r : UInt32) :
    checksum r (List.replicate n Bytes.erased) = passes n (r ^^^ still) ^^^ still := by
  induction n with
  | zero =>
    show r = r ^^^ still ^^^ still
    rw [UInt32.xor_assoc, UInt32.xor_self, UInt32.xor_zero]
  | succ n ih =>
    rw [List.replicate_succ', checksum_append, ih, passes_succ]
    show absorb (passes n (r ^^^ still) ^^^ still) (0 ^^^ Bytes.erased) = _
    rw [absorb_xor, absorb_still]
    rfl

theorem checksum_erased_eq_self (n : Nat) (r : UInt32) :
    checksum r (List.replicate n Bytes.erased) = r ↔ passes n (r ^^^ still) = r ^^^ still := by
  rw [checksum_erased, ← xor_eq_zero_iff (s := r), ← xor_eq_zero_iff (s := r ^^^ still),
    UInt32.xor_assoc, UInt32.xor_comm still]

/-- A number of erased bytes that is a power of two leaves a register as it is if and only if a
single one does. -/
theorem checksum_erased_eq_iff (k : Nat) (r : UInt32) :
    checksum r (List.replicate (2 ^ k) Bytes.erased) = r ↔ checksum r [Bytes.erased] = r := by
  rw [checksum_erased_eq_self, show [Bytes.erased] = List.replicate 1 Bytes.erased from rfl,
    checksum_erased_eq_self]
  exact ⟨fun h => pass_eq_of_passes h, fun h => passes_eq_of_pass h _⟩

end Checksum

end SlimInterface
