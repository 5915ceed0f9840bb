import SlimInterface.Proofs.Checksum.Burst
import SlimInterface.Proofs.Span

/-!
# The residue

Data with its own checksum behind it, most significant byte first, has the checksum zero, and no
other four bytes behind it have that effect (`checksum_append_eq_zero_iff`).

The register feeds on itself: bit by bit the data that comes is the bit that is shifted out, so
nothing is ever subtracted and only zeros are left when all 32 bits are gone
(`checksum_self`). That no other four bytes do the same is the case of a burst: two different
runs of four bytes are one (`checksum_inj`).
-/

namespace SlimInterface

namespace Bytes

/-- The `width` lowest bytes of a number, most significant first. -/
def bigEndian (width n : Nat) : Bytes := (littleEndian width n).reverse

@[simp] theorem length_bigEndian (width n : Nat) : (bigEndian width n).length = width := by
  unfold bigEndian
  rw [List.length_reverse, length_littleEndian]

/-- The bits of a big-endian number come in their usual order. -/
theorem getElem?_bits_bigEndian {width n k : Nat} (hk : k < 8 * width) :
    (bits (bigEndian width n))[k]? = some (n.testBit (8 * width - 1 - k)) := by
  -- the byte is counted from the other end, and so is the bit in it
  have hbyte : (8 * width - 1 - k) / 8 = width - 1 - k / 8 := by omega
  have hbit : (8 * width - 1 - k) % 8 = 7 - k % 8 := by omega
  have hpow : 256 ^ width = 2 ^ (8 * width) := by rw [Nat.pow_mul]
  have hvalue := testBit_value (littleEndian width n) (8 * width - 1 - k)
  rw [value_littleEndian, hpow, Nat.testBit_mod_two_pow, decide_eq_true (by omega), Bool.true_and,
    hbyte, hbit] at hvalue
  have hin : width - 1 - k / 8 < (littleEndian width n).length := by
    rw [length_littleEndian]
    omega
  rw [getElem?_bits, bigEndian, List.getElem?_reverse (by rw [length_littleEndian]; omega),
    length_littleEndian, hvalue, List.getElem?_eq_getElem hin]
  rfl

example : bigEndian 4 0x12345678 = [0x12, 0x34, 0x56, 0x78] := by decide

end Bytes

/-- A register that takes in what it holds is empty afterwards. -/
theorem checksum_self (r : UInt32) : checksum r (Bytes.bigEndian 4 r.toNat) = 0 := by
  have hlen : (Bytes.bits (Bytes.bigEndian 4 r.toNat)).length = 32 := by
    rw [Bytes.length_bits, Bytes.length_bigEndian]
  have hgone := Checksum.foldl_absorbBit_leads (Nat.le_of_eq hlen) fun k hk =>
    Bytes.getElem?_bits_bigEndian (n := r.toNat) (Nat.lt_of_lt_of_eq hk hlen)
  rw [hlen, Nat.mul_mod_left] at hgone
  rw [checksum_eq_serial]
  exact UInt32.toNat_inj.mp hgone

/-- Runs of at most four bytes can be told by their checksum. -/
theorem checksum_inj {start : UInt32} {d d' : Bytes} (hlen : d'.length = d.length)
    (hd : d.length ≤ 4) (h : checksum start d' = checksum start d) : d' = d := by
  have hwithin : ∀ i, d'[i]? ≠ d[i]? → 0 ≤ i ∧ i < 0 + d.length := by
    intro i hi
    refine ⟨Nat.zero_le i, ?_⟩
    apply Decidable.byContradiction
    intro hout
    exact hi (by rw [List.getElem?_eq_none (by omega), List.getElem?_eq_none (by omega)])
  apply Decidable.byContradiction
  intro hne
  exact checksum_ne_of_burst (Bytes.burst_of_bytes hlen hne hd hwithin) start h

/-- Among all runs of four bytes behind the data, its checksum is the one that leaves zero. -/
theorem checksum_append_eq_zero_iff (start : UInt32) (data tail : Bytes) :
    tail.length = 4 ∧ checksum start (data ++ tail) = 0 ↔
      tail = Bytes.bigEndian 4 (checksum start data).toNat := by
  rw [checksum_append]
  constructor
  · rintro ⟨hlen, hzero⟩
    exact checksum_inj (hlen.trans (Bytes.length_bigEndian 4 _).symm)
      (Nat.le_of_eq (Bytes.length_bigEndian 4 _))
      (hzero.trans (checksum_self _).symm)
  · rintro rfl
    exact ⟨Bytes.length_bigEndian _ _, checksum_self _⟩

end SlimInterface
