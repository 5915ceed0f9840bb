/-!
# Byte sequences

Shared memory is a sequence of bytes. This module holds what is done to it: taking
a slice out, writing bytes over a place without changing the length, bringing it to
a length, and the little-endian form of numbers.

* `length_resize`: a length that was asked for is what results.
* `length_overwrite`: writing never changes the length.
* `slice?_overwrite`: what was written is what is read back.
* `littleEndian_value`: the little-endian form of the number whose bytes are given is
  these bytes.
-/

namespace SlimInterface

/-- Bytes in the order they lie in memory. -/
abbrev Bytes := List UInt8

namespace Bytes

/-! ## Slices -/

/-- The `len` bytes from `off` on, if all of them exist. -/
def slice? (b : Bytes) (off len : Nat) : Option Bytes :=
  if off + len ≤ b.length then some ((b.drop off).take len) else none

/-- `d` written over `b` from `off` on. The length stays; what would reach past the end
of `b` is not written. -/
def overwrite (b : Bytes) (off : Nat) (d : Bytes) : Bytes :=
  b.take off ++ d.take (b.length - off) ++ b.drop (off + d.length)

/-- `d` written over `b` from `off` on, if it fits. -/
def put? (b : Bytes) (off : Nat) (d : Bytes) : Option Bytes :=
  if off + d.length ≤ b.length then some (b.overwrite off d) else none

/-- The first `size` bytes, filled up with `fill` when there are fewer. -/
def resize (b : Bytes) (size : Nat) (fill : UInt8) : Bytes :=
  b.take size ++ List.replicate (size - b.length) fill

@[simp] theorem length_resize (b : Bytes) (size : Nat) (fill : UInt8) :
    (b.resize size fill).length = size := by
  simp only [resize, List.length_append, List.length_take, List.length_replicate]
  omega

@[simp] theorem length_overwrite (b : Bytes) (off : Nat) (d : Bytes) :
    (b.overwrite off d).length = b.length := by
  simp only [overwrite, List.length_append, List.length_take, List.length_drop]
  omega

theorem slice?_overwrite {b : Bytes} {off : Nat} {d : Bytes} (h : off + d.length ≤ b.length) :
    (b.overwrite off d).slice? off d.length = some d := by
  have hd : d.take (b.length - off) = d := List.take_of_length_le (by omega)
  have ho : (b.take off).length = off := by rw [List.length_take]; omega
  have hl := length_overwrite b off d
  unfold slice?
  rw [if_pos (by omega)]
  unfold overwrite
  rw [hd, List.append_assoc, List.drop_append_of_le_length (by omega),
    List.drop_of_length_le (by omega), List.nil_append, List.take_append_of_le_length (by omega),
    List.take_of_length_le (by omega)]

/-! ## Numbers -/

/-- The `width` lowest bytes of `n`, least significant first. -/
def littleEndian : Nat → Nat → Bytes
  | 0, _ => []
  | width + 1, n => UInt8.ofNat (n % 256) :: littleEndian width (n / 256)

/-- The number whose bytes, least significant first, are `b`. -/
def value : Bytes → Nat
  | [] => 0
  | b :: rest => b.toNat + 256 * value rest

@[simp] theorem length_littleEndian (width n : Nat) : (littleEndian width n).length = width := by
  induction width generalizing n with
  | zero => rfl
  | succ width ih => simp only [littleEndian, List.length_cons, ih]

theorem littleEndian_value (b : Bytes) : littleEndian b.length (value b) = b := by
  induction b with
  | nil => rfl
  | cons x rest ih =>
    have hx := x.toNat_lt
    rw [List.length_cons, littleEndian, value]
    congr 1
    · rw [Nat.add_mul_mod_self_left, Nat.mod_eq_of_lt hx, UInt8.ofNat_toNat]
    · rw [Nat.add_mul_div_left _ _ (by omega), Nat.div_eq_of_lt hx, Nat.zero_add, ih]

end Bytes

end SlimInterface
