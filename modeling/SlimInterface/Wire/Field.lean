import SlimInterface.Operation
import SlimInterface.Wire.Bytes

/-!
# Fields of a shared buffer

Every field of a shared buffer is a byte, a word or a double word at a fixed
offset, little-endian. Reading and writing are bounded by the buffer: an access
that reaches past the end fails with `Fault.outOfBounds` and changes nothing.
-/

namespace SlimInterface

namespace Bytes

/-- The byte at `off`. -/
def byteAt (b : Bytes) (off : Nat) : Except Fault UInt8 :=
  match b[off]? with
  | some v => .ok v
  | none => .error .outOfBounds

/-- The word at `off`. -/
def wordAt (b : Bytes) (off : Nat) : Except Fault UInt16 :=
  match b.slice? off 2 with
  | some field => .ok (UInt16.ofNat (value field))
  | none => .error .outOfBounds

/-- The double word at `off`. -/
def dwordAt (b : Bytes) (off : Nat) : Except Fault UInt32 :=
  match b.slice? off 4 with
  | some field => .ok (UInt32.ofNat (value field))
  | none => .error .outOfBounds

end Bytes

namespace Field

/-- Write `d` at `off`, whole or not at all. -/
def put (off : Nat) (d : Bytes) : Op Bytes Unit := fun b =>
  match b.put? off d with
  | some b' => ⟨.ok (), b', []⟩
  | none => ⟨.error .outOfBounds, b, []⟩

/-- Write a byte. -/
def putByte (off : Nat) (v : UInt8) : Op Bytes Unit := put off [v]

/-- Write a word. -/
def putWord (off : Nat) (v : UInt16) : Op Bytes Unit := put off (Bytes.littleEndian 2 v.toNat)

/-- Write a double word. -/
def putDword (off : Nat) (v : UInt32) : Op Bytes Unit := put off (Bytes.littleEndian 4 v.toNat)

theorem put_of_le {off : Nat} {d b : Bytes} (h : off + d.length ≤ b.length) :
    put off d b = ⟨.ok (), b.overwrite off d, []⟩ := by
  unfold put Bytes.put?
  rw [if_pos h]

theorem put_of_lt {off : Nat} {d b : Bytes} (h : b.length < off + d.length) :
    put off d b = ⟨.error .outOfBounds, b, []⟩ := by
  unfold put Bytes.put?
  rw [if_neg (by omega)]

end Field

end SlimInterface
