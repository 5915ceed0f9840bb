import SlimInterface.Operation
import SlimInterface.Wire.Bytes

/-!
# Non-volatile devices

The parameter store works on any device that can be opened and closed, written,
erased and read. Offsets count from the start of the image area. What a device
that refuses an operation has done before it refused is part of its state.
-/

namespace SlimInterface

/-- The value of an erased byte. -/
def Bytes.erased : UInt8 := 0xFF

/-- A non-volatile memory of type `δ`. -/
class NonVolatile (δ : Type) where
  /-- Open the device. -/
  mount : Op δ Unit
  /-- Close the device. -/
  unmount : Op δ Unit
  /-- Write bytes at an offset. -/
  write : Nat → Bytes → Op δ Unit
  /-- The double word at an offset. -/
  dwordAt : Nat → δ → Except Fault UInt32
  /-- Erase the sector that contains an offset. -/
  erase : Nat → Op δ Unit
  /-- All bytes from an offset to the end of the image area. -/
  bytesFrom : Nat → δ → Except Fault Bytes

end SlimInterface
