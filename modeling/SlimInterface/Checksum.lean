import SlimInterface.Wire.Bytes

/-!
# The checksum of stored parameter sets

A 32-bit cyclic redundancy check: polynomial `0xF4ACFB13`, most significant bit
first, no reflection, and nothing is added at the end. The start value is given
by the caller, so a long text can be checked piece by piece.

`checksum` takes eight bits at a time through a table. `Checksum.serial` is the
same division one bit at a time, as it is defined: the register is shifted left,
and the polynomial is subtracted whenever the bit shifted out differs from the
bit of the data.
-/

namespace SlimInterface

namespace Checksum

/-- The polynomial without its leading term. -/
def polynomial : UInt32 := 0xF4ACFB13

/-- One shift of the register. -/
def shift (register : UInt32) : UInt32 :=
  if register &&& 0x80000000 = 0 then register <<< 1 else (register <<< 1) ^^^ polynomial

/-- Eight shifts of a byte that stands at the top of the register. -/
def row (byte : UInt8) : UInt32 :=
  Nat.repeat shift 8 (byte.toUInt32 <<< 24)

/-- The rows of all bytes. -/
def table : Vector UInt32 256 := Vector.ofFn fun i => row (UInt8.ofNat i.val)

/-- The row of a byte, looked up. -/
def lookup (byte : UInt8) : UInt32 :=
  have h : byte.toNat < 256 := byte.toNat_lt
  table[byte.toNat]

/-- Take one byte into the register. -/
def absorb (register : UInt32) (byte : UInt8) : UInt32 :=
  (register <<< 8) ^^^ lookup ((register >>> 24).toUInt8 ^^^ byte)

/-! ## One bit at a time -/

/-- Take one bit of the data into the register. -/
def absorbBit (register : UInt32) (bit : Bool) : UInt32 :=
  if (register &&& 0x80000000 != 0) != bit then (register <<< 1) ^^^ polynomial
  else register <<< 1

/-- The bits of a byte, most significant first. -/
def bits (byte : UInt8) : List Bool :=
  [7, 6, 5, 4, 3, 2, 1, 0].map byte.toNat.testBit

/-- The checksum as division bit by bit. -/
def serial (start : UInt32) (data : Bytes) : UInt32 :=
  (data.flatMap bits).foldl absorbBit start

end Checksum

/-- The checksum of `data`, continued from `start`. -/
def checksum (start : UInt32) (data : Bytes) : UInt32 :=
  data.foldl Checksum.absorb start

theorem checksum_append (start : UInt32) (a b : Bytes) :
    checksum start (a ++ b) = checksum (checksum start a) b :=
  List.foldl_append

end SlimInterface
