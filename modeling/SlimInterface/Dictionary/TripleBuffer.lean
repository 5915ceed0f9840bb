import SlimInterface.Wire.BufferId
import SlimInterface.Wire.Field

/-!
# Triple buffers

A triple buffer is a region of shared memory of fixed size. Beside it stands an
acknowledge register that several buffers share: buffer `n` owns bit `n`. The
writer sets the bit when the buffer holds new data, the reader clears it.
-/

namespace SlimInterface

/-- The acknowledge bits of the buffers of one direction. -/
structure AckRegister where
  bits : UInt32
  deriving DecidableEq, Repr

namespace AckRegister

/-- No acknowledge pending. -/
def empty : AckRegister := ⟨0⟩

/-- The register bit of a buffer. -/
def mask (id : BufferId) : UInt32 := 1 <<< UInt32.ofNat id.index

/-- Whether the reader has not yet seen the latest data of a buffer. -/
def isPending (r : AckRegister) (id : BufferId) : Bool := r.bits &&& mask id != 0

/-- New data in a buffer. -/
def raise (r : AckRegister) (id : BufferId) : AckRegister := ⟨r.bits ||| mask id⟩

/-- The reader took the data of a buffer. -/
def clear (r : AckRegister) (id : BufferId) : AckRegister := ⟨r.bits &&& ~~~mask id⟩

end AckRegister

/-- A buffer and its id. -/
structure TripleBuffer where
  id : BufferId
  data : Bytes
  deriving DecidableEq, Repr

namespace TripleBuffer

variable {σ : Type}

/-- The number of buffers one register serves. -/
def idLimit : Nat := 32

/-- A zeroed buffer of `size` bytes. It needs at least one byte and a bit in the register. -/
def create (id : BufferId) (size : Nat) : Op σ TripleBuffer :=
  if size = 0 ∨ idLimit ≤ id.index then do
    Op.log (.tagged .error "Tbuf"
      ("Unable to create " ++ id.text ++ " with size " ++ toString size))
    Op.fail .invalidBuffer
  else pure ⟨id, List.replicate size 0⟩

/-- Write `d` at `off`. A write past the end changes nothing and says how large the buffer
would have to be. -/
def put (off : Nat) (d : Bytes) : Op TripleBuffer Unit := fun b =>
  match b.data.put? off d with
  | some data => ⟨.ok (), { b with data := data }, []⟩
  | none => ⟨.error (.bufferSizeMismatch (off + d.length) b.data.length), b, []⟩

/-- Write a byte. -/
def putByte (off : Nat) (v : UInt8) : Op TripleBuffer Unit := put off [v]

/-- Write a word. -/
def putWord (off : Nat) (v : UInt16) : Op TripleBuffer Unit :=
  put off (Bytes.littleEndian 2 v.toNat)

/-- Write a double word. -/
def putDword (off : Nat) (v : UInt32) : Op TripleBuffer Unit :=
  put off (Bytes.littleEndian 4 v.toNat)

/-- A number that can be written into a buffer. -/
inductive Value
  | byte (v : UInt8)
  | word (v : UInt16)
  | dword (v : UInt32)
  deriving DecidableEq, Repr

namespace Value

/-- How many bytes the number takes. -/
def width : Value → Nat
  | byte _ => 1
  | word _ => 2
  | dword _ => 4

/-- Write the number at `off`. -/
def put (off : Nat) : Value → Op TripleBuffer Unit
  | byte v => putByte off v
  | word v => putWord off v
  | dword v => putDword off v

/-- Write the number at any offset. Positions are words of 64 bits, and there is no outcome at all
if the end of the number is none. -/
def put? (off : Nat) (v : Value) (b : TripleBuffer) : Option (Outcome TripleBuffer Unit) :=
  if UInt64.size ≤ off + v.width then none else some ((v.put off).run b)

end Value

/-- Tell the reader that the buffer holds new data. -/
def setAck (b : TripleBuffer) : Op AckRegister Unit := do
  Op.update fun r => r.raise b.id
  Op.log (.tagged .debug "Tbuf" ("Ack set for " ++ b.id.text))

/-- Give the buffer up. Its acknowledge bit stays as it is. -/
def destroy (b : TripleBuffer) : Op σ Unit :=
  Op.log (.tagged .debug "Tbuf" ("Destroyed " ++ b.id.text))

end TripleBuffer

end SlimInterface
