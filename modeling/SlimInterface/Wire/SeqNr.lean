import SlimInterface.Fault

/-!
# Sequence numbers

A sequence number has two values. A channel is busy while its own value and the
one the other side shows disagree, and free once they match. On the wire a
sequence number is the byte 0 or 1; in a status register it is one bit.
-/

namespace SlimInterface

/-- The two-valued token that tells whether the other side took the last post. -/
inductive SeqNr
  | first
  | second
  deriving DecidableEq, Repr

namespace SeqNr

/-- The value of a register nobody has written. -/
instance : Inhabited SeqNr := ⟨first⟩

/-- The other value. -/
def flip : SeqNr → SeqNr
  | first => second
  | second => first

/-- The byte a sequence number is on the wire. -/
def toByte : SeqNr → UInt8
  | first => 0
  | second => 1

/-- The sequence number of a wire byte; other bytes are refused. -/
def ofByte (b : UInt8) : Except Fault SeqNr :=
  if b = 0 then .ok first
  else if b = 1 then .ok second
  else .error (.invalidSeqNr b)

/-- A cleared bit is the first value, a set bit the second. -/
def ofBit (bit : Bool) : SeqNr :=
  if bit then second else first

/-- The sequence number at a bit of a 32-bit register; there is none past the register. -/
def fromRegister (register : UInt32) (position : Nat) : Option SeqNr :=
  if position < 32 then some (ofBit (register.toNat.testBit position)) else none

/-- The word a sequence number is shown with. -/
def name : SeqNr → String
  | first => "First"
  | second => "Second"

@[simp] theorem flip_flip (s : SeqNr) : s.flip.flip = s := by
  cases s <;> rfl

theorem flip_ne (s : SeqNr) : s.flip ≠ s := by
  cases s <;> simp [flip]

theorem ofByte_toByte (s : SeqNr) : ofByte s.toByte = .ok s := by
  cases s <;> rfl

theorem toByte_of_ofByte {b : UInt8} {s : SeqNr} (h : ofByte b = .ok s) : s.toByte = b := by
  unfold ofByte at h
  split at h
  · cases h
    exact Eq.symm ‹_›
  · split at h
    · cases h
      exact Eq.symm ‹_›
    · cases h

end SeqNr

end SlimInterface
