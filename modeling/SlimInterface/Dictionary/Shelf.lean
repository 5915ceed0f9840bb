import SlimInterface.Dictionary.TripleBuffer

/-!
# Shelves of triple buffers

Several triple buffers over several acknowledge registers. A buffer keeps its
position on the shelf and the position of its register; its place stays empty once
it is destroyed. Registers outlive the buffers that use them.
-/

namespace SlimInterface

/-- Triple buffers and the registers they share. -/
structure Shelf where
  registers : List AckRegister
  /-- The register's position and the buffer; none where a buffer was destroyed. -/
  buffers : List (Option (Nat × TripleBuffer))
  deriving DecidableEq, Repr

namespace Shelf

/-- Registers without a pending acknowledge, and no buffer. -/
def empty (registers : Nat) : Shelf := ⟨List.replicate registers .empty, []⟩

/-- The register at a position. -/
def register (s : Shelf) (r : Nat) : AckRegister := s.registers[r]?.getD .empty

/-- The buffer at a position, with the position of its register. -/
def buffer? (s : Shelf) (i : Nat) : Option (Nat × TripleBuffer) := s.buffers[i]?.join

/-- Put a new buffer at the end. -/
def create (r : Nat) (id : BufferId) (size : Nat) : Op Shelf Unit := do
  let b ← TripleBuffer.create id size
  Op.update fun s => { s with buffers := s.buffers ++ [some (r, b)] }

/-- Write a number at an offset of the buffer at a position, if there is an outcome; without a
buffer nothing happens. -/
def write? (i off : Nat) (v : TripleBuffer.Value) (s : Shelf) : Option (Outcome Shelf Unit) :=
  match s.buffer? i with
  | none => some ⟨.ok (), s, []⟩
  | some (r, b) => (v.put? off b).map fun o =>
    ⟨o.result, { s with buffers := s.buffers.set i (some (r, o.state)) }, o.lines⟩

/-- Raise the acknowledge bit of the buffer at a position. -/
def raise (i : Nat) : Op Shelf Unit := do
  let s ← Op.read
  match s.buffer? i with
  | none => pure ()
  | some (r, b) =>
    b.setAck.within (·.register r) fun bits s => { s with registers := s.registers.set r bits }

/-- Clear the acknowledge bit of an id in a register. -/
def clear (r : Nat) (id : BufferId) (s : Shelf) : Shelf :=
  { s with registers := s.registers.modify r (·.clear id) }

/-- Destroy the buffer at a position. -/
def destroy (i : Nat) : Op Shelf Unit := do
  let s ← Op.read
  match s.buffer? i with
  | none => pure ()
  | some (_, b) =>
    b.destroy
    Op.update fun s => { s with buffers := s.buffers.set i none }

end Shelf

end SlimInterface
