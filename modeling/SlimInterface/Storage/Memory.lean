import SlimInterface.Storage.Device

/-!
# Devices held in memory

A device that is nothing but its bytes. It keeps no state beyond them: it is always
open, and what it holds is gone with it. It is what the parameter store is tried on,
and the plainest device whose reads give back what was written.
-/

namespace SlimInterface

/-- A device of as many bytes as it holds. -/
structure MemoryStore where
  bytes : Bytes
  deriving DecidableEq, Repr

namespace MemoryStore

/-- A device of a size that starts with the given contents. -/
def create (size : Nat) (contents : Bytes) : MemoryStore := ⟨contents.resize size Bytes.erased⟩

/-- Write bytes. A write that does not fit changes nothing. -/
def write (offset : Nat) (data : Bytes) : Op MemoryStore Unit := do
  let s ← Op.read
  match s.bytes.put? offset data with
  | some bytes => Op.write ⟨bytes⟩
  | none => Op.fail (.storageError "write out of range")

/-- The double word at an offset. -/
def dwordAt (offset : Nat) (s : MemoryStore) : Except Fault UInt32 :=
  match s.bytes.slice? offset 4 with
  | some field => .ok (UInt32.ofNat field.value)
  | none => .error (.storageError "read out of range")

/-- Erase every byte. There is a single sector, so the offset does not matter. -/
def erase (_offset : Nat) : Op MemoryStore Unit :=
  Op.update fun s => ⟨List.replicate s.bytes.length Bytes.erased⟩

/-- All bytes from an offset on. -/
def bytesFrom (offset : Nat) (s : MemoryStore) : Except Fault Bytes :=
  if offset ≤ s.bytes.length then .ok (s.bytes.drop offset)
  else .error (.storageError "address out of range")

instance : NonVolatile MemoryStore where
  mount := pure ()
  unmount := pure ()
  write := write
  dwordAt := dwordAt
  erase := erase
  bytesFrom := bytesFrom

end MemoryStore

end SlimInterface
