import SlimInterface.Proofs.Operation
import SlimInterface.Proofs.Wire
import SlimInterface.Storage.FileStore
import SlimInterface.Storage.Memory
import SlimInterface.Storage.ParameterStore

/-!
# Devices that keep what is written

`LawfulDevice` says what the parameter store relies on: an open device is a sequence of
bytes of a fixed length, a write replaces the bytes it covers, and erasing leaves no header.
What erasing does beyond the header depends on the sectors of the device, so nothing is said
about it. Both devices there are keep to this.
-/

namespace SlimInterface

/-- The header is erased. -/
def Bytes.Blank (b : Bytes) : Prop :=
  b.take imageLayout.dataOffset = List.replicate imageLayout.dataOffset erased

/-- A device that gives back what was written while it is open. -/
class LawfulDevice (δ : Type) [NonVolatile δ] where
  /-- The bytes it holds. -/
  contents : δ → Bytes
  /-- It is open. -/
  Ready : δ → Prop
  ready_of_mount {d d' : δ} (h : NonVolatile.mount.eval d = (.ok (), d')) : Ready d'
  dwordAt_eq {d : δ} {off : Nat} (h : off + 4 ≤ (contents d).length) :
    NonVolatile.dwordAt off d = .ok ((contents d).dword off)
  bytesFrom_eq {d : δ} {off : Nat} (h : off ≤ (contents d).length) :
    NonVolatile.bytesFrom off d = .ok ((contents d).drop off)
  eval_write {d : δ} {off : Nat} {data : Bytes} (h : Ready d)
    (hfit : off + data.length ≤ (contents d).length) :
    ∃ d', (NonVolatile.write off data).eval d = (.ok (), d') ∧ Ready d' ∧
      contents d' = (contents d).overwrite off data
  eval_erase {d : δ} (h : Ready d) (hfit : imageLayout.dataOffset ≤ (contents d).length) :
    ∃ d', (NonVolatile.erase 0).eval d = (.ok (), d') ∧ Ready d' ∧
      (contents d').length = (contents d).length ∧ (contents d').Blank

namespace Bytes

variable {b : Bytes}

theorem blank_replicate {n : Nat} (h : imageLayout.dataOffset ≤ n) :
    Blank (List.replicate n erased) := by
  unfold Blank
  rw [List.take_replicate, Nat.min_eq_left h]

/-- Every word of an erased header is all ones. -/
theorem Blank.dword {off : Nat} (h : b.Blank) (hoff : off + 4 ≤ imageLayout.dataOffset) :
    b.dword off = 0xFFFFFFFF := by
  have hread : (b.drop off).take 4 = List.replicate 4 erased := by
    rw [List.take_drop, ← Nat.min_eq_left hoff, ← List.take_take, h, List.take_replicate,
      List.drop_replicate]
    congr 1
    omega
  unfold Bytes.dword
  rw [hread]
  rfl

end Bytes

instance : LawfulDevice MemoryStore where
  contents d := d.bytes
  Ready _ := True
  ready_of_mount _ := trivial
  dwordAt_eq {d off} h := by
    show MemoryStore.dwordAt off d = _
    unfold MemoryStore.dwordAt Bytes.slice?
    rw [if_pos h]
    rfl
  bytesFrom_eq {d off} h := if_pos h
  eval_write {d off data} _ hfit := by
    refine ⟨⟨d.bytes.overwrite off data⟩, ?_, trivial, rfl⟩
    show (MemoryStore.write off data).eval d = _
    unfold MemoryStore.write
    rw [Op.eval_bind_ok (Op.eval_read _), Bytes.put?, if_pos hfit]
    rfl
  eval_erase {d} _ hfit :=
    ⟨_, rfl, trivial, List.length_replicate, Bytes.blank_replicate hfit⟩

namespace FileStore

@[simp] theorem memory_writeThrough (off : Nat) (data : Bytes) (s : FileStore) :
    (s.writeThrough off data).memory = s.memory := by
  unfold writeThrough
  split <;> rfl

@[simp] theorem handle_writeThrough (off : Nat) (data : Bytes) (s : FileStore) :
    (s.writeThrough off data).handle = s.handle := by
  unfold writeThrough
  split <;> rfl

/-- A file that could be opened is open. -/
theorem isOpen_of_mount {d d' : FileStore} (h : mount.eval d = (.ok (), d')) :
    d'.isOpen = true := by
  unfold mount at h
  rw [Op.eval_bind_ok (Op.eval_read _)] at h
  cases ho : d.file.obstacle? with
  | some reason =>
    rw [ho] at h
    dsimp only at h
    rw [Op.eval_bind_ok (Op.eval_log _ _), Op.eval_fail] at h
    cases h
  | none =>
    rw [ho] at h
    dsimp only at h
    rw [Op.eval_bind_ok (Op.eval_write _ _), Op.eval_log] at h
    cases h
    rfl

end FileStore

instance : LawfulDevice FileStore where
  contents d := d.memory
  Ready d := d.isOpen = true
  ready_of_mount := FileStore.isOpen_of_mount
  dwordAt_eq {d off} h := by
    show FileStore.dwordAt off d = _
    unfold FileStore.dwordAt Bytes.slice?
    rw [if_pos h]
    rfl
  bytesFrom_eq {d off} h := if_pos h
  eval_write {d off data} hr hfit := by
    refine ⟨FileStore.writeThrough off data { d with memory := d.memory.overwrite off data }, ?_,
      ?_, FileStore.memory_writeThrough _ _ _⟩
    · show (FileStore.write off data).eval d = _
      unfold FileStore.write
      rw [Op.eval_bind_ok (Op.eval_read _), if_pos hr, Bytes.put?, if_pos hfit]
      rfl
    · unfold FileStore.isOpen
      rw [FileStore.handle_writeThrough]
      exact hr
  eval_erase {d} hr hfit := by
    let memory := List.replicate d.memory.length Bytes.erased
    refine ⟨FileStore.writeThrough 0 memory { d with memory }, ?_, ?_, ?_, ?_⟩
    · show (FileStore.erase 0).eval d = _
      unfold FileStore.erase
      rw [Op.eval_bind_ok (Op.eval_read _), if_pos hr]
      rfl
    · unfold FileStore.isOpen
      rw [FileStore.handle_writeThrough]
      exact hr
    · rw [FileStore.memory_writeThrough]
      exact List.length_replicate
    · rw [FileStore.memory_writeThrough]
      exact Bytes.blank_replicate hfit

end SlimInterface
