import SlimInterface.Proofs.Storage.Device

/-!
# The file behind a device

A device kept in a file is held in memory as well. `FileStore.Mirrored` says that the two
agree: the file holds the bytes of the device, and behind them whatever else it held when it
was opened. Writing keeps it that way, whether it succeeds or not (`keeps_write`), and so does
erasing (`eval_erase`): opening the file again gives back the very same device
(`eval_mount_of_mirrored`).
-/

namespace SlimInterface

namespace Bytes

variable {b d rest : Bytes} {off size : Nat}

theorem overwrite_nil : b.overwrite off [] = b := by
  unfold overwrite
  rw [List.take_nil, List.append_nil, List.length_nil, Nat.add_zero, List.take_append_drop]

/-- A write that ends before `rest` begins does not reach it. -/
theorem overwrite_append (h : off + d.length ≤ b.length) :
    (b ++ rest).overwrite off d = b.overwrite off d ++ rest := by
  unfold overwrite
  rw [List.take_append_of_le_length (by omega), List.drop_append_of_le_length h,
    List.take_of_length_le (show d.length ≤ (b ++ rest).length - off by
      rw [List.length_append]
      omega),
    List.take_of_length_le (show d.length ≤ b.length - off by omega), List.append_assoc,
    List.append_assoc, List.append_assoc]

/-- Writing over all bytes leaves what was written. -/
theorem overwrite_whole (h : d.length = b.length) : b.overwrite 0 d = d := by
  unfold overwrite
  rw [List.take_zero, List.nil_append, Nat.zero_add, h, List.drop_length, List.append_nil,
    List.take_of_length_le (by omega)]

/-- Behind a write nothing changes. -/
theorem drop_overwrite {n : Nat} (h : off + d.length ≤ n) :
    (b.overwrite off d).drop n = b.drop n := by
  apply List.ext_getElem?
  intro i
  rw [List.getElem?_drop, List.getElem?_drop, getElem?_overwrite, if_neg (by omega)]

theorem resize_append (h : b.length = size) : (b ++ rest).resize size erased = b := by
  unfold resize
  rw [List.take_left' h, List.length_append, show size - (b.length + rest.length) = 0 by omega,
    List.replicate_zero, List.append_nil]

/-- Filling bytes up to a size changes none that were there. -/
theorem resize_append_drop (b : Bytes) (size : Nat) :
    b.resize size erased ++ b.drop size =
      if b.length < size then b.resize size erased else b := by
  by_cases h : b.length < size
  · rw [if_pos h, List.drop_of_length_le (Nat.le_of_lt h), List.append_nil]
  · unfold resize
    rw [if_neg h, show size - b.length = 0 by omega, List.replicate_zero, List.append_nil,
      List.take_append_drop]

end Bytes

/-- A write inside a file changes the bytes it covers. -/
theorem BackingFile.writeAt_eq {contents data : Bytes} {off : Nat}
    (h : off + data.length ≤ contents.length) :
    writeAt contents off data = contents.overwrite off data := by
  unfold writeAt
  cases data with
  | nil => exact Bytes.overwrite_nil.symm
  | cons x rest =>
    rw [show off - contents.length = 0 by omega, List.replicate_zero, List.append_nil]
    unfold Bytes.overwrite
    rw [List.take_of_length_le (show (x :: rest).length ≤ contents.length - off by omega)]
    rfl

/-- A write that ends before `rest` begins leaves it alone. -/
theorem BackingFile.writeAt_append {b data rest : Bytes} {off : Nat}
    (h : off + data.length ≤ b.length) :
    writeAt (b ++ rest) off data = b.overwrite off data ++ rest := by
  rw [writeAt_eq (by rw [List.length_append]; omega), Bytes.overwrite_append h]

namespace FileStore

/-- The device is open, and its file holds the bytes of the memory, whatever follows them. -/
structure Mirrored (d : FileStore) : Prop where
  place : d.file.place = .folder
  attached : d.handle = some .attached
  length_memory : d.memory.length = d.size
  contents : ∃ rest, d.file.contents = some (d.memory ++ rest)

variable {d : FileStore} {f : BackingFile} {size : Nat}

theorem Mirrored.isOpen (h : d.Mirrored) : d.isOpen = true := by
  unfold FileStore.isOpen
  rw [h.attached]
  rfl

/-! ## Writing -/

/-- What is written goes to memory and file alike. -/
theorem Mirrored.writeThrough {off : Nat} {data : Bytes} (h : d.Mirrored)
    (hfit : off + data.length ≤ d.memory.length) :
    (FileStore.writeThrough off data { d with memory := d.memory.overwrite off data }).Mirrored ∧
      (FileStore.writeThrough off data { d with memory := d.memory.overwrite off data }).size =
        d.size := by
  obtain ⟨rest, hrest⟩ := h.contents
  unfold FileStore.writeThrough
  rw [h.attached, hrest]
  dsimp only
  rw [BackingFile.writeAt_append hfit]
  exact ⟨⟨h.place, rfl, (Bytes.length_overwrite _ _ _).trans h.length_memory, rest, rfl⟩, rfl⟩

/-- An open device of a size that agrees with its file. -/
def Kept (size : Nat) (d : FileStore) : Prop := d.Mirrored ∧ d.size = size

theorem keeps_write (off : Nat) (data : Bytes) : (write off data).Keeps (Kept size) := by
  intro d h
  unfold write
  rw [Op.eval_bind_ok (Op.eval_read _), if_pos h.1.isOpen, Bytes.put?]
  by_cases hfit : off + data.length ≤ d.memory.length
  · rw [if_pos hfit, Op.eval_write]
    have hw := h.1.writeThrough hfit
    exact ⟨hw.1, hw.2.trans h.2⟩
  -- what does not fit is refused, and neither memory nor file was touched
  · rw [if_neg hfit, Op.eval_fail]
    exact h

/-- Erasing a device leaves nothing but erased bytes. -/
theorem eval_erase (h : d.Kept size) (off : Nat) :
    ∃ t, (erase off).eval d = (.ok (), t) ∧ t.Kept size ∧
      t.memory = List.replicate size Bytes.erased := by
  let erased := List.replicate d.memory.length Bytes.erased
  have hall : erased.length = d.memory.length := List.length_replicate
  obtain ⟨hm, hs⟩ : (writeThrough 0 erased
      { d with memory := d.memory.overwrite 0 erased }).Mirrored ∧ _ :=
    h.1.writeThrough (by omega)
  rw [Bytes.overwrite_whole hall] at hm hs
  refine ⟨writeThrough 0 erased { d with memory := erased }, ?_, ⟨hm, hs.trans h.2⟩, ?_⟩
  · unfold erase
    rw [Op.eval_bind_ok (Op.eval_read _), if_pos h.1.isOpen]
    rfl
  · rw [memory_writeThrough]
    show List.replicate d.memory.length Bytes.erased = _
    rw [h.1.length_memory, h.2]

/-! ## Opening -/

/-- Opening reads the device from the file and brings the file up to its size. -/
theorem eval_mount (size : Nat) (hf : f.place = .folder) :
    ∃ d, mount.eval (create f size) = (.ok (), d) ∧ d.Kept size := by
  have hopen : (create f size).file.obstacle? = none := by
    show f.obstacle? = none
    unfold BackingFile.obstacle?
    rw [hf]
  unfold mount
  rw [Op.eval_bind_ok (Op.eval_read _), hopen]
  dsimp only
  rw [Op.eval_bind_ok (Op.eval_write _ _), Op.eval_log]
  refine ⟨_, rfl, ⟨hf, rfl, Bytes.length_resize _ _ _, ?_⟩, rfl⟩
  exact ⟨(f.contents.getD []).drop size, congrArg some (Bytes.resize_append_drop _ size).symm⟩

/-- Whoever opens the file of a device finds the device. -/
theorem eval_mount_of_mirrored (h : d.Mirrored) :
    mount.eval (create d.file d.size) = (.ok (), d) := by
  obtain ⟨file, size, handle, memory⟩ := d
  obtain ⟨hplace, hattached, hlen, rest, hrest⟩ := h
  obtain ⟨path, place, contents⟩ := file
  dsimp only at hplace hattached hlen hrest
  subst hplace hattached hrest hlen
  unfold mount
  rw [Op.eval_bind_ok (Op.eval_read _)]
  show Op.eval (do
    Op.write _
    Op.log _) _ = _
  rw [Op.eval_bind_ok (Op.eval_write _ _), Op.eval_log]
  show (_, (⟨⟨path, .folder, some (if (memory ++ rest).length < memory.length then _ else _)⟩,
    memory.length, some .attached, _⟩ : FileStore)) = _
  rw [if_neg (by rw [List.length_append]; omega)]
  show (_, (⟨⟨path, .folder, some (memory ++ rest)⟩, memory.length, some .attached,
    Bytes.resize (memory ++ rest) memory.length Bytes.erased⟩ : FileStore)) = _
  rw [Bytes.resize_append rfl]

end FileStore

end SlimInterface
