import Mathlib.Algebra.GroupWithZero.Nat
import SlimInterface.Cycle.Stream
import SlimInterface.Proofs.Operation
import SlimInterface.Proofs.Span

/-!
# Streams as they are opened

A stream is opened over any list of descriptors without a break. Such a list starts at the
beginning of the image, and each buffer starts where the sizes before it add up
(`Descriptor.offset_eq`). The parts the transfer moves are therefore given by the offsets of the
two acknowledge registers: the consumer part lies between them, and the producer part is
everything from the second one on (`Blueprint.eq_bare_of_create`).
-/

namespace SlimInterface

variable {σ τ : Type}

/-! ## Descriptors without a break -/

namespace Descriptor

variable {ds : List Descriptor} {d : Descriptor} {i index offset : Nat}

/-- Descriptors one behind the other, numbered in order from `index` on and placed from `offset`
on. -/
def ContiguousFrom (index offset : Nat) (ds : List Descriptor) : Prop :=
  ∀ i (h : i < ds.length), ds[i].id.index = index + i ∧ ds[i].size ≠ 0 ∧
    ds[i].offset = offset + ((ds.take i).map (·.size)).sum

theorem contiguousFrom_cons : ContiguousFrom index offset (d :: ds) ↔
    (d.id.index = index ∧ d.size ≠ 0 ∧ d.offset = offset) ∧
      ContiguousFrom (index + 1) (offset + d.size) ds := by
  constructor
  · intro h
    refine ⟨h 0 (Nat.zero_lt_succ _), fun i hi => ?_⟩
    obtain ⟨hid, hsize, hoffset⟩ := h (i + 1) (Nat.succ_lt_succ hi)
    refine ⟨hid.trans (by omega), hsize, hoffset.trans ?_⟩
    rw [List.take_succ_cons, List.map_cons, List.sum_cons, Nat.add_assoc]
  · rintro ⟨hhead, hrest⟩ i hi
    cases i with
    | zero => exact hhead
    | succ i =>
      obtain ⟨hid, hsize, hoffset⟩ := hrest i (Nat.lt_of_succ_lt_succ hi)
      refine ⟨hid.trans (by omega), hsize, hoffset.trans ?_⟩
      rw [List.take_succ_cons, List.map_cons, List.sum_cons, Nat.add_assoc]

/-- The running check of a list looks at every descriptor on its own. -/
theorem contiguousFrom_iff :
    ContiguousFrom index offset ds ↔ firstBreak? index offset ds = none := by
  induction ds generalizing index offset with
  | nil => exact iff_of_true (fun _ hi => absurd hi (Nat.not_lt_zero _)) rfl
  | cons d ds ih =>
    rw [contiguousFrom_cons, ih, firstBreak?]
    by_cases hd : d.id.index ≠ index ∨ d.offset ≠ offset ∨ d.size = 0
    · rw [if_pos hd]
      refine iff_of_false (fun h => ?_) nofun
      obtain ⟨⟨hid, hsize, hoffset⟩, -⟩ := h
      rcases hd with h | h | h
      · exact h hid
      · exact h hoffset
      · exact hsize h
    · obtain ⟨hid, hrest⟩ := not_or.mp hd
      obtain ⟨hoffset, hsize⟩ := not_or.mp hrest
      rw [if_neg hd]
      exact and_iff_right ⟨Decidable.not_not.mp hid, hsize, Decidable.not_not.mp hoffset⟩

/-- Descriptors in a row are the layout of their sizes. -/
theorem contiguousFrom_layout (h : index + ds.length ≤ 256) : ContiguousFrom index offset ds ↔
    ds = layoutFrom index offset (ds.map (·.size)) ∧ ∀ d ∈ ds, d.size ≠ 0 := by
  induction ds generalizing index offset with
  | nil => exact iff_of_true (fun _ hi => absurd hi (Nat.not_lt_zero _)) ⟨rfl, nofun⟩
  | cons d ds ih =>
    rw [List.length_cons] at h
    have hindex : (BufferId.mk (UInt8.ofNat index)).index = index :=
      UInt8.toNat_ofNat_of_lt' (show index < 256 by omega)
    have hid : d.id.index = index ↔ d.id = ⟨UInt8.ofNat index⟩ := by
      rw [← BufferId.index_inj, hindex]
    rw [contiguousFrom_cons, ih (by omega), List.map_cons, layoutFrom, List.cons.injEq,
      List.forall_mem_cons, hid]
    obtain ⟨id, start, size⟩ := d
    rw [Descriptor.mk.injEq]
    constructor
    · rintro ⟨⟨rfl, hsize, rfl⟩, hlayout, hsizes⟩
      exact ⟨⟨⟨rfl, rfl, rfl⟩, hlayout⟩, hsize, hsizes⟩
    · rintro ⟨⟨⟨rfl, rfl, -⟩, hlayout⟩, hsize, hsizes⟩
      exact ⟨⟨rfl, hsize, rfl⟩, hlayout, hsizes⟩

theorem totalSize_cons (d : Descriptor) (ds : List Descriptor) :
    totalSize (d :: ds) = d.size + totalSize ds := by
  unfold totalSize
  rw [List.map_cons, List.foldr_cons]

theorem totalSize_append (ds es : List Descriptor) :
    totalSize (ds ++ es) = totalSize ds + totalSize es := by
  induction ds with
  | nil => exact (Nat.zero_add _).symm
  | cons d ds ih => rw [List.cons_append, totalSize_cons, totalSize_cons, ih, Nat.add_assoc]

/-- A buffer starts where the sizes before it add up. -/
theorem offset_eq (h : firstBreak? index offset ds = none) (hd : ds[i]? = some d) :
    d.offset = offset + totalSize (ds.take i) := by
  obtain ⟨hi, rfl⟩ := List.getElem?_eq_some_iff.mp hd
  exact (contiguousFrom_iff.mpr h i hi).2.2

theorem totalSize_take_succ (hd : ds[i]? = some d) :
    totalSize (ds.take (i + 1)) = totalSize (ds.take i) + d.size := by
  rw [List.take_add_one, hd, totalSize_append]
  rfl

theorem totalSize_take_le (ds : List Descriptor) (i : Nat) :
    totalSize (ds.take i) ≤ totalSize ds := by
  have hsplit := congrArg totalSize (List.take_append_drop i ds)
  rw [totalSize_append] at hsplit
  omega

/-- Every buffer lies in the image. -/
theorem end_le (h : firstBreak? 0 0 ds = none) (hd : ds[i]? = some d) :
    d.offset + d.size ≤ totalSize ds := by
  have hoffset := offset_eq h hd
  have hnext := totalSize_take_succ hd
  have hle := totalSize_take_le ds (i + 1)
  omega

theorem totalSize_drop_take (ds : List Descriptor) {i j : Nat} (h : i ≤ j) :
    totalSize ((ds.drop i).take (j - i)) = totalSize (ds.take j) - totalSize (ds.take i) := by
  have hsplit : ds.take j = ds.take i ++ (ds.drop i).take (j - i) := by
    rw [show j = i + (j - i) by omega, List.take_add, show i + (j - i) - i = j - i by omega]
  have hsum := congrArg totalSize hsplit
  rw [totalSize_append] at hsum
  omega

end Descriptor

/-! ## Opening -/

namespace Stream

/-- Opening a stream looks at the number of buffers, at their places, and at the acknowledge
registers, in this order. -/
theorem eval_create (ds : List Descriptor) (transfer : Transfer σ) (consAck prodAck : BufferId)
    (t : τ) :
    (create ds transfer consAck prodAck).eval t =
      (if ds.length = 0 ∨ maxBufferCount < ds.length then .error .invalidParameter
      else if Descriptor.firstBreak? 0 0 ds ≠ none then .error .invalidBuffer
      else if ds.length ≤ prodAck.index ∨ prodAck.index ≤ consAck.index then
        .error .invalidParameter
      else .ok {
          descriptors := ds
          image := List.replicate (Descriptor.totalSize ds) 0
          consumer := Descriptor.spanOf ds consAck.index prodAck.index
          producer := Descriptor.spanOf ds prodAck.index ds.length
          transfer
          pre := []
          post := []
          onSync := none }, t) := by
  unfold create
  dsimp only
  by_cases hcount : ds.length = 0 ∨ maxBufferCount < ds.length
  · rw [if_pos hcount, if_pos hcount, Op.eval_bind_ok (Op.eval_log _ _), Op.eval_fail]
  rw [if_neg hcount, if_neg hcount]
  cases Descriptor.firstBreak? 0 0 ds with
  | some d =>
    rw [if_pos (Option.some_ne_none d)]
    exact (Op.eval_bind_ok (Op.eval_log _ _)).trans (Op.eval_fail _ _)
  | none =>
    rw [if_neg (show ¬ (none : Option Descriptor) ≠ none from fun h => h rfl)]
    dsimp only
    by_cases hack : ds.length ≤ prodAck.index ∨ prodAck.index ≤ consAck.index
    · rw [if_pos hack, if_pos hack, Op.eval_bind_ok (Op.eval_log _ _), Op.eval_fail]
    · rw [if_neg hack, if_neg hack, Op.eval_bind_ok (Op.eval_log _ _), Op.eval_pure]

/-- A stream is opened over one to `maxBufferCount` buffers without a break, if the acknowledge
registers are in order. -/
theorem create_eq_ok {ds : List Descriptor} {transfer : Transfer σ} {consAck prodAck : BufferId}
    {s : Stream σ} {t u : τ} :
    (create ds transfer consAck prodAck).eval t = (.ok s, u) ↔
      (0 < ds.length ∧ ds.length ≤ maxBufferCount) ∧ Descriptor.firstBreak? 0 0 ds = none ∧
        (consAck.index < prodAck.index ∧ prodAck.index < ds.length) ∧
        s = {
          descriptors := ds
          image := List.replicate (Descriptor.totalSize ds) 0
          consumer := Descriptor.spanOf ds consAck.index prodAck.index
          producer := Descriptor.spanOf ds prodAck.index ds.length
          transfer
          pre := []
          post := []
          onSync := none } ∧ u = t := by
  rw [eval_create, Prod.mk.injEq]
  by_cases hcount : ds.length = 0 ∨ maxBufferCount < ds.length
  · rw [if_pos hcount]
    exact iff_of_false (fun h => by cases h.1) fun h => by omega
  rw [if_neg hcount]
  by_cases hbreak : Descriptor.firstBreak? 0 0 ds ≠ none
  · rw [if_pos hbreak]
    exact iff_of_false (fun h => by cases h.1) fun h => hbreak h.2.1
  rw [if_neg hbreak]
  by_cases hack : ds.length ≤ prodAck.index ∨ prodAck.index ≤ consAck.index
  · rw [if_pos hack]
    exact iff_of_false (fun h => by cases h.1) fun h => by omega
  rw [if_neg hack, Except.ok.injEq]
  constructor
  · rintro ⟨hs, ht⟩
    exact ⟨⟨by omega, by omega⟩, Decidable.not_not.mp hbreak, ⟨by omega, by omega⟩, hs.symm,
      ht.symm⟩
  · rintro ⟨-, -, -, hs, ht⟩
    exact ⟨hs.symm, ht.symm⟩

theorem buffer?_of_descriptor? {s : Stream σ} {id : BufferId} {d : Descriptor}
    (hd : s.descriptor? id = some d) : s.buffer? id = some (d.span.read s.image) := by
  unfold buffer?
  rw [hd, Option.map_some]

/-- The same buffer of another image. -/
theorem buffer?_withImage {s : Stream σ} {id : BufferId} {d : Descriptor}
    (hd : s.descriptor? id = some d) (image : Bytes) :
    ({ s with image } : Stream σ).buffer? id = some (d.span.read image) :=
  buffer?_of_descriptor? (s := { s with image }) hd

/-- Work on a buffer is work on its span of the image. -/
theorem eval_editBuffer {s : Stream σ} {id : BufferId} {d : Descriptor}
    (hd : s.descriptor? id = some d) (op : Op Bytes Unit) :
    (editBuffer id op).eval s =
      ((op.eval (d.span.read s.image)).1,
        { s with image := d.span.place (op.eval (d.span.read s.image)).2 s.image }) := by
  unfold editBuffer
  rw [Op.eval_bind_ok (Op.eval_read _), hd]
  rfl

theorem eval_editBuffer_of_none {s : Stream σ} {id : BufferId} (hd : s.descriptor? id = none)
    (op : Op Bytes Unit) : (editBuffer id op).eval s = (.error .invalidBuffer, s) := by
  unfold editBuffer
  rw [Op.eval_bind_ok (Op.eval_read _), hd]
  rfl

/-- Working on a buffer changes bytes of the image, and not how many there are. -/
theorem eval_editBuffer_image (id : BufferId) (op : Op Bytes Unit) (s : Stream σ) :
    ∃ a image, (editBuffer id op).eval s = (a, { s with image }) ∧
      image.length = s.image.length := by
  cases hd : s.descriptor? id with
  | none => exact ⟨_, s.image, eval_editBuffer_of_none hd op, rfl⟩
  | some d => exact ⟨_, _, eval_editBuffer hd op, Span.length_place ..⟩

/-- An action is attached at the end of its list, or nothing happens. -/
theorem eval_register (kind : ActionKind) (buffer : BufferId) (act : Action σ) (s : Stream σ) :
    (register kind buffer act).eval s =
      if s.descriptor? buffer = none then (.error .invalidParameter, s)
      else if s.descriptors.length ≤ (s.actions kind).length then (.error .noFreeActionSlot, s)
      else (.ok (), append kind ⟨buffer, act⟩ s) := by
  rw [register, Op.eval_bind_ok (Op.eval_read s)]
  by_cases hd : s.descriptor? buffer = none
  · rw [if_pos (by rw [hd]; rfl), if_pos hd, Op.eval_fail]
  rw [if_neg (by rwa [Option.isNone_iff_eq_none]), if_neg hd]
  by_cases hf : s.descriptors.length ≤ (s.actions kind).length
  · rw [if_pos hf, if_pos hf, Op.eval_fail]
  · rw [if_neg hf, if_neg hf, Op.eval_bind_ok (Op.eval_update _ s), Op.eval_log]

theorem register_eq_ok {kind : ActionKind} {buffer : BufferId} {act : Action σ}
    {s t : Stream σ} {u : Unit} :
    (register kind buffer act).eval s = (.ok u, t) ↔
      s.descriptor? buffer ≠ none ∧ (s.actions kind).length < s.descriptors.length ∧
        t = append kind ⟨buffer, act⟩ s := by
  rw [eval_register]
  by_cases hd : s.descriptor? buffer = none
  · simp [hd]
  rw [if_neg hd]
  by_cases hf : s.descriptors.length ≤ (s.actions kind).length
  · rw [if_pos hf]
    exact iff_of_false (fun h => by cases h) fun h => by omega
  · rw [if_neg hf]
    constructor
    · intro h
      cases h
      exact ⟨hd, by omega, rfl⟩
    · intro h
      obtain ⟨-, -, rfl⟩ := h
      rfl

end Stream

/-- What a stream is opened over. -/
structure Blueprint (σ : Type) where
  descriptors : List Descriptor
  transfer : Transfer σ
  consAck : BufferId
  prodAck : BufferId

namespace Blueprint

/-- Where a buffer starts. -/
def offset (b : Blueprint σ) (id : BufferId) : Nat :=
  (b.descriptors[id.index]?.map (·.offset)).getD 0

/-- The size of the image. -/
def total (b : Blueprint σ) : Nat := Descriptor.totalSize b.descriptors

/-- The bytes between the two acknowledge registers. -/
def consumer (b : Blueprint σ) : Span :=
  ⟨b.offset b.consAck, b.offset b.prodAck - b.offset b.consAck⟩

/-- The bytes from the second acknowledge register on. -/
def producer (b : Blueprint σ) : Span := ⟨b.offset b.prodAck, b.total - b.offset b.prodAck⟩

/-- The stream before anything was attached to it. -/
def bare (b : Blueprint σ) : Stream σ where
  descriptors := b.descriptors
  image := List.replicate b.total 0
  consumer := b.consumer
  producer := b.producer
  transfer := b.transfer
  pre := []
  post := []
  onSync := none

/-- The descriptors have no break, and the acknowledge registers are in order. -/
structure Sound (b : Blueprint σ) : Prop where
  unbroken : Descriptor.firstBreak? 0 0 b.descriptors = none
  ordered : b.consAck.index < b.prodAck.index
  prodAck_lt : b.prodAck.index < b.descriptors.length

variable {b : Blueprint σ} {d : Descriptor} {i : Nat}

theorem Sound.fits (h : b.Sound) (hd : b.descriptors[i]? = some d) {image : Bytes}
    (hl : image.length = b.total) : d.span.Fits image := by
  unfold Span.Fits
  rw [hl]
  exact Descriptor.end_le h.unbroken hd

theorem Sound.offset_eq (h : b.Sound) {id : BufferId} (hid : id.index < b.descriptors.length) :
    b.offset id = Descriptor.totalSize (b.descriptors.take id.index) := by
  have hd := List.getElem?_eq_getElem hid
  unfold offset
  rw [hd, Option.map_some, Option.getD_some, Descriptor.offset_eq h.unbroken hd, Nat.zero_add]

theorem Sound.offset_le (h : b.Sound) : b.offset b.consAck ≤ b.offset b.prodAck ∧
    b.offset b.prodAck ≤ b.total := by
  have hlt := h.prodAck_lt
  have hord := h.ordered
  rw [h.offset_eq (Nat.lt_trans hord hlt), h.offset_eq hlt]
  refine ⟨?_, Descriptor.totalSize_take_le _ _⟩
  have hle := Descriptor.totalSize_take_le (b.descriptors.take b.prodAck.index) b.consAck.index
  rw [List.take_take, Nat.min_eq_left (Nat.le_of_lt hord)] at hle
  exact hle

theorem Sound.spanOf_consumer (h : b.Sound) :
    Descriptor.spanOf b.descriptors b.consAck.index b.prodAck.index = b.consumer := by
  have hlt := h.prodAck_lt
  have hord := h.ordered
  unfold Descriptor.spanOf consumer
  rw [Descriptor.totalSize_drop_take _ (Nat.le_of_lt hord), ← h.offset_eq hlt,
    ← h.offset_eq (Nat.lt_trans hord hlt)]
  rfl

theorem Sound.spanOf_producer (h : b.Sound) :
    Descriptor.spanOf b.descriptors b.prodAck.index b.descriptors.length = b.producer := by
  have hlt := h.prodAck_lt
  unfold Descriptor.spanOf producer total
  rw [Descriptor.totalSize_drop_take _ (Nat.le_of_lt hlt), ← h.offset_eq hlt, List.take_length]
  rfl

/-- A stream is opened as the blueprint says, or not at all. -/
theorem eq_bare_of_create {s : Stream σ} {t u : τ}
    (h : (Stream.create b.descriptors b.transfer b.consAck b.prodAck).eval t = (.ok s, u)) :
    b.Sound ∧ s = b.bare := by
  obtain ⟨-, hbreak, hack, rfl, -⟩ := Stream.create_eq_ok.mp h
  have hsound : b.Sound := ⟨hbreak, hack.1, hack.2⟩
  rw [hsound.spanOf_consumer, hsound.spanOf_producer]
  exact ⟨hsound, rfl⟩

end Blueprint

end SlimInterface
