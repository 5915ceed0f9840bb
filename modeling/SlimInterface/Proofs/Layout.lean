import Mathlib.Algebra.GroupWithZero.Nat
import Mathlib.Data.List.Nodup
import Mathlib.Data.List.Perm.Subperm
import SlimInterface.Endpoint.Config
import SlimInterface.Proofs.Span

/-!
# Where the buffers of a configuration lie

The buffers lie back to back, so buffer `i` starts where the sizes before it add up to.
`Config.offset` is that sum; it turns every question about the layout into one about sums:
two different buffers lie apart (`apart_span`), and the consumer and producer parts are the
two runs of buffers the configuration says (`spanOf_descriptors`).

`Config.Accepted` is what an endpoint asks of its configuration.
-/

namespace SlimInterface

namespace Config

/-! ## Offsets -/

/-- The number of buffers. -/
def count (c : Config) : Nat := c.sizes.length

/-- The bytes before buffer `i`. -/
def offset (c : Config) (i : Nat) : Nat := (c.sizes.take i).sum

/-- The bytes of all buffers. -/
def total (c : Config) : Nat := c.sizes.sum

/-- Where a buffer lies in the image. -/
def span (c : Config) (id : BufferId) : Span := ⟨c.offset id.index, c.sizeOf id⟩

/-- The part of the image the remote side fills. -/
def consumerPart (c : Config) : Span :=
  ⟨c.offset c.consAck.index, c.offset c.prodAck.index - c.offset c.consAck.index⟩

/-- The part of the image that is sent to the remote side. -/
def producerPart (c : Config) : Span :=
  ⟨c.offset c.prodAck.index, c.total - c.offset c.prodAck.index⟩

theorem offset_mono (c : Config) {i j : Nat} (h : i ≤ j) : c.offset i ≤ c.offset j := by
  unfold offset
  rw [show j = i + (j - i) by omega, List.take_add, List.sum_append]
  omega

theorem offset_succ (c : Config) (id : BufferId) :
    c.offset (id.index + 1) = c.offset id.index + c.sizeOf id := by
  unfold offset sizeOf
  rw [List.take_add_one, List.sum_append]
  cases c.sizes[id.index]? <;> simp

theorem offset_count (c : Config) : c.offset c.count = c.total := by
  unfold offset count total
  rw [List.take_length]

theorem offset_le_total (c : Config) (i : Nat) : c.offset i ≤ c.total := by
  have h := congrArg List.sum (List.take_append_drop i c.sizes)
  rw [List.sum_append] at h
  unfold offset total
  omega

theorem index_lt_of_sizeOf {c : Config} {id : BufferId} (h : 0 < c.sizeOf id) :
    id.index < c.count := by
  unfold sizeOf at h
  rcases Nat.lt_or_ge id.index c.count with hlt | hge
  · exact hlt
  · rw [List.getElem?_eq_none hge] at h
    exact absurd h (by simp)

/-- Two different buffers have no byte in common. -/
theorem apart_span (c : Config) {a b : BufferId} (h : a ≠ b) : (c.span a).Apart (c.span b) := by
  have hidx : a.index ≠ b.index := fun he => h (BufferId.index_inj.mp he)
  have ha := c.offset_succ a
  have hb := c.offset_succ b
  unfold Span.Apart span
  dsimp only
  rcases Nat.lt_or_gt_of_ne hidx with hlt | hlt
  · have := c.offset_mono (show a.index + 1 ≤ b.index from hlt)
    omega
  · have := c.offset_mono (show b.index + 1 ≤ a.index from hlt)
    omega

/-- Buffers of different sizes are different buffers. -/
theorem ne_of_sizeOf_ne {c : Config} {a b : BufferId} (h : c.sizeOf a ≠ c.sizeOf b) : a ≠ b :=
  fun he => h (congrArg c.sizeOf he)

/-- Buffers of pairwise different sizes are that many buffers. -/
theorem length_le_count {c : Config} {ids : List BufferId} {sizes : List Nat}
    (h : ids.map c.sizeOf = sizes) (hne : sizes.Nodup) (hpos : ∀ n ∈ sizes, 0 < n) :
    ids.length ≤ c.count := by
  subst h
  have hindex : (ids.map BufferId.index).Nodup := by
    have hsizes : ids.map c.sizeOf = (ids.map BufferId.index).map fun i => c.sizes[i]?.getD 0 := by
      rw [List.map_map]
      rfl
    rw [hsizes] at hne
    exact List.Nodup.of_map _ hne
  have hsub : ids.map BufferId.index ⊆ List.range c.count := by
    intro i hi
    obtain ⟨id, hid, rfl⟩ := List.mem_map.mp hi
    exact List.mem_range.mpr (index_lt_of_sizeOf (hpos _ (List.mem_map_of_mem hid)))
  have hle := (List.subperm_of_subset hindex hsub).length_le
  rwa [List.length_map, List.length_range] at hle

/-! ## Parts -/

/-- The buffer belongs to the consumer part. -/
def Consumed (c : Config) (id : BufferId) : Prop :=
  c.consAck.index ≤ id.index ∧ id.index < c.prodAck.index

/-- The buffer belongs to the producer part. -/
def Produced (c : Config) (id : BufferId) : Prop :=
  c.prodAck.index ≤ id.index ∧ id.index < c.count

instance (c : Config) (id : BufferId) : Decidable (c.Consumed id) :=
  inferInstanceAs (Decidable (_ ∧ _))

instance (c : Config) (id : BufferId) : Decidable (c.Produced id) :=
  inferInstanceAs (Decidable (_ ∧ _))

theorem Consumed.within {c : Config} {id : BufferId} (h : c.Consumed id) :
    (c.span id).Within c.consumerPart := by
  have hs := c.offset_succ id
  have h1 := c.offset_mono h.1
  have h2 := c.offset_mono (show id.index + 1 ≤ c.prodAck.index from h.2)
  have h3 := c.offset_mono (Nat.le_of_lt (Nat.lt_of_le_of_lt h.1 h.2))
  unfold Span.Within span consumerPart
  dsimp only
  omega

theorem Produced.within {c : Config} {id : BufferId} (h : c.Produced id) :
    (c.span id).Within c.producerPart := by
  have hs := c.offset_succ id
  have h1 := c.offset_mono h.1
  have h2 := c.offset_le_total (id.index + 1)
  unfold Span.Within span producerPart
  dsimp only
  omega

/-- A buffer that lies in the consumer part is one of its buffers. -/
theorem consumed_of_within {c : Config} {id : BufferId} (hpos : 0 < c.sizeOf id)
    (ho : c.consAck.index ≤ c.prodAck.index) (h : (c.span id).Within c.consumerPart) :
    c.Consumed id := by
  have hs := c.offset_succ id
  have hp := c.offset_mono ho
  unfold Span.Within span consumerPart at h
  dsimp only at h
  obtain ⟨hstart, hend⟩ := h
  constructor
  · rcases Nat.lt_or_ge id.index c.consAck.index with hlt | hge
    · have := c.offset_mono (show id.index + 1 ≤ c.consAck.index from hlt)
      omega
    · exact hge
  · rcases Nat.lt_or_ge id.index c.prodAck.index with hlt | hge
    · exact hlt
    · have := c.offset_mono hge
      omega

/-- A buffer that lies in the producer part is one of its buffers. -/
theorem produced_of_within {c : Config} {id : BufferId} (hpos : 0 < c.sizeOf id)
    (h : (c.span id).Within c.producerPart) : c.Produced id := by
  have hs := c.offset_succ id
  unfold Span.Within span producerPart at h
  dsimp only at h
  refine ⟨?_, index_lt_of_sizeOf hpos⟩
  rcases Nat.lt_or_ge id.index c.prodAck.index with hlt | hge
  · have := c.offset_mono (show id.index + 1 ≤ c.prodAck.index from hlt)
    omega
  · exact hge

/-- A transfer does not write over a buffer outside the consumer part. -/
theorem apart_consumerPart {c : Config} {id : BufferId} (h : ¬ c.Consumed id)
    (ho : c.consAck.index ≤ c.prodAck.index) : (c.span id).Apart c.consumerPart := by
  have hs := c.offset_succ id
  have hp := c.offset_mono ho
  unfold Consumed at h
  unfold Span.Apart span consumerPart
  dsimp only
  rcases Nat.lt_or_ge id.index c.consAck.index with hlt | hge
  · have := c.offset_mono (show id.index + 1 ≤ c.consAck.index from hlt)
    omega
  · have := c.offset_mono (show c.prodAck.index ≤ id.index by omega)
    omega

theorem Produced.not_consumed {c : Config} {id : BufferId} (h : c.Produced id) :
    ¬ c.Consumed id := fun hc => Nat.lt_irrefl _ (Nat.lt_of_lt_of_le hc.2 h.1)

end Config

/-! ## Descriptors -/

namespace Descriptor

theorem getElem?_layoutFrom (index offset : Nat) (sizes : List Nat) (k : Nat) :
    (layoutFrom index offset sizes)[k]? =
      sizes[k]?.map fun size => ⟨⟨UInt8.ofNat (index + k)⟩, offset + (sizes.take k).sum, size⟩ := by
  induction sizes generalizing index offset k with
  | nil => rfl
  | cons size rest ih =>
    cases k with
    | zero => simp [layoutFrom]
    | succ k =>
      simp only [layoutFrom, List.getElem?_cons_succ, ih, List.take_succ_cons, List.sum_cons]
      rw [show index + 1 + k = index + (k + 1) by omega, Nat.add_assoc]

theorem totalSize_eq_sum (ds : List Descriptor) : totalSize ds = (ds.map (·.size)).sum := rfl

theorem length_layoutFrom (index offset : Nat) (sizes : List Nat) :
    (layoutFrom index offset sizes).length = sizes.length := by
  induction sizes generalizing index offset with
  | nil => rfl
  | cons size rest ih => simp only [layoutFrom, List.length_cons, ih]

theorem map_size_layoutFrom (index offset : Nat) (sizes : List Nat) :
    (layoutFrom index offset sizes).map (·.size) = sizes := by
  induction sizes generalizing index offset with
  | nil => rfl
  | cons size rest ih => simp only [layoutFrom, List.map_cons, ih]

end Descriptor

namespace Config

@[simp] theorem length_descriptors (c : Config) : c.descriptors.length = c.count :=
  Descriptor.length_layoutFrom ..

theorem getElem?_descriptors (c : Config) (i : Nat) :
    c.descriptors[i]? = c.sizes[i]?.map fun size => ⟨⟨UInt8.ofNat i⟩, c.offset i, size⟩ := by
  unfold descriptors Descriptor.layout
  rw [Descriptor.getElem?_layoutFrom]
  simp only [Nat.zero_add]
  rfl

/-- The descriptor of a buffer says where its span lies. -/
theorem descriptor_of_lt {c : Config} {id : BufferId} (h : id.index < c.count) :
    ∃ d, c.descriptors[id.index]? = some d ∧ d.span = c.span id ∧ d.size = c.sizeOf id := by
  have hs : c.sizes[id.index]? = some (c.sizeOf id) := by
    unfold sizeOf
    rw [List.getElem?_eq_getElem h, Option.getD_some]
  rw [getElem?_descriptors, hs]
  exact ⟨_, rfl, rfl, rfl⟩

@[simp] theorem totalSize_descriptors (c : Config) :
    Descriptor.totalSize c.descriptors = c.total := by
  unfold descriptors Descriptor.layout total
  rw [Descriptor.totalSize_eq_sum, Descriptor.map_size_layoutFrom]

theorem spanOf_descriptors (c : Config) {first last : Nat} (h : first ≤ last)
    (hc : first < c.count) :
    Descriptor.spanOf c.descriptors first last =
      ⟨c.offset first, c.offset last - c.offset first⟩ := by
  unfold Descriptor.spanOf
  congr 1
  · rw [getElem?_descriptors, List.getElem?_eq_getElem hc]
    rfl
  · unfold descriptors Descriptor.layout offset
    rw [Descriptor.totalSize_eq_sum, List.map_take, List.map_drop, Descriptor.map_size_layoutFrom,
      show last = first + (last - first) by omega, List.take_add, List.sum_append]
    rw [show first + (last - first) - first = last - first by omega]
    omega

/-! ## What an endpoint asks -/

/-- The buffers can be laid out in one image, and its two parts are in order. -/
structure LaidOut (c : Config) : Prop where
  count_pos : 0 < c.count
  count_le : c.count ≤ Stream.maxBufferCount
  size_pos : ∀ size ∈ c.sizes, 0 < size
  consAck_lt : c.consAck.index < c.prodAck.index
  prodAck_lt : c.prodAck.index < c.count

theorem LaidOut.sizeOf_pos {c : Config} (h : c.LaidOut) {id : BufferId}
    (hid : id.index < c.count) : 0 < c.sizeOf id := by
  unfold sizeOf
  rw [List.getElem?_eq_getElem hid, Option.getD_some]
  exact h.size_pos _ (List.getElem_mem hid)

/-- An endpoint can be opened over the configuration: the buffers can be laid out, and every
channel has a buffer of its size. -/
structure Accepted (c : Config) : Prop extends c.LaidOut where
  statusOut_size : c.sizeOf c.statusOut = Status.outSize
  statusIn_size : c.sizeOf c.statusIn = Status.inSize
  logBuffer_size : c.sizeOf c.logBuffer = LogEntry.bufferSize
  ssdoConsumer_size : c.sizeOf c.ssdoConsumer = Frame.bufferSize
  ssdoProducer_size : c.sizeOf c.ssdoProducer = Frame.bufferSize

theorem accepted_reference : reference.Accepted where
  count_pos := by decide
  count_le := by decide
  size_pos := by decide
  consAck_lt := by decide
  prodAck_lt := by decide
  statusOut_size := by decide
  statusIn_size := by decide
  logBuffer_size := by decide
  ssdoConsumer_size := by decide
  ssdoProducer_size := by decide

end Config

end SlimInterface
