import SlimInterface.Proofs.Cycle.Course

/-!
# How a stream divides its image

A stream is opened over descriptors that lie one behind the other, each with its place in the list
as its id and none of them empty (`Descriptor.Contiguous`). Lists of this kind are what `layout`
makes of their sizes.

The buffers of such a stream are its image cut into pieces: put one behind the other they are the
whole image (`Descriptor.flatten_read`), and no two have a byte in common (`Descriptor.apart`). What
happens to the stream afterwards changes the bytes only, neither their number nor the descriptors
nor the two parts (`Course.Step.shaped`), so the same pieces are there at all times.
-/

namespace SlimInterface

variable {σ τ : Type}

/-! ## Descriptors -/

namespace Descriptor

variable {ds : List Descriptor} {d e : Descriptor} {i j index offset : Nat}

/-- Descriptor `i` has the id `i`, a size, and the sum of the sizes before it as its offset. -/
def Contiguous (ds : List Descriptor) : Prop :=
  ∀ i (h : i < ds.length), ds[i].id.index = i ∧ ds[i].size ≠ 0 ∧
    ds[i].offset = ((ds.take i).map (·.size)).sum

instance (ds : List Descriptor) : Decidable (Contiguous ds) :=
  inferInstanceAs (Decidable (∀ i (_ : i < ds.length), _ ∧ _ ∧ _))

theorem contiguous_iff_from : Contiguous ds ↔ ContiguousFrom 0 0 ds := by
  unfold Contiguous ContiguousFrom
  simp only [Nat.zero_add]

theorem contiguous_iff : Contiguous ds ↔ firstBreak? 0 0 ds = none := by
  rw [contiguous_iff_from, contiguousFrom_iff]

/-- A buffer ends before any later one starts. -/
theorem end_le_offset (h : firstBreak? 0 0 ds = none) (hd : ds[i]? = some d)
    (he : ds[j]? = some e) (hij : i < j) : d.offset + d.size ≤ e.offset := by
  have hstart := offset_eq h hd
  have hstart' := offset_eq h he
  have hend := totalSize_take_succ hd
  -- the sizes up to the end of the first buffer are among those before the second one
  have hle := totalSize_take_le (ds.take j) (i + 1)
  rw [List.take_take, Nat.min_eq_left (show i + 1 ≤ j from hij)] at hle
  omega

/-- Two buffers have no byte in common. -/
theorem apart (h : firstBreak? 0 0 ds = none) (hd : ds[i]? = some d) (he : ds[j]? = some e)
    (hij : i ≠ j) : d.span.Apart e.span := by
  rcases Nat.lt_or_gt_of_ne hij with hlt | hlt
  · exact .inl (end_le_offset h hd he hlt)
  · exact .inr (end_le_offset h he hd hlt)

/-- The buffers one behind the other are the bytes from the first one on. -/
theorem flatten_read (h : firstBreak? index offset ds = none) (image : Bytes) :
    (ds.map fun d => d.span.read image).flatten = (image.drop offset).take (totalSize ds) := by
  induction ds generalizing index offset with
  | nil => exact (List.take_zero).symm
  | cons d ds ih =>
    obtain ⟨⟨-, -, hoffset⟩, hrest⟩ := contiguousFrom_cons.mp (contiguousFrom_iff.mpr h)
    rw [List.map_cons, List.flatten_cons, ih (contiguousFrom_iff.mp hrest), totalSize_cons,
      List.take_add, List.drop_drop, ← hoffset]
    rfl

end Descriptor

/-! ## What stays -/

/-- The stream lies over these descriptors, and its parts are these. -/
structure Stream.Shaped (ds : List Descriptor) (consumer producer : Span) (s : Stream σ) :
    Prop where
  descriptors : s.descriptors = ds
  consumer : s.consumer = consumer
  producer : s.producer = producer
  length : s.image.length = Descriptor.totalSize ds

namespace Site

variable {ds : List Descriptor} {consumer producer : Span} {n : Nat}

/-- Work on the image that keeps its length keeps the stream in shape. -/
theorem keeps_onImage {op : Op (Bytes × σ) Unit}
    (h : op.Keeps fun p => p.1.length = Descriptor.totalSize ds) :
    (onImage op).Keeps fun s => s.stream.Shaped ds consumer producer :=
  h.within (fun _ hs => hs.length) fun _ _ hp hs =>
    ⟨hs.descriptors, hs.consumer, hs.producer, hp⟩

/-- What is placed into a span is cut to it. -/
theorem keeps_place (span : Span) (op : Op (Bytes × σ) Unit) :
    (op.within (fun p : Bytes × σ => (span.read p.1, p.2))
      fun q p => (span.place q.1 p.1, q.2)).Keeps fun p => p.1.length = n := by
  intro p hp
  rw [Op.eval_within, Span.length_place]
  exact hp

/-- An action does not change how many bytes there are, whatever it does to its own. -/
theorem keeps_runActions (kind : ActionKind) (ds : List Descriptor) (rs : List (Registration σ)) :
    (Stream.runActions kind ds rs).Keeps fun p => p.1.length = n := by
  induction rs with
  | nil => exact Op.keeps_pure _
  | cons r rs ih =>
    unfold Stream.runActions
    cases ds[r.buffer.index]? with
    | none => exact ih
    | some d => exact Op.Keeps.bind (keeps_place d.span r.act).reporting fun _ => ih

theorem keeps_move :
    (move : Op (Site σ) Unit).Keeps fun s => s.stream.Shaped ds consumer producer :=
  Op.keeps_read.bind fun s =>
    keeps_onImage (keeps_place s.stream.consumer (s.stream.transfer _)).reporting

theorem keeps_processSync :
    (processSync : Op (Site σ) Unit).Keeps fun s => s.stream.Shaped ds consumer producer :=
  Op.keeps_read.bind fun _ => (keeps_onImage (keeps_runActions _ _ _)).bind fun _ => keeps_move

theorem keeps_processPost :
    (processPost : Op (Site σ) Unit).Keeps fun s => s.stream.Shaped ds consumer producer := by
  refine Op.keeps_read.bind fun s => (keeps_onImage (keeps_runActions _ _ _)).bind fun _ => ?_
  cases s.stream.onSync with
  | none => exact Op.keeps_pure _
  | some callback => exact fun _ hs => hs

end Site

namespace Course

variable {ds : List Descriptor} {consumer producer : Span} {s t : Site σ} {e : Event σ}

/-- What happens to a stream keeps it in shape. -/
theorem Step.shaped (hs : s.stream.Shaped ds consumer producer) (h : Step s e t) :
    t.stream.Shaped ds consumer producer := by
  obtain ⟨hds, hcons, hprod, hlen⟩ := hs
  cases h with
  | @register kind r a _ hk h =>
    rw [Site.onStream, Op.eval_within, Stream.eval_register] at h
    split at h
    · cases h
      exact ⟨hds, hcons, hprod, hlen⟩
    · split at h
      · cases h
        exact ⟨hds, hcons, hprod, hlen⟩
      · cases h
        cases kind <;> exact ⟨hds, hcons, hprod, hlen⟩
  | callback | elsewhere => exact ⟨hds, hcons, hprod, hlen⟩
  | reset h =>
    cases h
    exact ⟨hds, hcons, hprod, hlen⟩
  | sync h =>
    have hkept := Site.keeps_processSync (σ := σ) s ⟨hds, hcons, hprod, hlen⟩
    rw [h] at hkept
    exact hkept
  | post h =>
    have hkept := Site.keeps_processPost (σ := σ) s ⟨hds, hcons, hprod, hlen⟩
    rw [h] at hkept
    exact hkept
  | @edit id op _ _ h =>
    obtain ⟨a, image, hedit, hsame⟩ := Stream.eval_editBuffer_image id op s.stream
    rw [Site.onStream, Op.eval_within, hedit] at h
    cases h
    exact ⟨hds, hcons, hprod, hsame.trans hlen⟩

end Course

/-! ## The pieces -/

namespace Stream

/-- The image is cut into buffers as the descriptors say, and into the two parts as the
acknowledge registers say. -/
structure Partitioned (ds : List Descriptor) (consAck prodAck : BufferId) (s : Stream σ) :
    Prop where
  /-- There is a buffer for every descriptor, of its size. -/
  sizes : ∀ id, (s.buffer? id).map List.length = ds[id.index]?.map (·.size)
  /-- In the order of their ids the buffers are the image. -/
  pieces : ∃ bs : List Bytes, bs.length = ds.length ∧ bs.flatten = s.image ∧
    ∀ id, s.buffer? id = bs[id.index]?
  consumer : s.consumer.size = (((ds.take prodAck.index).drop consAck.index).map (·.size)).sum
  producer : s.producer.size = ((ds.drop prodAck.index).map (·.size)).sum
  /-- Bytes that are written into a buffer are found there. -/
  written : ∀ id old new, s.buffer? id = some old → new.length = old.length →
    ∃ s', (editBuffer id (Op.write new)).eval s = (.ok (), s') ∧ s'.buffer? id = some new
  /-- Whatever is done to a buffer, nothing else changes. -/
  kept : ∀ id op, ∃ image, ((editBuffer id op).eval s).2 = { s with image } ∧
    image.length = s.image.length ∧ ∀ other, other ≠ id →
      ({ s with image } : Stream σ).buffer? other = s.buffer? other

variable {ds : List Descriptor} {consAck prodAck : BufferId} {s : Stream σ}

theorem written_of_buffer? {id : BufferId} {old new : Bytes} (hold : s.buffer? id = some old)
    (hlen : new.length = old.length) :
    ∃ s', (editBuffer id (Op.write new)).eval s = (.ok (), s') ∧ s'.buffer? id = some new := by
  cases hd : s.descriptor? id with
  | none =>
    unfold buffer? at hold
    rw [hd] at hold
    cases hold
  | some d =>
    rw [buffer?_of_descriptor? hd] at hold
    obtain rfl := Option.some.inj hold
    refine ⟨_, eval_editBuffer hd _, (buffer?_withImage hd _).trans ?_⟩
    exact congrArg some (Span.read_place_of_length hlen)

namespace Shaped

variable {consumer producer : Span}

theorem descriptor? (h : s.Shaped ds consumer producer) (id : BufferId) :
    s.descriptor? id = ds[id.index]? := by
  unfold Stream.descriptor?
  rw [h.descriptors]

theorem map_length_buffer? (h : s.Shaped ds consumer producer)
    (hbreak : Descriptor.firstBreak? 0 0 ds = none) (id : BufferId) :
    (s.buffer? id).map List.length = ds[id.index]?.map (·.size) := by
  unfold buffer?
  rw [h.descriptor?, Option.map_map]
  cases hd : ds[id.index]? with
  | none => rfl
  | some d =>
    have hfits : d.span.Fits s.image := by
      unfold Span.Fits
      rw [h.length]
      exact Descriptor.end_le hbreak hd
    exact congrArg some (Span.length_read hfits)

theorem exists_pieces (h : s.Shaped ds consumer producer)
    (hbreak : Descriptor.firstBreak? 0 0 ds = none) :
    ∃ bs : List Bytes, bs.length = ds.length ∧ bs.flatten = s.image ∧
      ∀ id, s.buffer? id = bs[id.index]? := by
  refine ⟨ds.map fun d => d.span.read s.image, List.length_map _, ?_, fun id => ?_⟩
  · rw [Descriptor.flatten_read hbreak, List.drop_zero, ← h.length, List.take_length]
  · unfold buffer?
    rw [h.descriptor?, List.getElem?_map]

/-- What is placed into one buffer does not show in another. -/
theorem buffer?_place_of_ne (h : s.Shaped ds consumer producer)
    (hbreak : Descriptor.firstBreak? 0 0 ds = none) {id other : BufferId} {d : Descriptor}
    (hd : s.descriptor? id = some d) (hne : other ≠ id) (bytes : Bytes) :
    ({ s with image := d.span.place bytes s.image } : Stream σ).buffer? other =
      s.buffer? other := by
  cases he : s.descriptor? other with
  | none =>
    unfold buffer?
    rw [he]
    exact congrArg (Option.map _) he
  | some e =>
    rw [h.descriptor?] at hd
    have hentry := he
    rw [h.descriptor?] at hentry
    have hapart : e.span.Apart d.span :=
      Descriptor.apart hbreak hentry hd fun heq => hne (BufferId.index_inj.mp heq)
    rw [buffer?_of_descriptor? he, buffer?_withImage he, Span.read_place_of_apart hapart]

theorem kept_of_editBuffer (h : s.Shaped ds consumer producer)
    (hbreak : Descriptor.firstBreak? 0 0 ds = none) (id : BufferId) (op : Op Bytes Unit) :
    ∃ image, ((editBuffer id op).eval s).2 = { s with image } ∧
      image.length = s.image.length ∧ ∀ other, other ≠ id →
        ({ s with image } : Stream σ).buffer? other = s.buffer? other := by
  cases hd : s.descriptor? id with
  | none =>
    rw [eval_editBuffer_of_none hd]
    exact ⟨s.image, rfl, rfl, fun _ _ => rfl⟩
  | some d =>
    rw [eval_editBuffer hd]
    exact ⟨_, rfl, Span.length_place .., fun _ hne => h.buffer?_place_of_ne hbreak hd hne _⟩

end Shaped

theorem partitioned_of_shaped (h : s.Shaped ds
      (Descriptor.spanOf ds consAck.index prodAck.index)
      (Descriptor.spanOf ds prodAck.index ds.length))
    (hbreak : Descriptor.firstBreak? 0 0 ds = none) : s.Partitioned ds consAck prodAck where
  sizes := h.map_length_buffer? hbreak
  pieces := h.exists_pieces hbreak
  consumer := by
    rw [h.consumer, List.drop_take]
    rfl
  producer := by
    rw [h.producer]
    show Descriptor.totalSize ((ds.drop prodAck.index).take (ds.length - prodAck.index)) = _
    rw [← List.length_drop, List.take_length]
    rfl
  written := fun _ _ _ => written_of_buffer?
  kept := h.kept_of_editBuffer hbreak

/-- Opening a stream, with the checks as they are documented. -/
theorem eval_create_bare (ds : List Descriptor) (transfer : Transfer σ) (consAck prodAck : BufferId)
    (t : τ) :
    (create ds transfer consAck prodAck).eval t =
      (if ¬ (1 ≤ ds.length ∧ ds.length ≤ 16) then .error .invalidParameter
      else if ¬ Descriptor.Contiguous ds then .error .invalidBuffer
      else if ¬ (consAck.index < prodAck.index ∧ prodAck.index < ds.length) then
        .error .invalidParameter
      else .ok (Blueprint.bare ⟨ds, transfer, consAck, prodAck⟩), t) := by
  rw [eval_create]
  by_cases hcount : ds.length = 0 ∨ maxBufferCount < ds.length
  · have hcount' : ¬ (1 ≤ ds.length ∧ ds.length ≤ 16) := by
      unfold maxBufferCount at hcount
      omega
    rw [if_pos hcount, if_pos hcount']
  have hcount' : ¬ ¬ (1 ≤ ds.length ∧ ds.length ≤ 16) := by
    unfold maxBufferCount at hcount
    omega
  rw [if_neg hcount, if_neg hcount']
  by_cases hbreak : Descriptor.firstBreak? 0 0 ds ≠ none
  · rw [if_pos hbreak, if_pos fun h => hbreak (Descriptor.contiguous_iff.mp h)]
  have hnone := Decidable.not_not.mp hbreak
  have hcontiguous : ¬ ¬ Descriptor.Contiguous ds :=
    fun h => h (Descriptor.contiguous_iff.mpr hnone)
  rw [if_neg hbreak, if_neg hcontiguous]
  by_cases hack : ds.length ≤ prodAck.index ∨ prodAck.index ≤ consAck.index
  · rw [if_pos hack, if_pos (by omega)]
  · have hsound : Blueprint.Sound ⟨ds, transfer, consAck, prodAck⟩ :=
      ⟨hnone, by dsimp only; omega, by dsimp only; omega⟩
    rw [if_neg hack, if_neg (by omega)]
    rw [show Descriptor.spanOf ds consAck.index prodAck.index = _ from hsound.spanOf_consumer,
      show Descriptor.spanOf ds prodAck.index ds.length = _ from hsound.spanOf_producer]
    rfl

/-- **Opening a stream.** It is opened over one to 16 contiguous descriptors, which are those of a
layout, with the acknowledge registers in order, and is refused otherwise for the first of the
three that is wrong. From then on, whatever happens to it, its buffers are its image cut into
pieces. -/
theorem partitioned_of_create (ds : List Descriptor) (transfer : Transfer σ)
    (consAck prodAck : BufferId) (t : τ) :
    (create ds transfer consAck prodAck).eval t =
      (if ¬ (1 ≤ ds.length ∧ ds.length ≤ 16) then .error .invalidParameter
      else if ¬ Descriptor.Contiguous ds then .error .invalidBuffer
      else if ¬ (consAck.index < prodAck.index ∧ prodAck.index < ds.length) then
        .error .invalidParameter
      else .ok (Blueprint.bare ⟨ds, transfer, consAck, prodAck⟩), t) ∧
    (ds.length ≤ 16 → (Descriptor.Contiguous ds ↔
      ds = Descriptor.layout (ds.map (·.size)) ∧ ∀ d ∈ ds, d.size ≠ 0)) ∧
    ∀ (s : Stream σ) (u : τ) (w : σ) (es : List (Course.Event σ)) (site : Site σ),
      (create ds transfer consAck prodAck).eval t = (.ok s, u) →
      Run Course.Step ⟨s, w⟩ es site → site.stream.Partitioned ds consAck prodAck := by
  refine ⟨eval_create_bare ds transfer consAck prodAck t, ?_, ?_⟩
  · intro hle
    rw [Descriptor.contiguous_iff_from, Descriptor.contiguousFrom_layout (by omega)]
    rfl
  · intro s u w es site hcreate hrun
    obtain ⟨-, hbreak, -, rfl, -⟩ := create_eq_ok.mp hcreate
    refine partitioned_of_shaped (hrun.invariant (I := fun _ site => site.stream.Shaped ds
      (Descriptor.spanOf ds consAck.index prodAck.index)
      (Descriptor.spanOf ds prodAck.index ds.length)) ?_ ?_) hbreak
    · exact ⟨rfl, rfl, rfl, List.length_replicate⟩
    · intro _ _ _ _ hs hstep
      exact hstep.shaped hs

/-- A byte is written into the third of four buffers, and the next transfer answers with it. -/
theorem partitioned_of_create_gated : ∃ (s : Stream Nat) (site : Site Nat),
    (create Course.gated.descriptors Course.gated.transfer ⟨0⟩ ⟨2⟩).eval () = (.ok s, ()) ∧
      Run Course.Step ⟨s, 0⟩ [.edit, .sync] site ∧
      site.stream.Partitioned Course.gated.descriptors ⟨0⟩ ⟨2⟩ ∧
      [0, 1, 2, 3, 4].map (fun i => site.stream.buffer? ⟨i⟩) =
        [some [5, 5], some [5], some [5], some [0, 0], none] := by
  have hcreate : (create Course.gated.descriptors Course.gated.transfer ⟨0⟩ ⟨2⟩).eval () =
      (.ok Course.gated.bare, ()) := rfl
  have hedit : (Site.onStream (editBuffer ⟨2⟩ (Op.write [5]))).eval ⟨Course.gated.bare, 0⟩ =
      (.ok (), Course.gated.laden ⟨[], [], none⟩ ([0, 0, 0, 5, 0, 0], 0)) := rfl
  have hsync : Site.processSync.eval
      (Course.gated.laden ⟨[], [], none⟩ ([0, 0, 0, 5, 0, 0], 0)) =
      (.ok (), Course.gated.laden ⟨[], [], none⟩ ([5, 5, 5, 5, 0, 0], 0)) := rfl
  have hrun : Run Course.Step ⟨Course.gated.bare, 0⟩ [.edit, .sync]
      (Course.gated.laden ⟨[], [], none⟩ ([5, 5, 5, 5, 0, 0], 0)) :=
    (Run.one (.edit hedit)).next (.sync hsync)
  exact ⟨_, _, hcreate, hrun,
    (partitioned_of_create _ _ _ _ ()).2.2 _ _ 0 _ _ hcreate hrun, rfl⟩

end Stream

end SlimInterface
