import SlimInterface.Channel.Ssdo.Receive
import SlimInterface.Proofs.Cycle.Opening
import SlimInterface.Proofs.Wire

/-!
# Steps of the receiving side on any stream

The receiving side of a channel may be handed any stream, not only the one it was created on, and
may have any number. A step can then fail in three ways: the acknowledge cannot be looked up, the
stream has no such buffer, or the buffer has no room for the frame. `ProcessStep` lists what a
step can do, and `eval_process` says that it does nothing else. A step that fails has written
nothing.
-/

namespace SlimInterface

variable {ω : Type}

namespace Stream

/-- The frame in a buffer. -/
def frame? {σ : Type} (s : Stream σ) (id : BufferId) : Option Frame :=
  (s.buffer? id).bind fun b => (Frame.read b).toOption

end Stream

/-- Looking up an acknowledge changes nothing. -/
theorem Status.eval_ssdoTxFlag_cases (status : Status) (channel : UInt8) (b : Bench ω) :
    ∃ a, (status.ssdoTxFlag channel).eval b = (a, b) := by
  unfold ssdoTxFlag checkChannel
  by_cases hc : channel.toNat < ssdoChannelCount
  · rw [if_pos hc, Op.eval_bind_ok (Op.eval_pure _ _), Op.eval_bind_ok (Op.eval_read _)]
    exact ⟨_, rfl⟩
  · rw [if_neg hc]
    exact ⟨_, rfl⟩

namespace Receive

variable {p : Bytes} {r : Receive} {s : Station ω}

/-! ## Offering a frame -/

/-- The receiving side once the last posted frame is acknowledged. -/
def freed (r : Receive) : Receive :=
  if r.outstanding then { r with outstanding := false, seq := r.seq.flip } else r

/-- No frame was posted; an acknowledge that has arrived may have been taken note of. -/
def Unposted (r r' : Receive) : Prop := r.outstanding = true ∧ r' = r ∨ r' = r.freed

theorem freed_of_free (h : r.outstanding = false) : r.freed = r := by
  unfold freed
  rw [h]
  rfl

theorem freed_of_outstanding (h : r.outstanding = true) :
    r.freed = { r with outstanding := false, seq := r.seq.flip } := by
  unfold freed
  rw [if_pos h]

theorem Unposted.refl (r : Receive) : r.Unposted r := by
  cases ho : r.outstanding with
  | false => exact .inr (freed_of_free ho).symm
  | true => exact .inl ⟨ho, rfl⟩

theorem outstanding_freed (r : Receive) : r.freed.outstanding = false := by
  cases ho : r.outstanding with
  | false => rw [freed_of_free ho, ho]
  | true => rw [freed_of_outstanding ho]

/-- Taking note of an acknowledge touches nothing the frames are kept in. -/
theorem freed_keeps (r : Receive) :
    r.freed.buffer = r.buffer ∧ r.freed.state = r.state ∧ r.freed.queue = r.queue ∧
      r.freed.cached = r.cached := by
  cases ho : r.outstanding with
  | false =>
    rw [freed_of_free ho]
    exact ⟨rfl, rfl, rfl, rfl⟩
  | true =>
    rw [freed_of_outstanding ho]
    exact ⟨rfl, rfl, rfl, rfl⟩

/-- What offering a frame can do. -/
inductive Offer (p : Bytes) (r : Receive) (s : Station ω) :
    Except Fault Bool → Receive → Station ω → Prop
  | posted {t : Station ω} (hf : t.stream.frame? r.buffer = some ⟨r.freed.seq, p⟩) :
      Offer p r s (.ok true) { r.freed with outstanding := true, cached := none } t
  | busy (ho : r.outstanding = true) : Offer p r s (.ok false) r s
  | failed {e : Fault} {r' : Receive} (hr : r.Unposted r') : Offer p r s (.error e) r' s

theorem eval_ready_cases (r : Receive) (s : Station ω) :
    ready.eval (r, s) = (.ok true, r.freed, s) ∨
      r.outstanding = true ∧
        (ready.eval (r, s) = (.ok false, r, s) ∨ ∃ e, ready.eval (r, s) = (.error e, r, s)) := by
  unfold ready
  rw [Op.eval_bind_ok (Op.eval_read _)]
  dsimp only
  cases ho : r.outstanding with
  | false =>
    rw [freed_of_free ho]
    exact .inl rfl
  | true =>
    rw [if_pos rfl, freed_of_outstanding ho]
    obtain ⟨a, ha⟩ := r.status.eval_ssdoTxFlag_cases r.id s.around
    have hflag : (Op.onSecond (Station.onBench (r.status.ssdoTxFlag r.id))).eval (r, s) =
        (a, r, s) := by
      unfold Station.onBench Site.onAround
      rw [Op.eval_onSecond, Op.eval_within, ha]
    cases a with
    | error e => exact .inr ⟨rfl, .inr ⟨e, Op.eval_bind_error hflag⟩⟩
    | ok acknowledged =>
      rw [Op.eval_bind_ok hflag]
      by_cases hs : acknowledged = r.seq
      · rw [if_pos hs]
        exact .inl rfl
      · rw [if_neg hs]
        exact .inr ⟨rfl, .inl rfl⟩

/-- A frame that fits into a buffer is what the buffer then holds. -/
theorem eval_write_of_room {id : BufferId} {f : Frame} {b : Bytes}
    (hb : s.stream.buffer? id = some b) (hp : f.payload.length ≤ Frame.maxPayload)
    (hroom : Frame.payloadOffset + f.payload.length ≤ b.length) :
    ∃ t : Station ω, (Site.onStream (Stream.editBuffer id f.write)).eval s = (.ok (), t) ∧
      t.stream.frame? id = some f := by
  obtain ⟨d, hd, rfl⟩ := Option.map_eq_some_iff.mp hb
  unfold Site.onStream
  rw [Op.eval_within, Stream.eval_editBuffer hd, Frame.eval_write_of_le hp hroom]
  refine ⟨_, rfl, ?_⟩
  unfold Stream.frame? Stream.buffer?
  show ((s.stream.descriptor? id).map fun d' => d'.span.read (d.span.place
    (f.imprint (d.span.read s.stream.image)) s.stream.image)).bind _ = _
  rw [hd, Option.map_some, Option.bind_some, Span.read_place_of_length Frame.length_imprint,
    Frame.read_imprint_of_le hp hroom]
  rfl

/-- Without a buffer that has room for the frame nothing changes. -/
theorem eval_write_of_no_room {id : BufferId} {f : Frame}
    (h : ∀ b, s.stream.buffer? id = some b →
      ¬ (f.payload.length ≤ Frame.maxPayload ∧
        Frame.payloadOffset + f.payload.length ≤ b.length)) :
    ∃ e, (Site.onStream (Stream.editBuffer id f.write)).eval s = (.error e, s) := by
  unfold Site.onStream
  rw [Op.eval_within]
  cases hd : s.stream.descriptor? id with
  | none =>
    rw [Stream.eval_editBuffer_of_none hd]
    exact ⟨_, rfl⟩
  | some d =>
    rw [Stream.eval_editBuffer hd, Frame.eval_write_of_not (h _ (Stream.buffer?_of_descriptor? hd))]
    dsimp only
    rw [Span.place_read]
    exact ⟨_, rfl⟩

theorem eval_write_cases (id : BufferId) (f : Frame) (s : Station ω) :
    (∃ e, (Site.onStream (Stream.editBuffer id f.write)).eval s = (.error e, s)) ∨
      ∃ t : Station ω, (Site.onStream (Stream.editBuffer id f.write)).eval s = (.ok (), t) ∧
        t.stream.frame? id = some f := by
  by_cases h : ∃ b, s.stream.buffer? id = some b ∧ f.payload.length ≤ Frame.maxPayload ∧
      Frame.payloadOffset + f.payload.length ≤ b.length
  · obtain ⟨b, hb, hp, hroom⟩ := h
    exact .inr (eval_write_of_room hb hp hroom)
  · exact .inl (eval_write_of_no_room fun b hb hroom => h ⟨b, hb, hroom⟩)

/-- A frame is posted if none is outstanding and the stream has room for it. -/
theorem eval_post_of_room {b : Bytes} (ho : r.outstanding = false)
    (hb : s.stream.buffer? r.buffer = some b) (hp : p.length ≤ Frame.maxPayload)
    (hroom : Frame.payloadOffset + p.length ≤ b.length) :
    ∃ t : Station ω, (post p).eval (r, s) =
        (.ok true, { r with outstanding := true, cached := none }, t) ∧
      t.stream.frame? r.buffer = some ⟨r.seq, p⟩ := by
  have hready : ready.eval (r, s) = (.ok true, r, s) := by
    unfold ready
    rw [Op.eval_bind_ok (Op.eval_read _)]
    dsimp only
    rw [if_neg (by rw [ho]; exact Bool.false_ne_true), Op.eval_pure]
  obtain ⟨t, hw, hf⟩ := eval_write_of_room (f := ⟨r.seq, p⟩) hb hp hroom
  refine ⟨t, ?_, hf⟩
  unfold post
  rw [Op.eval_bind_ok hready, if_pos rfl, Op.eval_bind_ok (Op.eval_read _)]
  dsimp only
  rw [Op.eval_bind_ok (Op.eval_onSecond_of hw _)]
  rfl

theorem eval_post (p : Bytes) (r : Receive) (s : Station ω) :
    ∃ a r' t, (post p).eval (r, s) = (a, r', t) ∧ Offer p r s a r' t := by
  unfold post
  rcases eval_ready_cases r s with hready | ⟨ho, hready | ⟨e, hready⟩⟩
  · rw [Op.eval_bind_ok hready, if_pos rfl, Op.eval_bind_ok (Op.eval_read _)]
    dsimp only
    rcases eval_write_cases r.freed.buffer ⟨r.freed.seq, p⟩ s with ⟨e, hw⟩ | ⟨t, hw, hf⟩
    · exact ⟨_, _, _, Op.eval_bind_error (Op.eval_onSecond_of hw _), .failed (.inr rfl)⟩
    · rw [(freed_keeps r).1] at hf
      rw [Op.eval_bind_ok (Op.eval_onSecond_of hw _)]
      exact ⟨_, _, _, rfl, .posted hf⟩
  · rw [Op.eval_bind_ok hready]
    exact ⟨_, _, _, rfl, .busy ho⟩
  · exact ⟨_, _, _, Op.eval_bind_error hready, .failed (.inl ⟨ho, rfl⟩)⟩

/-! ## Steps -/

/-- What one step of the receiving side can do. -/
inductive ProcessStep (r : Receive) (s : Station ω) :
    Except Fault Unit → Receive → Station ω → Prop
  | idle (hs : r.state = .waitForFrame) (hq : r.queue = []) : ProcessStep r s (.ok ()) r s
  | posted {p : Bytes} {rest : List Bytes} {t : Station ω} (hs : r.state = .waitForFrame)
      (hq : r.queue = p :: rest) (hf : t.stream.frame? r.buffer = some ⟨r.freed.seq, p⟩) :
      ProcessStep r s (.ok ())
        { r.freed with queue := rest, outstanding := true, cached := none } t
  | postponed {p : Bytes} {rest : List Bytes} (hs : r.state = .waitForFrame)
      (hq : r.queue = p :: rest) (ho : r.outstanding = true) :
      ProcessStep r s (.ok ()) { r with queue := rest, cached := some p, state := .repostFrame } s
  | stranded {p : Bytes} {rest : List Bytes} {e : Fault} {r' : Receive}
      (hs : r.state = .waitForFrame) (hq : r.queue = p :: rest) (hr : r.Unposted r') :
      ProcessStep r s (.error e) { r' with queue := rest, cached := some p } s
  | reposted {t : Station ω} (hs : r.state = .repostFrame)
      (hf : t.stream.frame? r.buffer = some ⟨r.freed.seq, r.cached.getD []⟩) :
      ProcessStep r s (.ok ())
        { r.freed with state := .waitForFrame, outstanding := true, cached := none } t
  | waiting {a : Except Fault Unit} {r' : Receive} (hs : r.state = .repostFrame)
      (hr : r.Unposted r') : ProcessStep r s a r' s

/-- What a frame is put into does not matter for the number it gets. -/
theorem freed_update (r : Receive) (queue : List Bytes) (cached : Option Bytes) :
    ({ r with queue, cached } : Receive).freed = { r.freed with queue, cached } := by
  unfold freed
  dsimp only
  split
  · rfl
  · rfl

theorem Unposted.keeps {r' : Receive} (h : r.Unposted r') :
    r'.state = r.state ∧ r'.queue = r.queue ∧ r'.cached = r.cached := by
  rcases h with ⟨-, rfl⟩ | rfl
  · exact ⟨rfl, rfl, rfl⟩
  · exact r.freed_keeps.2

theorem Unposted.of_update {queue : List Bytes} {cached : Option Bytes} {r' : Receive}
    (h : ({ r with queue, cached } : Receive).Unposted r') :
    ∃ r'', r.Unposted r'' ∧ r' = { r'' with queue, cached } := by
  rcases h with ⟨ho, rfl⟩ | rfl
  · exact ⟨r, .inl ⟨ho, rfl⟩, rfl⟩
  · exact ⟨r.freed, .inr rfl, freed_update r queue cached⟩

theorem eval_process (r : Receive) (s : Station ω) :
    ∃ a r' t, process.eval (r, s) = (a, r', t) ∧ ProcessStep r s a r' t := by
  unfold process
  rw [Op.eval_bind_ok (Op.eval_read _)]
  dsimp only
  cases hs : r.state with
  | waitForFrame =>
    cases hq : r.queue with
    | nil => exact ⟨_, _, _, rfl, .idle hs hq⟩
    | cons p rest =>
      dsimp only
      rw [Op.eval_bind_ok (Op.eval_onFirst_of (Op.eval_update _ _) _)]
      -- the frame is in the cache while it is offered
      obtain ⟨a, r', t, hpost, ho⟩ := eval_post p { r with queue := rest, cached := some p } s
      cases ho with
      | posted hf =>
        rw [Op.eval_bind_ok hpost]
        rw [freed_update] at hf ⊢
        exact ⟨_, _, _, rfl, .posted hs hq hf⟩
      | busy ho =>
        rw [Op.eval_bind_ok hpost]
        exact ⟨_, _, _, rfl, .postponed hs hq ho⟩
      | failed hr =>
        obtain ⟨r'', hr'', rfl⟩ := hr.of_update
        exact ⟨_, _, _, Op.eval_bind_error hpost, .stranded hs hq hr''⟩
  | repostFrame =>
    dsimp only
    obtain ⟨a, r', t, hpost, ho⟩ := eval_post (r.cached.getD []) r s
    cases ho with
    | posted hf =>
      rw [Op.eval_bind_ok hpost]
      exact ⟨_, _, _, rfl, .reposted hs hf⟩
    | busy ho =>
      rw [Op.eval_bind_ok hpost]
      exact ⟨_, _, _, rfl, .waiting hs (.inl ⟨ho, rfl⟩)⟩
    | failed hr => exact ⟨_, _, _, Op.eval_bind_error hpost, .waiting hs hr⟩

/-- The first frame of the queue is posted if the channel is free and the stream has room. -/
theorem eval_process_of_room {rest : List Bytes} {b : Bytes} (hs : r.state = .waitForFrame)
    (hq : r.queue = p :: rest) (ho : r.outstanding = false)
    (hb : s.stream.buffer? r.buffer = some b) (hp : p.length ≤ Frame.maxPayload)
    (hroom : Frame.payloadOffset + p.length ≤ b.length) :
    ∃ t : Station ω, process.eval (r, s) =
        (.ok (), { r with queue := rest, outstanding := true, cached := none }, t) ∧
      t.stream.frame? r.buffer = some ⟨r.seq, p⟩ := by
  obtain ⟨t, hpost, hf⟩ := eval_post_of_room (r := { r with queue := rest, cached := some p })
    ho hb hp hroom
  refine ⟨t, ?_, hf⟩
  unfold process
  rw [Op.eval_bind_ok (Op.eval_read _)]
  dsimp only
  rw [hs, hq]
  dsimp only
  rw [Op.eval_bind_ok (Op.eval_onFirst_of (Op.eval_update _ _) _), Op.eval_bind_ok hpost,
    if_pos rfl, Op.eval_pure, hs]

/-- So is the cached one. -/
theorem eval_process_reposting {b : Bytes} (hs : r.state = .repostFrame)
    (hc : r.cached = some p) (ho : r.outstanding = false)
    (hb : s.stream.buffer? r.buffer = some b) (hp : p.length ≤ Frame.maxPayload)
    (hroom : Frame.payloadOffset + p.length ≤ b.length) :
    ∃ t : Station ω, process.eval (r, s) =
        (.ok (), { r with state := .waitForFrame, outstanding := true, cached := none }, t) ∧
      t.stream.frame? r.buffer = some ⟨r.seq, p⟩ := by
  obtain ⟨t, hpost, hf⟩ := eval_post_of_room ho hb hp hroom
  refine ⟨t, ?_, hf⟩
  unfold process
  rw [Op.eval_bind_ok (Op.eval_read _)]
  dsimp only
  rw [hs, hc]
  dsimp only [Option.getD_some]
  rw [Op.eval_bind_ok hpost]
  rfl

end Receive

end SlimInterface
