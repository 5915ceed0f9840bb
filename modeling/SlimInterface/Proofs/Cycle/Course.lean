import SlimInterface.Proofs.Cycle.Deeds

/-!
# The course of a stream

From the moment it is opened a stream is registered on, reset, edited and cycled in any order.
Whatever came before, the next half-cycle performs the deeds that the registrations since the last
reset call for, in their order (`performs_halves`). The invariant is that the stream is still the
one that was opened, apart from the image, which keeps its length, and from what was attached to it
since (`Blueprint.laden`).
-/

namespace SlimInterface

variable {σ τ : Type}

/-! ## What the halves of a cycle perform -/

/-- The deeds of a first half with the pre-actions `rs`, and its answer. -/
inductive SyncTrace (rs : List (Registration σ)) : List (Deed σ) → Except Fault Unit → Prop
  | stopped {ds : List (Deed σ)} {e : Fault} (h : Stopped rs ds e) : SyncTrace rs ds (.error e)
  | moved {ds : List (Deed σ)} (hran : AllRan rs ds) (given sent left : Bytes)
      (a : Except Fault Unit) :
      SyncTrace rs (ds ++ [.transfer given sent left a]) (a.mapError fun _ => .transferError)

/-- The deeds of a second half with the post-actions `rs`, and its answer. -/
inductive PostTrace (rs : List (Registration σ)) (onSync : Option (Op σ Unit)) :
    List (Deed σ) → Except Fault Unit → Prop
  | stopped {ds : List (Deed σ)} {e : Fault} (h : Stopped rs ds e) :
      PostTrace rs onSync ds (.error e)
  | called {ds : List (Deed σ)} (hran : AllRan rs ds) (hset : onSync.isSome)
      (a : Except Fault Unit) :
      PostTrace rs onSync (ds ++ [.callback a]) (a.mapError fun _ => .syncCallbackFailed)
  | quiet {ds : List (Deed σ)} (hran : AllRan rs ds) (hunset : onSync = none) :
      PostTrace rs onSync ds (.ok ())

/-- What is attached to a stream. -/
structure Load (σ : Type) where
  pre : List (Registration σ)
  post : List (Registration σ)
  onSync : Option (Op σ Unit)

namespace Blueprint

/-- Everything in the load can be attached. -/
structure Carries (b : Blueprint σ) (l : Load σ) : Prop where
  pre : ∀ r ∈ l.pre, b.Attached r
  post : ∀ r ∈ l.post, b.Attached r

/-- Started at `s`, the operation answers `a` and leaves `t`; what it did are the deeds `ds`, and
no byte changed that none of them may change. -/
structure Performs (b : Blueprint σ) (onSync : Option (Op σ Unit)) (op : Op (Site σ) Unit)
    (s : Site σ) (ds : List (Deed σ)) (a : Except Fault Unit) (t : Site σ) : Prop where
  eval : op.eval s = (a, t)
  stream : t.stream = { s.stream with image := t.stream.image }
  deeds : Run (b.Does onSync) (s.stream.image, s.around) ds (t.stream.image, t.around)
  untouched : ∀ i, (∀ d ∈ ds, ¬ b.Touches d i) → t.stream.image[i]? = s.stream.image[i]?

/-- The stream with a load on it and an image in it, and what lies around it. -/
def laden (b : Blueprint σ) (l : Load σ) (p : Bytes × σ) : Site σ where
  stream := { b.bare with image := p.1, pre := l.pre, post := l.post, onSync := l.onSync }
  around := p.2

variable {b : Blueprint σ} {l : Load σ} {p q : Bytes × σ} {ds : List (Deed σ)}
  {a : Except Fault Unit}

theorem eval_onImage {op : Op (Bytes × σ) Unit} (h : op.eval p = (a, q)) :
    (Site.onImage op).eval (b.laden l p) = (a, b.laden l q) := by
  show ((op.eval p).1, b.laden l (op.eval p).2) = _
  rw [h]

/-- Deeds that account for what an operation does to the image and around the stream. -/
theorem performs_of_run {op : Op (Site σ) Unit}
    (heval : op.eval (b.laden l p) = (a, b.laden l q)) (hrun : Run (b.Does l.onSync) p ds q) :
    b.Performs l.onSync op (b.laden l p) ds a (b.laden l q) where
  eval := heval
  stream := rfl
  deeds := hrun
  untouched := fun _ hi => getElem?_eq_of_run hrun hi

/-- The producer part is the rest of the image. -/
theorem read_producer {image : Bytes} (hl : image.length = b.total) :
    b.producer.read image = image.drop (b.offset b.prodAck) := by
  unfold Span.read producer
  rw [← hl, ← List.length_drop, List.take_length]

theorem Sound.fits_consumer (h : b.Sound) {image : Bytes} (hl : image.length = b.total) :
    b.consumer.Fits image := by
  have hle := h.offset_le
  show b.offset b.consAck + (b.offset b.prodAck - b.offset b.consAck) ≤ image.length
  omega

/-- The transfer is given the two parts of the image, once. -/
theorem Sound.eval_move (h : b.Sound) (hmove : ∀ sent, (b.transfer sent).KeepsLength)
    (l : Load σ) (hp : p.1.length = b.total) :
    ∃ left a q, Site.move.eval (b.laden l p) =
        (a.mapError fun _ => .transferError, b.laden l q) ∧
      b.Does l.onSync p
        (.transfer (b.consumer.read p.1) (p.1.drop (b.offset b.prodAck)) left a) q := by
  have hfit := h.fits_consumer hp
  rcases hcall : (b.transfer (p.1.drop (b.offset b.prodAck))).eval
    (b.consumer.read p.1, p.2) with ⟨a, left, w⟩
  have hlen : left.length = b.consumer.size := by
    have hkept := hmove (p.1.drop (b.offset b.prodAck)) (b.consumer.read p.1) p.2
    rw [hcall, Span.length_read hfit] at hkept
    exact hkept
  refine ⟨left, a, (b.consumer.place left p.1, w), ?_,
    .transfer hcall (Span.replaced_place hlen hfit)⟩
  unfold Site.move
  rw [Op.eval_bind_ok (Op.eval_read _)]
  apply eval_onImage
  show (Op.reporting _ _ ((b.transfer (b.producer.read p.1)).within
    (fun p => (b.consumer.read p.1, p.2)) fun q p => (b.consumer.place q.1 p.1, q.2))).eval p = _
  rw [read_producer hp, Op.eval_reporting, Op.eval_within, hcall]

/-- The first half runs the pre-actions and, if all of them succeed, the transfer. -/
theorem Sound.performs_processSync (h : b.Sound) (hmove : ∀ sent, (b.transfer sent).KeepsLength)
    (hpre : ∀ r ∈ l.pre, b.Attached r) (hp : p.1.length = b.total) :
    ∃ ds a q, b.Performs l.onSync Site.processSync (b.laden l p) ds a (b.laden l q) ∧
      SyncTrace l.pre ds a := by
  obtain ⟨a, ds, q, heval, hrun, hcase⟩ := h.eval_runActions .pre l.onSync hpre hp
  have himage := eval_onImage (b := b) (l := l) heval
  rcases hcase with ⟨rfl, hran⟩ | ⟨e, rfl, hstop⟩
  · obtain ⟨left, a, t, hmoved, hdoes⟩ := h.eval_move hmove l ((length_eq_of_run hrun).trans hp)
    refine ⟨_, _, t, performs_of_run ?_ (.next hrun hdoes), .moved hran ..⟩
    unfold Site.processSync
    rw [Op.eval_bind_ok (Op.eval_read _)]
    exact (Op.eval_bind_ok himage).trans hmoved
  · refine ⟨ds, _, q, performs_of_run ?_ hrun, .stopped hstop⟩
    unfold Site.processSync
    rw [Op.eval_bind_ok (Op.eval_read _)]
    exact Op.eval_bind_error himage

/-- The callback is called once, if there is one. -/
theorem eval_callback {op : Op σ Unit} {w : σ} (hcall : op.eval p.2 = (a, w))
    (describe : Fault → Line) :
    (Site.onAround (Op.reporting describe (fun _ => .syncCallbackFailed) op)).eval (b.laden l p) =
      (a.mapError fun _ => .syncCallbackFailed, b.laden l (p.1, w)) := by
  rw [Site.onAround, Op.eval_within, Op.eval_reporting]
  show (Except.mapError _ (op.eval p.2).1, b.laden l (p.1, (op.eval p.2).2)) = _
  rw [hcall]

/-- The second half runs the post-actions and, if all of them succeed, the callback. -/
theorem Sound.performs_processPost (h : b.Sound) (hpost : ∀ r ∈ l.post, b.Attached r)
    (hp : p.1.length = b.total) :
    ∃ ds a q, b.Performs l.onSync Site.processPost (b.laden l p) ds a (b.laden l q) ∧
      PostTrace l.post l.onSync ds a := by
  obtain ⟨a, ds, q, heval, hrun, hcase⟩ := h.eval_runActions .post l.onSync hpost hp
  have himage := eval_onImage (b := b) (l := l) heval
  rcases hcase with ⟨rfl, hran⟩ | ⟨e, rfl, hstop⟩
  · cases hset : l.onSync with
    | none =>
      rw [← hset]
      refine ⟨ds, _, q, performs_of_run ?_ hrun, .quiet hran hset⟩
      unfold Site.processPost
      rw [Op.eval_bind_ok (Op.eval_read _)]
      refine (Op.eval_bind_ok himage).trans ?_
      rw [show (b.laden l p).stream.onSync = none from hset]
      rfl
    | some op =>
      rcases hcall : op.eval q.2 with ⟨a, w⟩
      rw [← hset]
      refine ⟨_, _, (q.1, w), performs_of_run ?_ (.next hrun (.callback hset hcall)),
        .called hran (by rw [hset]; rfl) a⟩
      unfold Site.processPost
      rw [Op.eval_bind_ok (Op.eval_read _)]
      refine (Op.eval_bind_ok himage).trans ?_
      rw [show (b.laden l p).stream.onSync = some op from hset]
      exact eval_callback hcall _
  · refine ⟨ds, _, q, performs_of_run ?_ hrun, .stopped hstop⟩
    unfold Site.processPost
    rw [Op.eval_bind_ok (Op.eval_read _)]
    exact Op.eval_bind_error himage

end Blueprint

/-! ## What happens to a stream -/

namespace Course

/-- What can happen to an open stream. -/
inductive Event (σ : Type)
  | register (kind : ActionKind) (r : Registration σ) (answer : Except Fault Unit)
  | callback (op : Op σ Unit)
  | reset
  | sync
  | post
  /-- The bytes of a buffer are worked on between the cycles. -/
  | edit
  /-- Something happens around the stream. -/
  | elsewhere

/-- What is attached after an event. -/
def Event.load (l : Load σ) : Event σ → Load σ
  | .register .pre r (.ok ()) => { l with pre := l.pre ++ [r] }
  | .register .post r (.ok ()) => { l with post := l.post ++ [r] }
  | .callback op => { l with onSync := some op }
  | .reset => ⟨[], [], none⟩
  | _ => l

/-- What the events attached: the accepted registrations since the last reset, in their order, and
the latest callback. -/
def attached (es : List (Event σ)) : Load σ := es.foldl Event.load ⟨[], [], none⟩

theorem carries_empty (b : Blueprint σ) : b.Carries ⟨[], [], none⟩ :=
  ⟨fun _ h => absurd h List.not_mem_nil, fun _ h => absurd h List.not_mem_nil⟩

theorem carries_register {b : Blueprint σ} {l : Load σ} {r : Registration σ} (h : b.Carries l)
    (kind : ActionKind) (hr : b.Attached r) :
    b.Carries (Event.load l (.register kind r (.ok ()))) := by
  cases kind with
  | pre => exact ⟨List.forall_mem_append.mpr ⟨h.pre, List.forall_mem_singleton.mpr hr⟩, h.post⟩
  | post => exact ⟨h.pre, List.forall_mem_append.mpr ⟨h.post, List.forall_mem_singleton.mpr hr⟩⟩

/-- One event. Every action keeps the length of its buffer; it may do anything else, and it may
fail at any call. -/
inductive Step (s : Site σ) : Event σ → Site σ → Prop
  | register {kind : ActionKind} {r : Registration σ} {a : Except Fault Unit} {t : Site σ}
      (hk : r.act.KeepsLength)
      (h : (Site.onStream (Stream.register kind r.buffer r.act)).eval s = (a, t)) :
      Step s (.register kind r a) t
  | callback (op : Op σ Unit) :
      Step s (.callback op) { s with stream := s.stream.setSyncCallback op }
  | reset {a : Except Fault Unit} {t : Site σ}
      (h : (Site.onStream Stream.reset).eval s = (a, t)) : Step s .reset t
  | sync {a : Except Fault Unit} {t : Site σ} (h : Site.processSync.eval s = (a, t)) :
      Step s .sync t
  | post {a : Except Fault Unit} {t : Site σ} (h : Site.processPost.eval s = (a, t)) :
      Step s .post t
  | edit {id : BufferId} {op : Op Bytes Unit} {a : Except Fault Unit} {t : Site σ}
      (h : (Site.onStream (Stream.editBuffer id op)).eval s = (a, t)) : Step s .edit t
  | elsewhere (w : σ) : Step s .elsewhere { s with around := w }

theorem attached_append (es : List (Event σ)) (e : Event σ) :
    attached (es ++ [e]) = e.load (attached es) := by
  unfold attached
  rw [List.foldl_append]
  rfl

variable {b : Blueprint σ} {l : Load σ} {p : Bytes × σ} {es : List (Event σ)} {e : Event σ}
  {s t : Site σ}

/-- A registration is refused, or it comes last among those of its kind. -/
theorem eval_register (b : Blueprint σ) (l : Load σ) (p : Bytes × σ) (kind : ActionKind)
    (r : Registration σ) :
    (∃ e, (Site.onStream (Stream.register kind r.buffer r.act)).eval (b.laden l p) =
      (.error e, b.laden l p)) ∨
    (∃ d, b.descriptors[r.buffer.index]? = some d) ∧
      (Site.onStream (Stream.register kind r.buffer r.act)).eval (b.laden l p) =
        (.ok (), b.laden (Event.load l (.register kind r (.ok ()))) p) := by
  rw [Site.onStream, Op.eval_within, Stream.eval_register]
  by_cases hbuffer : (b.laden l p).stream.descriptor? r.buffer = none
  · rw [if_pos hbuffer]
    exact .inl ⟨_, rfl⟩
  rw [if_neg hbuffer]
  by_cases hslot : (b.laden l p).stream.descriptors.length ≤
      ((b.laden l p).stream.actions kind).length
  · rw [if_pos hslot]
    exact .inl ⟨_, rfl⟩
  rw [if_neg hslot]
  refine .inr ⟨Option.ne_none_iff_exists'.mp hbuffer, ?_⟩
  cases kind with
  | pre => rfl
  | post => rfl

/-- Working on a buffer changes bytes of the image, and not how many there are. -/
theorem eval_editBuffer (b : Blueprint σ) (l : Load σ) (p : Bytes × σ) (id : BufferId)
    (op : Op Bytes Unit) :
    ∃ a image, (Site.onStream (Stream.editBuffer id op)).eval (b.laden l p) =
      (a, b.laden l (image, p.2)) ∧ image.length = p.1.length := by
  obtain ⟨a, image, hedit, hlen⟩ := Stream.eval_editBuffer_image id op (b.laden l p).stream
  exact ⟨a, image, Op.eval_within_of hedit, hlen⟩

/-- One event leaves the stream that was opened, with one more thing attached to it or not. -/
theorem Step.eq_laden (hsound : b.Sound) (hmove : ∀ sent, (b.transfer sent).KeepsLength)
    (hl : b.Carries l) (hp : p.1.length = b.total) (h : Step (b.laden l p) e t) :
    b.Carries (e.load l) ∧ ∃ q, t = b.laden (e.load l) q ∧ q.1.length = b.total := by
  cases h with
  | @register kind r a _ hk h =>
    rcases eval_register b l p kind r with ⟨f, hrefused⟩ | ⟨hbuffer, haccepted⟩
    · cases hrefused.symm.trans h
      cases kind <;> exact ⟨hl, p, rfl, hp⟩
    · cases haccepted.symm.trans h
      exact ⟨carries_register hl kind ⟨hbuffer, hk⟩, p, rfl, hp⟩
  | callback op => exact ⟨⟨hl.pre, hl.post⟩, p, rfl, hp⟩
  | reset h =>
    cases h
    exact ⟨carries_empty b, p, rfl, hp⟩
  | sync h =>
    obtain ⟨ds, a, q, hperf, -⟩ := hsound.performs_processSync hmove hl.pre hp
    cases hperf.eval.symm.trans h
    exact ⟨hl, q, rfl, (Blueprint.length_eq_of_run hperf.deeds).trans hp⟩
  | post h =>
    obtain ⟨ds, a, q, hperf, -⟩ := hsound.performs_processPost hl.post hp
    cases hperf.eval.symm.trans h
    exact ⟨hl, q, rfl, (Blueprint.length_eq_of_run hperf.deeds).trans hp⟩
  | edit h =>
    obtain ⟨a, image, hedit, hlen⟩ := eval_editBuffer b l p _ _
    cases hedit.symm.trans h
    exact ⟨hl, (image, p.2), rfl, hlen.trans hp⟩
  | elsewhere w => exact ⟨hl, (p.1, w), rfl, hp⟩

/-- After any events the stream is the one that was opened, with what they attached to it. -/
theorem run_laden (hsound : b.Sound) (hmove : ∀ sent, (b.transfer sent).KeepsLength) {w : σ}
    (h : Run Step ⟨b.bare, w⟩ es s) :
    b.Carries (attached es) ∧ ∃ p, s = b.laden (attached es) p ∧ p.1.length = b.total := by
  refine h.invariant (I := fun es s => b.Carries (attached es) ∧
    ∃ p, s = b.laden (attached es) p ∧ p.1.length = b.total) ?_ ?_
  · exact ⟨carries_empty b, (b.bare.image, w), rfl, List.length_replicate⟩
  · rintro es _ e t ⟨hl, p, rfl, hp⟩ hs
    rw [attached_append]
    exact hs.eq_laden hsound hmove hl hp

/-- **The two halves of a cycle.** A stream that was opened and then used in any way performs, in
its first half, the pre-actions attached to it and the transfer and, in its second half, the
post-actions and the callback; it stops at the first action that fails. -/
theorem performs_halves {s : Stream σ} {t : Site σ} {u v : τ} {w : σ}
    (hcreate : (Stream.create b.descriptors b.transfer b.consAck b.prodAck).eval u = (.ok s, v))
    (hmove : ∀ sent, (b.transfer sent).KeepsLength) (hrun : Run Step ⟨s, w⟩ es t) :
    (∃ ds a next, b.Performs (attached es).onSync Site.processSync t ds a next ∧
      SyncTrace (attached es).pre ds a) ∧
    ∃ ds a next, b.Performs (attached es).onSync Site.processPost t ds a next ∧
      PostTrace (attached es).post (attached es).onSync ds a := by
  obtain ⟨hsound, rfl⟩ := Blueprint.eq_bare_of_create hcreate
  obtain ⟨hl, p, rfl, hp⟩ := run_laden hsound hmove hrun
  obtain ⟨ds, a, q, hsync⟩ := hsound.performs_processSync hmove hl.pre hp
  obtain ⟨ds', a', q', hpost⟩ := hsound.performs_processPost hl.post hp
  exact ⟨⟨ds, a, _, hsync⟩, ds', a', _, hpost⟩

/-! ## A gate that opens after two cycles -/

/-- The first two of four buffers are the consumer part. The transfer fills it with the first byte
it is sent. -/
def gated : Blueprint Nat where
  descriptors := Descriptor.layout [2, 1, 1, 2]
  transfer sent := Op.update fun p => (p.1.map fun _ => sent.headD 0, p.2)
  consAck := ⟨0⟩
  prodAck := ⟨2⟩

/-- Adds one to every byte, and to the number of calls. -/
def bump : Action Nat := Op.update fun p => (p.1.map (· + 1), p.2 + 1)

/-- Fails until two calls were counted. -/
def gate : Op (Bytes × Nat) Unit := do
  let p ← Op.read
  if p.2 < 2 then Op.fail .actionFailed

/-- In the first cycle the gate ends the pre-actions, and neither the action after it nor the
transfer happens; in the second one all of them do. The gate among the post-actions is still closed
in between, so the callback is not called. -/
theorem performs_halves_gated :
    let es : List (Event Nat) := [.register .pre ⟨⟨0⟩, bump⟩ (.ok ()),
      .register .pre ⟨⟨2⟩, gate⟩ (.ok ()), .register .pre ⟨⟨3⟩, bump⟩ (.ok ()),
      .register .post ⟨⟨3⟩, gate⟩ (.ok ()), .callback (Op.update (· + 1)), .sync]
    ∃ t, Run Step ⟨gated.bare, 0⟩ es t ∧ t.stream.image = [1, 1, 0, 0, 0, 0] ∧
      (∃ ds next, gated.Performs (attached es).onSync Site.processSync t ds (.ok ()) next ∧
        SyncTrace (attached es).pre ds (.ok ()) ∧ next.stream.image = [0, 0, 0, 0, 1, 1]) ∧
      ∃ ds next, gated.Performs (attached es).onSync Site.processPost t ds
          (.error .actionFailed) next ∧
        PostTrace (attached es).post (attached es).onSync ds (.error .actionFailed) := by
  intro es
  have hcreate : (Stream.create gated.descriptors gated.transfer gated.consAck
      gated.prodAck).eval () = (.ok gated.bare, ()) := rfl
  have hmove : ∀ sent, (gated.transfer sent).KeepsLength := fun _ _ _ => List.length_map _
  have hbump : bump.KeepsLength := fun _ _ => List.length_map _
  have hgate : gate.KeepsLength := by
    intro image calls
    unfold gate
    rw [Op.eval_bind_ok (Op.eval_read _)]
    by_cases h : calls < 2
    · rw [if_pos h, Op.eval_fail]
    · rw [if_neg h, Op.eval_pure]
  have hfirst : Site.processSync.eval (gated.laden (attached es) (gated.bare.image, 0)) =
      (.error .actionFailed, gated.laden (attached es) ([1, 1, 0, 0, 0, 0], 1)) := rfl
  have hrun : Run Step ⟨gated.bare, 0⟩ es (gated.laden (attached es) ([1, 1, 0, 0, 0, 0], 1)) :=
    (((((Run.one (.register hbump rfl)).next (.register hgate rfl)).next
      (.register hbump rfl)).next (.register hgate rfl)).next (.callback _)).next (.sync hfirst)
  obtain ⟨⟨ds, a, next, hsync, htrace⟩, ds', a', next', hpost, htrace'⟩ :=
    performs_halves hcreate hmove hrun
  have hopen : Site.processSync.eval (gated.laden (attached es) ([1, 1, 0, 0, 0, 0], 1)) =
      (.ok (), gated.laden (attached es) ([0, 0, 0, 0, 1, 1], 3)) := by
    have hpre : (Site.onImage (Stream.runActions .pre gated.descriptors (attached es).pre)).eval
        (gated.laden (attached es) ([1, 1, 0, 0, 0, 0], 1)) =
        (.ok (), gated.laden (attached es) ([2, 2, 0, 0, 1, 1], 3)) := by rfl
    unfold Site.processSync
    rw [Op.eval_bind_ok (Op.eval_read _)]
    exact (Op.eval_bind_ok hpre).trans (by rfl)
  have hclosed : Site.processPost.eval (gated.laden (attached es) ([1, 1, 0, 0, 0, 0], 1)) =
      (.error .actionFailed, gated.laden (attached es) ([1, 1, 0, 0, 0, 0], 1)) := rfl
  cases hsync.eval.symm.trans hopen
  cases hpost.eval.symm.trans hclosed
  exact ⟨_, hrun, rfl, ⟨ds, _, hsync, htrace, rfl⟩, ds', _, hpost, htrace'⟩

end Course

end SlimInterface
