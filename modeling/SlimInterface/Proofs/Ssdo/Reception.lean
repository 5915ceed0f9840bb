import SlimInterface.Proofs.Ssdo.Offer

/-!
# Reception delivers in order

The endpoint queues frames of the network and offers them to the remote side one by one.
`accepted_eq` says that nothing is lost, doubled, reordered or changed on the way, whatever
order the two sides take their steps in: what was accepted is what was taken, the frame on its
way, the cached one and the queue.

`Inv` says so of the phase of the frame posted last, and `Inv.step` that every step of either
side keeps it.
-/

namespace SlimInterface

variable {υ : Type}

namespace Reception

/-! ## Runs -/

/-- What happens between an endpoint and the remote side of its link. -/
inductive Event
  /-- The application calls the endpoint. -/
  | call (a : Call)
  /-- The remote side looks for a frame. -/
  | look (answer : Except Fault (Option Frame))
  /-- The remote side publishes something else. -/
  | publish

/-- The steps of both sides. What else the remote side publishes leaves the acknowledge as it
is. -/
inductive Step (c : Config) (net : Transport υ) (s : Endpoint (Link × υ)) :
    Event → Endpoint (Link × υ) → Prop
  | call {a : Call} {t : Endpoint (Link × υ)} (h : s.Does net.linked a t) :
      Step c net s (.call a) t
  | look {r : Except Fault (Option Frame)} {l : Link}
      (h : (Link.look c).eval s.world.1 = (r, l)) :
      Step c net s (.look r) (s.setWorld (l, s.world.2))
  | publish {consumer : Bytes} (hlen : consumer.length = s.world.1.consumer.length)
      (hflag : shown c { s.world.1 with consumer } = shown c s.world.1) :
      Step c net s .publish (s.setWorld ({ s.world.1 with consumer }, s.world.2))

/-- A frame the endpoint accepted from the network. -/
def Event.accepted? : Event → Option Bytes
  | .call (.receive p (.ok ())) => some p
  | _ => none

/-- A frame the remote side took. -/
def Event.taken? : Event → Option Bytes
  | .look (.ok (some f)) => some f.payload
  | _ => none

/-- The frames the endpoint accepted, oldest first. -/
def accepted (es : List Event) : List Bytes := es.filterMap Event.accepted?

/-- The frames the remote side took, oldest first. -/
def taken (es : List Event) : List Bytes := es.filterMap Event.taken?

/-- The frame that was posted and not yet taken: it is in the buffer, and the remote side does
not show its number. -/
def inFlight (c : Config) (s : Endpoint (Link × υ)) : Option Bytes :=
  if s.ssdo.rx.outstanding = true ∧ shown c s.world.1 ≠ s.ssdo.rx.seq then
    match Frame.read ((c.span c.ssdoProducer).read s.station.stream.image) with
    | .ok f => some f.payload
    | .error _ => none
  else none

/-! ## Steps -/

variable {c : Config} {app : Surroundings υ} {net : Transport υ} {k k' : Live (Link × υ)}
  {q : Option Bytes}

/-- What holds between the two sides after the events `es`. -/
structure Inv (c : Config) (es : List Event) (k : Live (Link × υ)) : Prop extends
    k.Connected c where
  /-- A frame is cached while it waits to be posted again, and only then. -/
  cached_iff : k.cached.isSome = true ↔ k.rxState = .repostFrame
  /-- Where the accepted frames are. -/
  accounted : ∃ q, Phase (view c k) q ∧
    accepted es = taken es ++ q.toList ++ k.cached.toList ++ k.queue

theorem accepted_append (es : List Event) (e : Event) :
    accepted (es ++ [e]) = accepted es ++ e.accepted?.toList :=
  filterMap_append_one _ es e

theorem taken_append (es : List Event) (e : Event) :
    taken (es ++ [e]) = taken es ++ e.taken?.toList :=
  filterMap_append_one _ es e

theorem inv_initial (hc : c.Accepted) (hout : c.Consumed c.statusOut)
    (hprod : c.Produced c.ssdoProducer) (u : υ) : Inv c [] (Live.initial c (Link.fresh c, u)) := by
  have hzero : Frame.read (List.replicate (c.sizeOf c.ssdoProducer) 0) = .ok ⟨.first, []⟩ := by
    rw [hc.ssdoProducer_size]
    exact Frame.read_replicate
  refine ⟨Live.connected_initial c u, by simp [Live.initial], none, ?_, rfl⟩
  refine .fresh (f := ⟨.first, []⟩) (g := ⟨.first, []⟩) rfl ?_ rfl ?_ rfl ?_ ?_ ?_
  · show Frame.read ((Live.initial c (Link.fresh c, u)).buffer c c.ssdoProducer) = _
    rw [Live.buffer_initial, hzero]
  · show Frame.read ((Link.fresh c).sent c c.ssdoProducer) = _
    rw [Link.sent_fresh hprod, hzero]
  · show ((Link.fresh c).consumed c c.statusOut).flagAt Status.ssdoOffset = _
    rw [Link.consumed_fresh hout, Bytes.flagAt_replicate]
    rfl
  · show ((Live.initial c (Link.fresh c, u)).buffer c c.statusOut).flagAt Status.ssdoOffset = _
    rw [Live.buffer_initial, Bytes.flagAt_replicate]
    rfl
  · simp only [view, Live.initial]
    decide

/-- A step that accepts nothing, takes nothing and moves no frame. -/
theorem Inv.of_view {es : List Event} {e : Event} (h : Inv c es k) (hk : k'.Connected c)
    (hq : ∀ q, Phase (view c k) q → Phase (view c k') q) (hs : k'.rxState = k.rxState)
    (hcached : k'.cached = k.cached) (hqueue : k'.queue = k.queue) (ha : e.accepted? = none)
    (ht : e.taken? = none) : Inv c (es ++ [e]) k' := by
  obtain ⟨q, hphase, hacc⟩ := h.accounted
  refine ⟨hk, ?_, q, hq q hphase, ?_⟩
  · rw [hcached, hs]
    exact h.cached_iff
  · rw [accepted_append, taken_append, ha, ht, hcached, hqueue]
    simpa using hacc

/-- While the channel waits for a frame, none is cached. -/
theorem Inv.cached_eq_none {es : List Event} (h : Inv c es k) (hs : k.rxState = .waitForFrame) :
    k.cached = none := by
  cases hcached : k.cached with
  | none => rfl
  | some p =>
    have hrepost := h.cached_iff.mp (by rw [hcached]; rfl)
    rw [hs] at hrepost
    cases hrepost

/-- A frame is accepted at the end of the queue. -/
theorem Inv.frameStep {es : List Event} {p : Bytes} {r : Except Fault Unit} (h : Inv c es k)
    (hs : Live.FrameStep p k r k') : Inv c (es ++ [.call (.receive p r)]) k' := by
  have hk : k'.Connected c := h.toConnected.frameStep hs
  cases hs with
  | refused f => exact h.of_view hk (fun _ hq => hq) rfl rfl rfl rfl rfl
  | queued =>
    obtain ⟨q, hphase, hacc⟩ := h.accounted
    refine ⟨hk, h.cached_iff, q, hphase, ?_⟩
    rw [accepted_append, taken_append, hacc]
    show _ = taken es ++ [] ++ q.toList ++ k.cached.toList ++ (k.queue ++ [p])
    simp [Event.accepted?]

/-- The receiving side moves frames from the queue into the cache, and on into the buffer once
the frame before was acknowledged. -/
theorem Inv.rxStep {es : List Event} {e : Event} (hc : c.Accepted) (h : Inv c es k)
    (hs : Live.RxStep c k k') (ha : e.accepted? = none) (ht : e.taken? = none) :
    Inv c (es ++ [e]) k' := by
  have hk : k'.Connected c := h.toConnected.rxStep hs
  obtain ⟨q, hphase, hacc⟩ := h.accounted
  cases hs with
  | idle => exact h.of_view hk (fun _ hq => hq) rfl rfl rfl ha ht
  -- the first frame of the queue goes into the buffer
  | @posted p rest hst hq hr =>
    obtain ⟨rfl, hpost⟩ := hphase.post hr p
    refine ⟨hk, by simp [hst], some p, ?_, ?_⟩
    · rw [view_offered hc (h.popped hq) (h.head_fits hq)]
      exact hpost _ rfl
    · rw [accepted_append, taken_append, ha, ht, hacc, hq, h.cached_eq_none hst]
      simp
  -- the one before it was not acknowledged yet: it goes into the cache
  | @postponed p rest hst hq hr =>
    refine ⟨hk, by simp, q, hphase, ?_⟩
    rw [accepted_append, taken_append, ha, ht, hacc, hq, h.cached_eq_none hst]
    simp
  -- the cached frame goes into the buffer
  | reposted hst hr =>
    obtain ⟨p, hcached⟩ : ∃ p, k.cached = some p :=
      Option.isSome_iff_exists.mp (h.cached_iff.mpr hst)
    obtain ⟨rfl, hpost⟩ := hphase.post hr p
    rw [hcached] at hk ⊢
    refine ⟨hk, by simp, some p, ?_, ?_⟩
    · show Phase (view c (k.offered c p)) _
      rw [view_offered hc h.toSound (h.cached_fits p hcached)]
      exact hpost _ rfl
    · rw [accepted_append, taken_append, ha, ht, hacc, hcached]
      simp
  | waiting => exact h.of_view hk (fun _ hq => hq) rfl rfl rfl ha ht

theorem Inv.callStep {es : List Event} {a : Call} (hc : c.Accepted) (hout : c.Consumed c.statusOut)
    (hprod : c.Produced c.ssdoProducer) (h : Inv c es k)
    (hs : Live.CallStep c app.linked net.linked k a k') : Inv c (es ++ [.call a]) k' := by
  cases hs with
  | post hs =>
    have hv := view_entryStep hc hs
    refine h.of_view (h.toConnected.entryStep hs) (fun q hq => by rw [hv]; exact hq) ?_ ?_ ?_ rfl
      rfl
    · cases hs <;> rfl
    · cases hs <;> rfl
    · cases hs <;> rfl
  | receive hs => exact h.frameStep hs
  | sync hs =>
    rcases Live.SyncStep.cases_linked h.toConnected hs with ⟨rfl, u, rfl⟩ | ⟨⟨f, rfl⟩, u, t, rfl⟩
    · refine h.of_view (Live.connected_exchanged h.toConnected) (fun q hq => ?_) rfl rfl rfl rfl rfl
      rw [view_exchanged h.toConnected hc hout hprod]
      exact hq.exchange
    · exact h.of_view (Live.connected_stalled h.toConnected) (fun q hq => hq) rfl rfl rfl rfl rfl
  | round =>
    refine h.of_view h.toConnected.afterPost (fun q hq => ?_) rfl rfl rfl rfl rfl
    rw [view_afterPost hc]
    exact hq.keep
  | @async k1 k2 _ hlog htx hrx =>
    -- the logbook channel and the transmitting side leave the frames alone
    have h1 : Inv c es k1 := by
      obtain ⟨q, hphase, hacc⟩ := h.accounted
      refine ⟨h.toConnected.logStep hlog, ?_, q, ?_, ?_⟩
      · cases hlog <;> exact h.cached_iff
      · rw [view_logStep hlog]
        exact hphase
      · cases hlog <;> exact hacc
    have h2 : Inv c es k2 := by
      obtain ⟨q, hphase, hacc⟩ := h1.accounted
      refine ⟨h1.toConnected.txStep htx, ?_, q, ?_, ?_⟩
      · cases htx <;> exact h1.cached_iff
      · rw [view_txStep htx]
        exact hphase
      · cases htx <;> exact hacc
    exact h2.rxStep hc hrx rfl rfl

/-- The remote side takes the frame on its way, or none. -/
theorem Inv.look {es : List Event} {r : Except Fault (Option Frame)} {l : Link} (hc : c.Accepted)
    (hout : c.Consumed c.statusOut) (hprod : c.Produced c.ssdoProducer) (h : Inv c es k)
    (hl : (Link.look c).eval k.link = (r, l)) : Inv c (es ++ [.look r]) (k.setLink l) := by
  obtain ⟨q, hphase, hacc⟩ := h.accounted
  obtain ⟨g, hg, hcase⟩ := hphase.look
  rcases eval_look hc h.attached hout hprod hg with ⟨he, hlook⟩ | ⟨hne, b, hlen, hlook, hshown⟩
  · rw [hlook] at hl
    cases hl
    exact h.of_view (Live.connected_setLink h.toConnected h.attached) (fun _ hq => hq) rfl rfl rfl
      rfl rfl
  · rw [hlook] at hl
    cases hl
    rcases hcase with he | ⟨-, rfl, hnext⟩
    · exact absurd he hne
    · refine ⟨Live.connected_setLink h.toConnected (h.attached.consumer hlen), h.cached_iff, none,
        ?_, ?_⟩
      · have hview : view c (k.setLink { k.link with consumer := b }) =
            { view c k with shown := g.seq } := by
          rw [← hshown]
          rfl
        rw [hview]
        exact hnext
      · rw [accepted_append, taken_append, hacc]
        simp [Event.accepted?, Event.taken?, Live.setLink]

/-- Every step of either side keeps the frames accounted for. -/
theorem Inv.step {es : List Event} {e : Event} {t : Endpoint (Link × υ)} (hc : c.Accepted)
    (hout : c.Consumed c.statusOut) (hprod : c.Produced c.ssdoProducer) (h : Inv c es k)
    (hs : Step c net (k.endpoint c app.linked) e t) :
    ∃ k', t = k'.endpoint c app.linked ∧ Inv c (es ++ [e]) k' := by
  cases hs with
  | call hd =>
    obtain ⟨k', rfl, hcall⟩ := Live.callStep_of_does hc h.toSound hd
    exact ⟨k', rfl, h.callStep hc hout hprod hcall⟩
  | look hl => exact ⟨_, rfl, h.look hc hout hprod hl⟩
  | @publish consumer hlen hflag =>
    refine ⟨k.setLink { k.link with consumer }, rfl, ?_⟩
    refine h.of_view (Live.connected_setLink h.toConnected (h.attached.consumer hlen))
      (fun q hq => ?_) rfl rfl rfl rfl rfl
    have hview : view c (k.setLink { k.link with consumer }) = view c k := by
      have hshown : shown c (k.setLink { k.link with consumer }).link = shown c k.link := hflag
      unfold view
      rw [hshown]
      rfl
    rw [hview]
    exact hq

theorem inFlight_eq (hphase : Phase (view c k) q) :
    inFlight c (k.endpoint c app.linked) = q := by
  have hshow : inFlight c (k.endpoint c app.linked) =
      if (view c k).outstanding = true ∧ (view c k).shown ≠ (view c k).seq then
        match (view c k).staged with
        | .ok f => some f.payload
        | .error _ => none
      else none := rfl
  rw [hshow]
  cases hphase with
  | fresh ho => rw [if_neg (by rw [ho]; simp)]
  | posted ho hstaged _ _ hshown =>
    rw [if_pos ⟨ho, by rw [hshown]; exact SeqNr.flip_ne _⟩, hstaged]
  | sent ho hstaged _ hshown =>
    rw [if_pos ⟨ho, by rw [hshown]; exact SeqNr.flip_ne _⟩, hstaged]
  | taken _ _ _ hshown => rw [if_neg (fun hn => hn.2 hshown)]

/-- Reception delivers exactly once and in order. The frames the endpoint accepted from the
network are those the remote side took, then the one that is posted but not taken, the cached
one and the queued ones. -/
theorem accepted_eq {u : υ} {l : Link} {e s : Endpoint (Link × υ)} {w : Link × υ} {es : List Event}
    (hlink : (Link.create c : Op Unit Link).eval () = (.ok l, ()))
    (hopen : (Endpoint.create c app.linked.hooks).eval (l, u) = (.ok e, w))
    (hout : c.Consumed c.statusOut) (hprod : c.Produced c.ssdoProducer)
    (hrun : Run (Step c net) e es s) :
    accepted es =
      taken es ++ (inFlight c s).toList ++ s.ssdo.rx.cached.toList ++ s.ssdo.rx.queue := by
  obtain ⟨hc, rfl, rfl, rfl⟩ := (Live.create_linked app).mp ⟨hlink, hopen⟩
  obtain ⟨k, rfl, hinv⟩ : ∃ k, s = k.endpoint c app.linked ∧ Inv c es k := by
    refine hrun.invariant (I := fun es s => ∃ k, s = Live.endpoint c app.linked k ∧ Inv c es k)
      ⟨_, rfl, inv_initial hc hout hprod u⟩ ?_
    intro es _ e t h hs
    obtain ⟨k, rfl, hk⟩ := h
    exact hk.step hc hout hprod hs
  obtain ⟨q, hphase, hacc⟩ := hinv.accounted
  rw [inFlight_eq hphase]
  exact hacc

/-! ## A frame on its way -/

/-- The background loop posts the first frame of the queue once the one before it was
acknowledged. -/
theorem step_posted (app : Surroundings υ) (net : Transport υ) {p : Bytes} {rest : List Bytes}
    (hc : c.Accepted) (h : k.Connected c) (hfree : k.logLocked = false)
    (hs : k.rxState = .waitForFrame) (hq : k.queue = p :: rest) (hr : k.RxReady) :
    ∃ k', (Endpoint.processAsync net.linked).eval (k.endpoint c app.linked) =
        (.ok (), k'.endpoint c app.linked) ∧
      k'.Connected c ∧
      view c k' = { view c k with
        outstanding := true
        seq := k.nextSeq
        staged := .ok ⟨k.nextSeq, p⟩ } := by
  obtain ⟨k1, k2, k3, heval, hlog, htx, hrx⟩ :=
    Live.eval_processAsync app.linked net.linked hc h.toSound
  obtain rfl := Live.LogStep.eq_of_free hlog hfree
  have h2 : k2.Connected c := h.txStep htx
  -- the transmitting side has no part in what the receiving side looks at
  have hqueue : k2.queue = p :: rest := by
    cases htx <;> exact hq
  have hstate : k2.rxState = .waitForFrame := by
    cases htx <;> exact hs
  have hready : k2.RxReady := by
    cases htx <;> exact hr
  have hseq : k2.nextSeq = k1.nextSeq := by
    cases htx <;> rfl
  refine ⟨k3, heval, h2.rxStep hrx, ?_⟩
  cases hrx with
  | idle _ hn => exact absurd (hqueue.symm.trans hn) (by simp)
  | postponed _ _ hn | waiting _ hn => exact absurd hready hn
  | reposted hn => exact absurd (hstate.symm.trans hn) (by simp)
  | @posted p' rest' _ hq' =>
    obtain ⟨rfl, rfl⟩ : p = p' ∧ rest = rest' := by simpa [hqueue] using hq'
    let k4 : Live (Link × υ) := { k2 with queue := rest }
    have hv : view c (k4.offered c p) = { view c k2 with
        outstanding := true
        seq := k2.nextSeq
        staged := .ok ⟨k2.nextSeq, p⟩ } :=
      view_offered hc (h2.popped hq') (h2.head_fits hq')
    rw [hv, hseq, view_txStep htx]

/-- A frame goes from the network to the remote side in one cycle. -/
theorem run_taken (hc : c.Accepted) (hout : c.Consumed c.statusOut)
    (hprod : c.Produced c.ssdoProducer) {p : Bytes} (hp : p.length ≤ Frame.maxPayload) :
    ∃ s, Run (Step c Transport.quiet)
      ((Live.initial c (Link.fresh c, ())).endpoint c Surroundings.quiet.linked)
      [.call (.receive p (.ok ())), .call (.async (.ok ())), .call (.sync (.ok ())),
        .look (.ok (some ⟨.second, p⟩))] s := by
  let k0 : Live (Link × Unit) := Live.initial c (Link.fresh c, ())
  have h0 : k0.Connected c := Live.connected_initial c ()
  obtain ⟨r, k1, hreceive, hs⟩ := Live.eval_receiveFrame c Surroundings.quiet.linked k0 p
  cases hs with
  | refused _ h =>
    -- the queue is empty and the frame is short enough
    rcases h with h | h
    · exact absurd hp (Nat.not_le.mpr h)
    · exact absurd (show receiveDepth ≤ 0 from h) (by decide)
  | queued _ hq =>
    have h1 : (k0.queued p).Connected c := h0.frameStep (.queued hp hq)
    obtain ⟨k2, hasync, h2, hv2⟩ := step_posted Surroundings.quiet Transport.quiet hc h1 rfl rfl
      (show (k0.queued p).queue = [p] from rfl) fun h => by cases h
    have hv3 := view_exchanged h2 hc hout hprod ()
    rw [hv2] at hv3
    have hsent : Frame.read ((k2.exchanged c ()).link.sent c c.ssdoProducer) = .ok ⟨.second, p⟩ :=
      congrArg View.sent hv3
    have hshown : shown c (k2.exchanged c ()).link = .first := by
      refine (congrArg View.shown hv3).trans ?_
      show ((Link.fresh c).consumed c c.statusOut).flagAt Status.ssdoOffset = .first
      rw [Link.consumed_fresh hout, Bytes.flagAt_replicate]
    have hsync := Live.eval_processSync_linked Surroundings.quiet hc h2
      (Op.eval_pure () ()) (Op.eval_pure () ())
    rcases eval_look hc (Live.connected_exchanged h2).attached hout hprod hsent with
      ⟨he, -⟩ | ⟨-, b, -, hlook, -⟩
    · rw [hshown] at he
      cases he
    · have hrun : Run (Step c Transport.quiet) (k0.endpoint c Surroundings.quiet.linked)
          [.call (.receive p (.ok ()))] ((k0.queued p).endpoint c Surroundings.quiet.linked) :=
        .one (.call (.receive hreceive))
      exact ⟨_, ((hrun.next (.call (.async hasync))).next (.call (.sync hsync))).next
        (.look hlook)⟩

theorem accepted_eq_reference :
    let c := Config.reference
    let es : List Event :=
      [.call (.receive [7] (.ok ())), .call (.async (.ok ())), .call (.sync (.ok ())),
        .look (.ok (some ⟨.second, [7]⟩))]
    ∃ e s : Endpoint (Link × Unit),
      (Endpoint.create c Surroundings.quiet.linked.hooks).eval (Link.fresh c, ()) =
        (.ok e, (Link.fresh c, ())) ∧
      Run (Step c Transport.quiet) e es s ∧ taken es = [[7]] ∧
      accepted es =
        taken es ++ (inFlight c s).toList ++ s.ssdo.rx.cached.toList ++ s.ssdo.rx.queue := by
  intro c es
  have hc : c.Accepted := Config.accepted_reference
  have hout : c.Consumed c.statusOut := by decide
  have hprod : c.Produced c.ssdoProducer := by decide
  obtain ⟨hlink, hopen⟩ := (Live.create_linked Surroundings.quiet (u := ())).mpr ⟨hc, rfl, rfl, rfl⟩
  obtain ⟨s, hrun⟩ := run_taken hc hout hprod (p := [7]) (by decide)
  exact ⟨_, s, hopen, hrun, rfl, accepted_eq hlink hopen hout hprod hrun⟩

end Reception

end SlimInterface
