import SlimInterface.Proofs.Ssdo.Handover

/-!
# Transmission acknowledges in order

The remote side publishes frames with alternating numbers, the next one only after it has
seen the last one acknowledged. The endpoint hands each frame to the network and acknowledges
it. `acknowledged_in_order` says that whatever the network answers, the acknowledged frames
are the published ones, except that the last may be missing; that only the frame that is due
is ever sent; and that it is acknowledged only after the network accepted and finished it.

`Inv` ties the phase of the frame published last to the trace; every step of either side keeps
it and is `Orderly` (`Inv.step`). `run_acknowledged` is a run in which a frame goes all the way.
-/

namespace SlimInterface

variable {υ : Type}

namespace Transmission

/-! ## Runs -/

/-- What happens between an endpoint and the remote side of its link. -/
inductive Event
  /-- The application calls the endpoint, which calls the network and may acknowledge a frame. -/
  | call (a : Call) (calls : List NetCall) (acknowledged : Option Frame)
  /-- The remote side publishes a frame. -/
  | publish (f : Frame)
  /-- The remote side publishes something else. -/
  | other

/-- The endpoint, and the number of the frame the remote side published last. -/
structure Sides (υ : Type) where
  endpoint : Endpoint (Link × List NetCall × υ)
  last : Option SeqNr

/-- The calls of the network that a call of the endpoint made. -/
def callsOf (a : Call) (s t : Endpoint (Link × List NetCall × υ)) : List NetCall :=
  match a with
  | .async _ => t.world.2.1.drop s.world.2.1.length
  | _ => []

/-- The frame that a call of the endpoint acknowledged: the transmitting side left
`txFinished`. -/
def acknowledgedBy (s t : Endpoint (Link × List NetCall × υ)) : Option Frame :=
  if s.ssdo.tx.state = .txFinished ∧ t.ssdo.tx.state ≠ .txFinished then
    some ⟨s.ssdo.tx.pending, s.ssdo.tx.payload⟩
  else none

theorem acknowledgedBy_eq_none {s t : Endpoint (Link × List NetCall × υ)}
    (h : t.ssdo.tx.state = s.ssdo.tx.state) : acknowledgedBy s t = none :=
  if_neg fun hn => hn.2 (h.trans hn.1)

/-- The steps of both sides. The network hands over no frame here, and what else the remote
side publishes leaves the buffer of its frames as it is. -/
inductive Step (c : Config) (net : Transport υ) (s : Sides υ) : Event → Sides υ → Prop
  | call {a : Call} {t : Endpoint (Link × List NetCall × υ)}
      (h : s.endpoint.Does net.recorded.linked a t) (ha : ∀ p r, a ≠ .receive p r) :
      Step c net s (.call a (callsOf a s.endpoint t) (acknowledgedBy s.endpoint t)) ⟨t, s.last⟩
  | publish {f : Frame} {off : Nat} {b : Bytes} {l : Link} (hseq : f.seq = nextSeq s.last)
      (hlast : ∀ q, s.last = some q →
        ∃ status, s.endpoint.world.1.produced c.statusIn = .ok status ∧
          status.flagAt Status.ssdoRxOffset = q)
      (hl : (Link.publish c.ssdoConsumer off b).eval s.endpoint.world.1 = (.ok (), l))
      (hf : Frame.read (l.consumed c c.ssdoConsumer) = .ok f) :
      Step c net s (.publish f) ⟨s.endpoint.setWorld (l, s.endpoint.world.2), some f.seq⟩
  | other {consumer : Bytes} (hlen : consumer.length = s.endpoint.world.1.consumer.length)
      (hsame : ({ s.endpoint.world.1 with consumer } : Link).consumed c c.ssdoConsumer =
        s.endpoint.world.1.consumed c c.ssdoConsumer) :
      Step c net s .other
        ⟨s.endpoint.setWorld ({ s.endpoint.world.1 with consumer }, s.endpoint.world.2), s.last⟩

/-- A frame the remote side published. -/
def Event.published? : Event → Option Frame
  | .publish f => some f
  | _ => none

/-- A frame the endpoint acknowledged. -/
def Event.acknowledged? : Event → Option Frame
  | .call _ _ acknowledged => acknowledged
  | _ => none

/-- The frames the remote side published, oldest first. -/
def published (es : List Event) : List Frame := es.filterMap Event.published?

/-- The frames the endpoint acknowledged, oldest first. -/
def acknowledged (es : List Event) : List Frame := es.filterMap Event.acknowledged?

/-- The calls of the network that belong to an event. -/
def Event.calls : Event → List NetCall
  | .call _ calls _ => calls
  | _ => []

/-- The calls of the network since the last acknowledge. -/
def callsSince (es : List Event) : List NetCall :=
  es.foldl (fun calls e => if e.acknowledged?.isSome then [] else calls ++ e.calls) []

/-- What an event may do after the events `past`: only the frame that is due is sent, and it is
acknowledged only after the network finished it. -/
structure Orderly (past : List Event) (e : Event) : Prop where
  sent : ∀ id p r, .send id p r ∈ e.calls →
    ∃ f, published past = acknowledged past ++ [f] ∧ p = f.payload
  finished : ∀ f, e.acknowledged? = some f →
    published past = acknowledged past ++ [f] ∧ Finished f.payload (callsSince past)

/-! ## Steps -/

variable {c : Config} {net : Transport υ} {last : Option SeqNr}
  {app : Surroundings (List NetCall × υ)} {k k' : Live (Link × List NetCall × υ)}
  {es : List Event}

/-- Nothing is acknowledged before it is finished. -/
theorem acknowledgedBy_of_ne {t : Endpoint (Link × List NetCall × υ)}
    (h : k.txState ≠ .txFinished) : acknowledgedBy (k.endpoint c app.linked) t = none :=
  if_neg fun hn => h hn.1

theorem published_append (es : List Event) (e : Event) :
    published (es ++ [e]) = published es ++ e.published?.toList :=
  filterMap_append_one _ es e

theorem acknowledged_append (es : List Event) (e : Event) :
    acknowledged (es ++ [e]) = acknowledged es ++ e.acknowledged?.toList :=
  filterMap_append_one _ es e

theorem callsSince_append (es : List Event) (e : Event) :
    callsSince (es ++ [e]) =
      if e.acknowledged?.isSome then [] else callsSince es ++ e.calls := by
  unfold callsSince
  rw [List.foldl_append]
  rfl

/-- What holds between the two sides after the events `es`. -/
structure Inv (c : Config) (es : List Event) (last : Option SeqNr)
    (k : Live (Link × List NetCall × υ)) : Prop extends k.Connected c where
  /-- No frame of the network waits for the remote side. -/
  idle : k.rxState = .waitForFrame ∧ k.queue = []
  /-- Where the published frames are. -/
  accounted : ∃ q, Phase (view c k) last (callsSince es) q ∧
    published es = acknowledged es ++ q.toList

theorem inv_initial (hc : c.Accepted) (hin : c.Consumed c.ssdoConsumer)
    (hack : c.Produced c.statusIn) (u : List NetCall × υ) :
    Inv c [] none (Live.initial c (Link.fresh c, u)) := by
  have hzero : Frame.read (List.replicate (c.sizeOf c.ssdoConsumer) 0) = .ok ⟨.first, []⟩ := by
    rw [hc.ssdoConsumer_size]
    exact Frame.read_replicate
  have hseen : (view c (Live.initial c (Link.fresh c, u))).seen = .first := by
    show ((Link.fresh c).sent c c.statusIn).flagAt Status.ssdoRxOffset = .first
    rw [Link.sent_fresh hack, Bytes.flagAt_replicate]
  have hout : (view c (Live.initial c (Link.fresh c, u))).out = .first := by
    show ((Live.initial c (Link.fresh c, u)).buffer c c.statusIn).flagAt _ = .first
    rw [Live.buffer_initial, Bytes.flagAt_replicate]
  refine ⟨Live.connected_initial c u, ⟨rfl, rfl⟩, none, ?_, rfl⟩
  refine .settled (f := ⟨.first, []⟩) (g := ⟨.first, []⟩) rfl ?_ rfl ?_ rfl ?_ (fun _ => hout)
    (.inr ⟨rfl, rfl, hseen⟩)
  · show Frame.read ((Link.fresh c).consumed c c.ssdoConsumer) = _
    rw [Link.consumed_fresh hin, hzero]
  · show Frame.read ((Live.initial c (Link.fresh c, u)).buffer c c.ssdoConsumer) = _
    rw [Live.buffer_initial, hzero]
  · simp only [view, Live.initial]
    decide

/-- A step that moves no frame and does not reach the network. -/
theorem Inv.of_phase {e : Event} (h : Inv c es last k) (hk : k'.Connected c)
    (hq : ∀ q, Phase (view c k) last (callsSince es) q → Phase (view c k') last (callsSince es) q)
    (hidle : k'.rxState = .waitForFrame ∧ k'.queue = []) (hpublished : e.published? = none)
    (hacknowledged : e.acknowledged? = none) (hcalls : e.calls = []) :
    Inv c (es ++ [e]) last k' ∧ Orderly es e := by
  obtain ⟨q, hphase, hacc⟩ := h.accounted
  refine ⟨⟨hk, hidle, q, ?_, ?_⟩, ?_, ?_⟩
  · rw [callsSince_append, hacknowledged, hcalls, List.append_nil]
    exact hq q hphase
  · rw [published_append, acknowledged_append, hpublished, hacknowledged]
    simpa using hacc
  · intro id p r hmem
    rw [hcalls] at hmem
    exact absurd hmem List.not_mem_nil
  · intro f hf
    rw [hacknowledged] at hf
    cases hf

/-- The transmitting side makes a move. It acknowledges the frame that is due if it has just
finished it, and at no other time. -/
theorem Inv.txStep (app : Surroundings (List NetCall × υ)) {a : Call} (h : Inv c es last k)
    (hs : Live.TxStep c net.recorded.linked k k') :
    ∃ calls, k'.world.2.1 = k.world.2.1 ++ calls ∧
      ∀ ack, ack = acknowledgedBy (k.endpoint c app.linked) (k'.endpoint c app.linked) →
        Inv c (es ++ [.call a calls ack]) last k' ∧ Orderly es (.call a calls ack) := by
  have hk : k'.Connected c := h.toConnected.txStep hs
  have hidle : k'.rxState = .waitForFrame ∧ k'.queue = [] := by
    cases hs <;> exact h.idle
  obtain ⟨q, hphase, hacc⟩ := h.accounted
  obtain ⟨calls, hworld, hm⟩ := move_txStep (c := c) hs
  have hsent : ∀ id p r, .send id p r ∈ calls →
      ∃ f, published es = acknowledged es ++ [f] ∧ p = f.payload := by
    intro id p r hmem
    obtain ⟨f, rfl, hp⟩ := hphase.send hm hmem
    exact ⟨f, hacc, hp⟩
  refine ⟨calls, hworld, ?_⟩
  intro _ h
  subst h
  by_cases hfin : k.txState = .txFinished
  -- the frame that is due is acknowledged, and the calls are counted anew
  · obtain ⟨hne, rfl, hfinished, hnext⟩ := hphase.acknowledge hm hfin
    have hby : acknowledgedBy (k.endpoint c app.linked) (k'.endpoint c app.linked) =
        some ⟨k.pending, k.payload⟩ := if_pos ⟨hfin, hne⟩
    rw [hby]
    refine ⟨⟨hk, hidle, none, ?_, ?_⟩, hsent, ?_⟩
    · rw [callsSince_append]
      exact hnext
    · rw [published_append, acknowledged_append, hacc]
      simp [Event.published?, Event.acknowledged?, view]
    · intro _ h
      cases h
      exact ⟨hacc, hfinished⟩
  · rw [acknowledgedBy_of_ne hfin]
    refine ⟨⟨hk, hidle, q, ?_, ?_⟩, hsent, ?_⟩
    · rw [callsSince_append]
      exact (hphase.move hm hfin).2
    · rw [published_append, acknowledged_append, hacc]
      simp [Event.published?, Event.acknowledged?]
    · intro f h
      cases h

theorem Inv.callStep {a : Call} (hc : c.Accepted) (hin : c.Consumed c.ssdoConsumer)
    (hack : c.Produced c.statusIn) (h : Inv c es last k) (ha : ∀ p r, a ≠ .receive p r)
    (hs : Live.CallStep c app.linked net.recorded.linked k a k') {e : Event}
    (he : e = .call a (callsOf a (k.endpoint c app.linked) (k'.endpoint c app.linked))
      (acknowledgedBy (k.endpoint c app.linked) (k'.endpoint c app.linked))) :
    Inv c (es ++ [e]) last k' ∧ Orderly es e := by
  cases hs with
  | post hs =>
    have hk : k'.Connected c := h.toConnected.entryStep hs
    have hstate : k'.txState = k.txState := by
      cases hs <;> rfl
    have hv := view_entryStep hc hs
    subst he
    refine h.of_phase hk (fun q hq => by rw [hv]; exact hq) (by cases hs <;> exact h.idle) rfl ?_
      rfl
    exact acknowledgedBy_eq_none hstate
  | receive => exact absurd rfl (ha _ _)
  | sync hs =>
    rcases Live.SyncStep.cases_linked h.toConnected hs with ⟨rfl, u, rfl⟩ | ⟨⟨f, rfl⟩, u, t, rfl⟩
    · subst he
      refine h.of_phase (Live.connected_exchanged h.toConnected) (fun q hq => ?_) h.idle rfl
        (acknowledgedBy_eq_none rfl) rfl
      rw [view_exchanged h.toConnected hc hin hack]
      exact hq.exchange
    · subst he
      exact h.of_phase (Live.connected_stalled h.toConnected) (fun q hq => hq) h.idle rfl
        (acknowledgedBy_eq_none rfl) rfl
  | round =>
    subst he
    refine h.of_phase h.toConnected.afterPost (fun q hq => ?_) h.idle rfl
      (acknowledgedBy_eq_none rfl) rfl
    rw [view_afterPost hc h.toSound]
    exact hq.round
  | @async k1 k2 _ hlog htx hrx =>
    have h1 : Inv c es last k1 := by
      refine ⟨h.toConnected.logStep hlog, ?_, ?_⟩
      · cases hlog <;> exact h.idle
      · rw [view_logStep hlog]
        exact h.accounted
    obtain ⟨calls, hworld, hmove⟩ := h1.txStep app (a := .async (.ok ())) htx
    -- only the transmitting side calls the network, and only it acknowledges
    have hworld1 : k1.world = k.world := by
      cases hlog <;> rfl
    have hfrom : acknowledgedBy (k.endpoint c app.linked) (k2.endpoint c app.linked) =
        acknowledgedBy (k1.endpoint c app.linked) (k2.endpoint c app.linked) := by
      cases hlog <;> rfl
    have hidle2 : k2.rxState = .waitForFrame ∧ k2.queue = [] := by
      cases htx <;> exact h1.idle
    obtain rfl := Live.RxStep.eq_of_idle hrx hidle2
    have hcalls : callsOf (.async (.ok ())) (k.endpoint c app.linked) (k'.endpoint c app.linked) =
        calls := by
      show k'.world.2.1.drop k.world.2.1.length = calls
      rw [hworld, hworld1, List.drop_left]
    rw [hcalls] at he
    subst he
    exact hmove _ hfrom

/-- A frame is published only when none is due, and is then due itself. -/
theorem Inv.publish {f : Frame} {off : Nat} {b : Bytes} {l : Link} (hc : c.Accepted)
    (hin : c.Consumed c.ssdoConsumer) (hack : c.Produced c.statusIn) (h : Inv c es last k)
    (hseq : f.seq = nextSeq last)
    (hlast : ∀ q, last = some q → ∃ status, k.link.produced c.statusIn = .ok status ∧
      status.flagAt Status.ssdoRxOffset = q)
    (hl : (Link.publish c.ssdoConsumer off b).eval k.link = (.ok (), l))
    (hf : Frame.read (l.consumed c c.ssdoConsumer) = .ok f) :
    Inv c (es ++ [.publish f]) (some f.seq) (k.setLink l) := by
  obtain ⟨q, hphase, hacc⟩ := h.accounted
  obtain ⟨hattached, hsent⟩ : l.Attached c ∧ l.sent c c.statusIn = k.link.sent c c.statusIn := by
    obtain ⟨consumer, hlen, rfl⟩ :=
      Link.publish_eq_ok h.attached hin (Live.index_ssdoConsumer_lt hc) hl
    exact ⟨h.attached.consumer hlen, rfl⟩
  obtain ⟨rfl, hnext⟩ := hphase.publish (f := f) hseq (by
    intro q hq
    obtain ⟨status, hstatus, hflag⟩ := hlast q hq
    rw [Link.produced_eq h.attached hack] at hstatus
    cases hstatus
    exact hflag)
  have hview : view c (k.setLink l) = { view c k with shown := .ok f } := by
    rw [← hf]
    unfold view
    rw [show (k.setLink l).link = l from rfl, hsent]
    rfl
  refine ⟨Live.connected_setLink h.toConnected hattached, h.idle, some f, ?_, ?_⟩
  · rw [hview, callsSince_append]
    show Phase _ _ (callsSince es ++ []) _
    rw [List.append_nil]
    exact hnext
  · rw [published_append, acknowledged_append, hacc]
    simp [Event.published?, Event.acknowledged?]

/-- Every step of either side keeps the frames accounted for. -/
theorem Inv.step {e : Event} {t : Sides υ} (hc : c.Accepted) (hin : c.Consumed c.ssdoConsumer)
    (hack : c.Produced c.statusIn) (h : Inv c es last k)
    (hs : Step c net ⟨k.endpoint c app.linked, last⟩ e t) :
    (∃ k', t.endpoint = k'.endpoint c app.linked ∧ Inv c (es ++ [e]) t.last k') ∧
      Orderly es e := by
  cases hs with
  | call hd ha =>
    obtain ⟨k', rfl, hcall⟩ := Live.callStep_of_does hc h.toSound hd
    obtain ⟨hk, ho⟩ := h.callStep hc hin hack ha hcall rfl
    exact ⟨⟨k', rfl, hk⟩, ho⟩
  | @publish f _ _ l hseq hlast hl hf =>
    refine ⟨⟨k.setLink l, rfl, h.publish hc hin hack hseq hlast hl hf⟩, ?_, ?_⟩
    · intro id p r hmem
      exact absurd hmem List.not_mem_nil
    · intro f h
      cases h
  | @other consumer hlen hsame =>
    have hview : view c (k.setLink { k.link with consumer }) = view c k := by
      have hshown : (k.setLink { k.link with consumer }).link.consumed c c.ssdoConsumer =
          k.link.consumed c c.ssdoConsumer := hsame
      unfold view
      rw [hshown]
      rfl
    obtain ⟨hk, ho⟩ := h.of_phase (e := .other)
      (Live.connected_setLink h.toConnected (h.attached.consumer hlen))
      (fun q hq => by rw [hview]; exact hq) h.idle rfl rfl rfl
    exact ⟨⟨_, rfl, hk⟩, ho⟩

/-- Transmission acknowledges every frame once and in order. The acknowledged frames are the
published ones, except that the last may be missing, and every call is `Orderly`. -/
theorem acknowledged_in_order {u : List NetCall × υ} {l : Link}
    {e : Endpoint (Link × List NetCall × υ)} {w : Link × List NetCall × υ} {s : Sides υ}
    (hlink : (Link.create c : Op Unit Link).eval () = (.ok l, ()))
    (hopen : (Endpoint.create c app.linked.hooks).eval (l, u) = (.ok e, w))
    (hin : c.Consumed c.ssdoConsumer) (hack : c.Produced c.statusIn)
    (hrun : Run (Step c net) ⟨e, none⟩ es s) :
    (published es = acknowledged es ∨ ∃ f, published es = acknowledged es ++ [f]) ∧
      ∀ past e rest, es = past ++ e :: rest → Orderly past e := by
  obtain ⟨hc, rfl, rfl, rfl⟩ := (Live.create_linked app).mp ⟨hlink, hopen⟩
  obtain ⟨⟨k, -, hinv⟩, horderly⟩ := hrun.invariant_forall (P := Orderly)
    (I := fun es s => ∃ k, s.endpoint = Live.endpoint c app.linked k ∧ Inv c es s.last k)
    ⟨_, rfl, inv_initial hc hin hack u⟩ (by
      intro es h e t h' hs
      obtain ⟨_, last⟩ := h
      obtain ⟨k, rfl, hk⟩ := h'
      exact hk.step hc hin hack hs)
  refine ⟨?_, horderly⟩
  obtain ⟨q, -, hacc⟩ := hinv.accounted
  rw [hacc]
  cases q with
  | none => exact .inl (List.append_nil _)
  | some f => exact .inr ⟨f, rfl⟩

/-! ## A frame on its way -/

/-- An endpoint with nothing to do but to transmit. -/
structure Transmitting (c : Config) (k : Live (Link × List NetCall × υ)) : Prop extends
    k.Connected c where
  free : k.logLocked = false
  idle : k.rxState = .waitForFrame ∧ k.queue = []

/-- The background loop makes one step of the transmitting side then. -/
theorem step_async (app : Surroundings (List NetCall × υ)) (net : Transport υ)
    (last : Option SeqNr) (hc : c.Accepted) (h : Transmitting c k) :
    ∃ k' calls, Transmitting c k' ∧ Live.TxStep c net.recorded.linked k k' ∧
      Step c net ⟨k.endpoint c app.linked, last⟩
        (.call (.async (.ok ())) calls
          (acknowledgedBy (k.endpoint c app.linked) (k'.endpoint c app.linked)))
        ⟨k'.endpoint c app.linked, last⟩ := by
  obtain ⟨k1, k2, k3, heval, hlog, htx, hrx⟩ :=
    Live.eval_processAsync app.linked net.recorded.linked hc h.toSound
  obtain rfl := Live.LogStep.eq_of_free hlog h.free
  have h2 : Transmitting c k2 := by
    refine ⟨h.toConnected.txStep htx, ?_, ?_⟩
    · cases htx <;> exact h.free
    · cases htx <;> exact h.idle
  obtain rfl := Live.RxStep.eq_of_idle hrx h2.idle
  exact ⟨k3, _, h2, htx, .call (.async heval) (fun _ _ h => by cases h)⟩

/-- What the transmitting side waits for next if the network finishes every frame at once. -/
def promptNext : TransmitState → TransmitState
  | .waitForFrame | .waitForNextArpRetry => .processFrame
  | .processFrame => .waitForTxFinished
  | .waitForTxFinished => .txFinished
  | .txFinished => .waitForFrame

/-- The frame `f` is on its way through the transmitting side: it is new in the buffer, or was
captured. -/
structure Carrying (c : Config) (f : Frame) (k : Live (Link × List NetCall × υ)) : Prop extends
    Transmitting c k where
  not_resting : k.txState ≠ .waitForNextArpRetry
  new : k.txState = .waitForFrame →
    Frame.read (k.buffer c c.ssdoConsumer) = .ok f ∧ f.seq ≠ k.acked
  captured : k.txState ≠ .waitForFrame → (⟨k.pending, k.payload⟩ : Frame) = f

/-- A prompt network takes every frame one step further, and the last step acknowledges it. -/
theorem step_prompt (app : Surroundings (List NetCall × Unit)) (last : Option SeqNr)
    {k : Live (Link × List NetCall × Unit)} {f : Frame} (hc : c.Accepted) (h : Carrying c f k) :
    ∃ k' calls, k'.txState = promptNext k.txState ∧
      (k.txState ≠ .txFinished → Carrying c f k') ∧
      Step c Transport.prompt ⟨k.endpoint c app.linked, last⟩
        (.call (.async (.ok ())) calls (if k.txState = .txFinished then some f else none))
        ⟨k'.endpoint c app.linked, last⟩ := by
  obtain ⟨k', calls, h', htx, hstep⟩ := step_async app Transport.prompt last hc h.toTransmitting
  have hnext : k'.txState = promptNext k.txState ∧ (k.txState ≠ .txFinished → Carrying c f k') := by
    cases htx with
    | malformed hs hf =>
      rw [(h.new hs).1] at hf
      cases hf
    | known hs hf ha =>
      rw [(h.new hs).1] at hf
      cases hf
      exact absurd ha (h.new hs).2
    | captured hs hf =>
      rw [(h.new hs).1] at hf
      cases hf
      exact ⟨by rw [hs]; rfl, fun _ => ⟨h', by simp, by simp, fun _ => rfl⟩⟩
    | sent hs =>
      have hcaptured := h.captured (by rw [hs]; simp)
      exact ⟨by rw [hs]; rfl, fun _ => ⟨h', by simp, by simp, fun _ => hcaptured⟩⟩
    | finished hs =>
      have hcaptured := h.captured (by rw [hs]; simp)
      exact ⟨by rw [hs]; rfl, fun _ => ⟨h', by simp, by simp, fun _ => hcaptured⟩⟩
    -- a prompt network gives no other answer, so there is nothing to wait for
    | refused _ hn | pending _ hn | unresolved _ hn => cases congrArg Prod.fst hn
    | resting hs | rested hs => exact absurd hs h.not_resting
    | acknowledged hs => exact ⟨by rw [hs]; rfl, fun hn => absurd hs hn⟩
  have hby : acknowledgedBy (k.endpoint c app.linked) (k'.endpoint c app.linked) =
      if k.txState = .txFinished then some f else none := by
    by_cases hs : k.txState = .txFinished
    · have hback : k'.txState ≠ .txFinished := by
        rw [hnext.1, hs]
        simp [promptNext]
      rw [if_pos hs, ← h.captured (by rw [hs]; simp)]
      exact if_pos ⟨hs, hback⟩
    · rw [if_neg hs, acknowledgedBy_of_ne hs]
  rw [hby] at hstep
  exact ⟨k', calls, hnext.1, hnext.2, hstep⟩

/-- Four steps of the background loop: the frame is captured, sent, finished and
acknowledged. -/
theorem run_prompt (app : Surroundings (List NetCall × Unit)) (last : Option SeqNr)
    {k : Live (Link × List NetCall × Unit)} {f : Frame} (hc : c.Accepted) (h : Carrying c f k)
    (hs : k.txState = .waitForFrame) :
    ∃ calls1 calls2 calls3 calls4 s,
      Run (Step c Transport.prompt) ⟨k.endpoint c app.linked, last⟩
        [.call (.async (.ok ())) calls1 none, .call (.async (.ok ())) calls2 none,
          .call (.async (.ok ())) calls3 none, .call (.async (.ok ())) calls4 (some f)] s := by
  obtain ⟨k1, calls1, hs1, h1, hstep1⟩ := step_prompt app last hc h
  rw [hs] at hs1 h1 hstep1
  obtain ⟨k2, calls2, hs2, h2, hstep2⟩ := step_prompt app last hc (h1 (by simp))
  rw [hs1] at hs2 h2 hstep2
  obtain ⟨k3, calls3, hs3, h3, hstep3⟩ := step_prompt app last hc (h2 (by simp [promptNext]))
  rw [hs2] at hs3 h3 hstep3
  obtain ⟨k4, calls4, -, -, hstep4⟩ := step_prompt app last hc (h3 (by simp [promptNext]))
  rw [hs3] at hstep4
  exact ⟨calls1, calls2, calls3, calls4, _,
    (((Run.one hstep1).next hstep2).next hstep3).next hstep4⟩

/-- The first frame of the remote side is acknowledged after a cycle and four steps of the
background loop. -/
theorem run_acknowledged (hc : c.Accepted) (hin : c.Consumed c.ssdoConsumer)
    {p : Bytes} (hp : p.length ≤ Frame.maxPayload) :
    ∃ es s, Run (Step c Transport.prompt)
        ⟨(Live.initial c (Link.fresh c, [], ())).endpoint c Surroundings.quiet.linked, none⟩ es s ∧
      published es = [⟨.second, p⟩] ∧ acknowledged es = [⟨.second, p⟩] := by
  let k0 : Live (Link × List NetCall × Unit) := Live.initial c (Link.fresh c, [], ())
  let b := Frame.imprint ⟨.second, p⟩ (List.replicate Frame.bufferSize 0)
  have h0 : k0.Connected c := Live.connected_initial c ([], ())
  have hread : Frame.read b = .ok ⟨.second, p⟩ := Frame.read_imprint List.length_replicate hp
  obtain ⟨l, hl, hattached, hshown, -⟩ := Link.publish_whole h0.attached hin
    (Live.index_ssdoConsumer_lt hc) (b := b)
    (by rw [Frame.length_imprint, List.length_replicate, hc.ssdoConsumer_size])
  have hpublish : Step c Transport.prompt ⟨k0.endpoint c Surroundings.quiet.linked, none⟩
      (.publish ⟨.second, p⟩) ⟨(k0.setLink l).endpoint c Surroundings.quiet.linked, some .second⟩ :=
    .publish rfl (fun _ h => by cases h) hl (by rw [hshown, hread])
  have h1 : (k0.setLink l).Connected c := Live.connected_setLink h0 hattached
  have hsync := Live.eval_processSync_linked Surroundings.quiet hc h1
    (Op.eval_pure () ([], ())) (Op.eval_pure () ([], ()))
  have hbuffer : ((k0.setLink l).exchanged c ([], ())).buffer c c.ssdoConsumer = b := by
    rw [Live.buffer_exchanged h1 hin]
    exact hshown
  have h2 : Carrying c ⟨.second, p⟩ ((k0.setLink l).exchanged c ([], ())) := by
    refine ⟨⟨Live.connected_exchanged h1, rfl, rfl, rfl⟩, ?_, fun _ => ⟨?_, ?_⟩, ?_⟩
    · exact show TransmitState.waitForFrame ≠ .waitForNextArpRetry by simp
    · rw [hbuffer, hread]
    · exact show SeqNr.second ≠ .first by simp
    · exact fun hn => absurd rfl hn
  obtain ⟨calls1, calls2, calls3, calls4, s, hrun⟩ := run_prompt Surroundings.quiet
    (some .second) hc h2 rfl
  have hfirst := (Run.one hpublish).next
    (.call (.sync hsync) (fun _ _ h => by cases h))
  exact ⟨_, s, hfirst.trans hrun, rfl, rfl⟩

theorem acknowledged_in_order_reference :
    let c := Config.reference
    let f : Frame := ⟨.second, [7]⟩
    ∃ (e : Endpoint (Link × List NetCall × Unit)) (es : List Event) (s : Sides Unit),
      (Endpoint.create c Surroundings.quiet.linked.hooks).eval (Link.fresh c, [], ()) =
        (.ok e, (Link.fresh c, [], ())) ∧
      Run (Step c Transport.prompt) ⟨e, none⟩ es s ∧ published es = [f] ∧ acknowledged es = [f] ∧
      (published es = acknowledged es ∨ ∃ f, published es = acknowledged es ++ [f]) ∧
      ∀ past e rest, es = past ++ e :: rest → Orderly past e := by
  intro c f
  have hc : c.Accepted := Config.accepted_reference
  have hin : c.Consumed c.ssdoConsumer := by decide
  have hack : c.Produced c.statusIn := by decide
  obtain ⟨hlink, hopen⟩ := (Live.create_linked Surroundings.quiet
    (u := (([] : List NetCall), ()))).mpr ⟨hc, rfl, rfl, rfl⟩
  obtain ⟨es, s, hrun, hpublished, hacknowledged⟩ :=
    run_acknowledged hc hin (p := [7]) (by decide)
  exact ⟨_, es, s, hopen, hrun, hpublished, hacknowledged,
    acknowledged_in_order hlink hopen hin hack hrun⟩

end Transmission

end SlimInterface
