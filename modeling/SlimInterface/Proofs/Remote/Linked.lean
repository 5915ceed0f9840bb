import SlimInterface.Proofs.Endpoint.Call
import SlimInterface.Proofs.Remote.Link
import SlimInterface.Proofs.Run

/-!
# Endpoints on a link

An endpoint whose transfer is that of a link has the link in its world, beside whatever else
the application has. The application may refuse a cycle before anything has moved, in its
time callback or at its gate; otherwise both images move at once (`SyncStep.cases_linked`).
No other call touches the link (`TxStep.link_eq`).
-/

namespace SlimInterface

variable {υ : Type}

/-- What an application has beside its link. -/
structure Surroundings (υ : Type) where
  /-- Refuses a transfer before anything has moved. -/
  gate : Op υ Unit
  timeSync : TimeSync υ
  incidents : IncidentHandler υ

/-- The application whose transfer is that of the link. -/
def Surroundings.linked (app : Surroundings υ) : Application (Link × υ) where
  transfer producer := do
    Op.onSecond (Op.onSecond app.gate)
    Link.transfer Prod.fst (fun l w => (l, w.2)) producer
  timeSync t := Op.onSecond (app.timeSync t)
  incidents i w := ((w.1, (app.incidents i w.2).1), (app.incidents i w.2).2)

/-- A network that does not reach the link. -/
def Transport.linked (net : Transport υ) : Transport (Link × υ) where
  send id p := Op.onSecond (net.send id p)
  poll id w := ((net.poll id w.2).1, w.1, (net.poll id w.2).2)

/-- Surroundings that never refuse anything. -/
def Surroundings.quiet : Surroundings υ := ⟨pure (), fun _ => pure (), IncidentHandler.silent⟩

/-- A network that accepts everything and finishes nothing. -/
def Transport.quiet : Transport Unit := ⟨fun _ _ => pure (), fun _ u => (.pending, u)⟩

/-- A network that accepts everything and finishes it at once. -/
def Transport.prompt : Transport Unit := ⟨fun _ _ => pure (), fun _ u => (.finished, u)⟩

namespace Live

variable {c : Config} {app : Surroundings υ} {net : Transport υ} {k k' : Live (Link × υ)}

/-- The link of the endpoint. -/
def link (k : Live (Link × υ)) : Link := k.world.1

/-- Replace the link. -/
def setLink (l : Link) (k : Live (Link × υ)) : Live (Link × υ) := { k with world := (l, k.world.2) }

/-- A running endpoint with a link that belongs to its configuration. -/
structure Connected (c : Config) (k : Live (Link × υ)) : Prop extends k.Sound c where
  attached : k.link.Attached c

theorem connected_initial (c : Config) (u : υ) : (initial c (Link.fresh c, u)).Connected c :=
  ⟨sound_initial c _, Link.attached_fresh c⟩

/-- A link and an endpoint over it can be opened for the same configurations, and are both
fresh then. -/
theorem create_linked (app : Surroundings υ) {u : υ} {l : Link} {e : Endpoint (Link × υ)}
    {w : Link × υ} :
    (Link.create c : Op Unit Link).eval () = (.ok l, ()) ∧
        (Endpoint.create c app.linked.hooks).eval (l, u) = (.ok e, w) ↔
      c.Accepted ∧ l = Link.fresh c ∧ w = (Link.fresh c, u) ∧
        e = (initial c (Link.fresh c, u)).endpoint c app.linked := by
  have hlink (hc : c.Accepted) :
      (Link.create c : Op Unit Link).eval () = (.ok (Link.fresh c), ()) :=
    Link.eval_create (Endpoint.validate_of_laidOut hc.toLaidOut) hc.toLaidOut ()
  constructor
  · intro h
    obtain ⟨hl, he⟩ := h
    obtain ⟨hc, rfl, rfl⟩ := (create_eq_ok_live _).mp he
    rw [hlink hc] at hl
    cases hl
    exact ⟨hc, rfl, rfl, rfl⟩
  · intro h
    obtain ⟨hc, rfl, rfl, rfl⟩ := h
    exact ⟨hlink hc, (create_eq_ok_live _).mpr ⟨hc, rfl, rfl⟩⟩

theorem connected_putBuffer {id : BufferId} {b : Bytes} (h : k.Connected c) :
    (k.putBuffer c id b).Connected c :=
  ⟨sound_putBuffer.mpr h.toSound, h.attached⟩

theorem connected_setLink {l : Link} (h : k.Connected c) (hl : l.Attached c) :
    (k.setLink l).Connected c :=
  ⟨⟨h.1.1, h.1.2, h.1.3⟩, hl⟩

/-! ## The exchange -/

/-- Both images moved. -/
def exchanged (c : Config) (u : υ) (k : Live (Link × υ)) : Live (Link × υ) :=
  (k.timed c k.world).received c k.link.consumer
    ({ k.link with
      producer := c.producerPart.read k.image
      transfers := k.link.transfers + 1 }, u)

/-- The application heard of the time, and no image moved. -/
def stalled (c : Config) (u : υ) (tally : Tally) (k : Live (Link × υ)) : Live (Link × υ) :=
  { k.timed c (k.link, u) with tally }

/-- The gate decides whether the images move. -/
theorem eval_transfer_linked (app : Surroundings υ) (h : k.Connected c) {w : Link × υ}
    (hw : w.1 = k.link) :
    (app.linked.transfer (c.producerPart.read k.image)).eval (c.consumerPart.read k.image, w) =
      match app.gate.eval w.2 with
      | (.error f, v) => (.error f, c.consumerPart.read k.image, k.link, v)
      | (.ok _, v) => (.ok (), k.link.consumer, { k.link with
          producer := c.producerPart.read k.image
          transfers := k.link.transfers + 1 }, v) := by
  obtain ⟨l, v⟩ := w
  cases hw
  have hexchange := Link.eval_exchange h.attached (Span.length_read (fits_producerPart h.toSound))
  rw [← Span.length_read (fits_consumerPart h.toSound)] at hexchange
  unfold Surroundings.linked
  dsimp only
  rw [Op.eval_bind, Op.eval_onSecond, Op.eval_onSecond]
  rcases hg : app.gate.eval v with ⟨_ | _, v'⟩
  · rfl
  · dsimp only
    unfold Link.transfer
    rw [Op.eval_bind_ok (Op.eval_read _)]
    dsimp only
    have hon : (Op.within Prod.fst (fun l w => (l, w.2)) (Link.exchange
        (c.consumerPart.read k.image).length (c.producerPart.read k.image))).eval (k.world.1, v') =
        (.ok k.link.consumer, _, v') := Op.eval_within_of hexchange
    rw [Op.eval_bind_ok (Op.eval_onSecond_of hon _)]
    rfl

/-- A transfer moves both images or none. -/
theorem SyncStep.cases_linked {r : Except Fault Unit} (h : k.Connected c)
    (hs : SyncStep c app.linked k r k') :
    (r = .ok () ∧ ∃ u, k' = k.exchanged c u) ∨
      ((∃ f, r = .error f) ∧ ∃ u tally, k' = k.stalled c u tally) := by
  have htime {r w} (ht : (app.linked.timeSync (Status.timeIn (k.buffer c c.statusOut))).eval
      k.world = (r, w)) : w.1 = k.link := Op.fst_of_onSecond ht
  cases hs with
  | @refused f w ht =>
    right
    refine ⟨⟨_, rfl⟩, (app.incidents ⟨.stream, .timeSyncFailed⟩ w.2).1,
      k.tally.record ⟨.stream, .timeSyncFailed⟩, ?_⟩
    unfold stalled
    rw [← htime ht]
    rfl
  | @broken f w w' b ht hm =>
    -- the gate refused: what is placed back is what was read
    right
    rw [eval_transfer_linked app h (htime ht)] at hm
    rcases hg : app.gate.eval w.2 with ⟨_ | _, v⟩
    · rw [hg] at hm
      cases hm
      refine ⟨⟨_, rfl⟩, (app.incidents ⟨.stream, .transferError⟩ v).1,
        k.tally.record ⟨.stream, .transferError⟩, ?_⟩
      unfold stalled received reported timed
      dsimp only
      rw [Span.place_read]
      rfl
    · rw [hg] at hm
      cases hm
  | @moved w w' b ht hm =>
    left
    rw [eval_transfer_linked app h (htime ht)] at hm
    rcases hg : app.gate.eval w.2 with ⟨_ | _, v⟩
    · rw [hg] at hm
      cases hm
    · rw [hg] at hm
      cases hm
      exact ⟨rfl, v, rfl⟩

/-- The images move if neither the time callback nor the gate refuses. -/
theorem eval_processSync_linked (app : Surroundings υ) (hc : c.Accepted) (h : k.Connected c)
    {u v : υ}
    (htime : (app.timeSync (Status.timeIn (k.buffer c c.statusOut))).eval k.world.2 = (.ok (), u))
    (hgate : app.gate.eval u = (.ok (), v)) :
    Endpoint.processSync.eval (k.endpoint c app.linked) =
      (.ok (), (k.exchanged c v).endpoint c app.linked) := by
  have ht : (app.linked.timeSync (Status.timeIn (k.buffer c c.statusOut))).eval k.world =
      (.ok (), k.link, u) := Op.eval_onSecond_of htime k.world.1
  have hm := eval_transfer_linked app h (w := (k.link, u)) rfl
  dsimp only at hm
  rw [hgate] at hm
  obtain ⟨r, k', heval, hs⟩ := eval_processSync app.linked hc h.toSound
  rw [heval]
  cases hs with
  | refused ht' =>
    rw [ht] at ht'
    cases ht'
  | broken ht' hm' =>
    rw [ht] at ht'
    cases ht'
    rw [hm] at hm'
    cases hm'
  | moved ht' hm' =>
    rw [ht] at ht'
    cases ht'
    rw [hm] at hm'
    cases hm'
    rfl

/-- The network does not reach the link. -/
theorem TxStep.link_eq (hs : TxStep c net.linked k k') : k'.link = k.link := by
  cases hs with
  | sent _ hn => exact Op.fst_of_onSecond hn
  | refused _ hn => exact Op.fst_of_onSecond hn
  | pending _ hn => exact (congrArg (fun q => q.2.1) hn).symm
  | finished _ hn => exact (congrArg (fun q => q.2.1) hn).symm
  | unresolved _ hn => exact (congrArg (fun q => q.2.1) hn).symm
  | _ => rfl

/-! ## What an exchange shows -/

variable {u : υ} {id : BufferId}

/-- A consumed buffer now holds what the remote side published. -/
theorem buffer_exchanged (h : k.Connected c) (hid : c.Consumed id) :
    (k.exchanged c u).buffer c id = k.link.consumed c id := by
  show (c.span id).read (c.consumerPart.place k.link.consumer k.image) = _
  exact Span.read_place_of_within hid.within h.attached.length_consumer
    (fits_consumerPart h.toSound)

/-- No other buffer changes. -/
theorem buffer_exchanged_of_not (hl : c.LaidOut) (hid : ¬ c.Consumed id) :
    (k.exchanged c u).buffer c id = k.buffer c id :=
  Span.read_place_of_apart (Config.apart_consumerPart hid (Nat.le_of_lt hl.consAck_lt))

/-- A produced buffer was sent. -/
theorem sent_exchanged (hid : c.Produced id) :
    (k.exchanged c u).link.sent c id = k.buffer c id :=
  Span.read_shift_read hid.within

theorem connected_exchanged (h : k.Connected c) : (k.exchanged c u).Connected c := by
  obtain ⟨h1, h2, h3, h4, h5, h6, h7⟩ := h.attached
  exact ⟨h.toSound.timed.received, h1, h2, h3, h4,
    Span.length_read (fits_producerPart h.toSound), h6, h7⟩

theorem connected_stalled {tally : Tally} (h : k.Connected c) :
    (k.stalled c u tally).Connected c := by
  obtain ⟨h1, h2, h3⟩ := h.toSound
  exact ⟨⟨h1, h2, h3⟩, h.attached⟩

/-! ## Calls keep the link -/

theorem Connected.entryStep {e : LogEntry} {a : Posting} (h : k.Connected c)
    (hs : EntryStep c e k a k') : k'.Connected c := by
  refine ⟨h.toSound.entryStep hs, ?_⟩
  cases hs <;> exact h.attached

theorem Connected.frameStep {p : Bytes} {r : Except Fault Unit} (h : k.Connected c)
    (hs : FrameStep p k r k') : k'.Connected c := by
  refine ⟨h.toSound.frameStep hs, ?_⟩
  cases hs <;> exact h.attached

theorem Connected.logStep (h : k.Connected c) (hs : LogStep k k') : k'.Connected c := by
  refine ⟨h.toSound.logStep hs, ?_⟩
  cases hs <;> exact h.attached

theorem Connected.txStep (h : k.Connected c) (hs : TxStep c net.linked k k') :
    k'.Connected c := by
  refine ⟨h.toSound.txStep hs, ?_⟩
  rw [TxStep.link_eq hs]
  exact h.attached

theorem Connected.rxStep (h : k.Connected c) (hs : RxStep c k k') : k'.Connected c := by
  refine ⟨h.toSound.rxStep hs, ?_⟩
  cases hs <;> exact h.attached

theorem Connected.afterPost (h : k.Connected c) : (k.afterPost c).Connected c :=
  ⟨h.toSound.afterPost, h.attached⟩

theorem Connected.callStep {a : Call} (h : k.Connected c)
    (hs : CallStep c app.linked net.linked k a k') : k'.Connected c := by
  cases hs with
  | post hs => exact h.entryStep hs
  | receive hs => exact h.frameStep hs
  | sync hs =>
    rcases SyncStep.cases_linked h hs with ⟨-, u, rfl⟩ | ⟨-, u, t, rfl⟩
    · exact connected_exchanged h
    · exact connected_stalled h
  | round => exact h.afterPost
  | async hlog htx hrx => exact ((h.logStep hlog).txStep htx).rxStep hrx

end Live

end SlimInterface
