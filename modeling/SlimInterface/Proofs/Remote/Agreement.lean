import SlimInterface.Proofs.Endpoint.Use
import SlimInterface.Proofs.Remote.Linked

/-!
# The link and the endpoint agree

Two places work out where a buffer lies. The endpoint adds up sizes, the link takes distances
from the first buffer of a part. `agrees_of_run` says that they always come to the same, for
every list of sizes and wherever the acknowledge registers stand: a transfer never finds a part
of another size, it brings every consumed buffer just as the remote side composed it, byte by
byte and over any number of publications, and shows the remote side every produced buffer as it
is.

`Inv` is the invariant behind it: the remote copy of every consumed buffer is what was composed
so far. Publishing keeps it, since two buffers lie apart there as they do in the image, and
nothing else changes the copy.
-/

namespace SlimInterface

variable {υ ι : Type}

namespace Agreement

/-! ## Runs -/

/-- What happens between an endpoint and the remote side of its link. -/
inductive Event (ι : Type)
  | use (u : Use ι)
  /-- The application works on a buffer of its stream. -/
  | edit (id : BufferId) (op : Op Bytes Unit) (answer : Except Fault Unit)
  /-- The remote side publishes bytes of a buffer. -/
  | publish (id : BufferId) (offset : Nat) (data : Bytes) (answer : Except Fault Unit)

/-- The steps of both sides. -/
inductive Step (net : Transport υ) (callbacks : ι → Op υ Unit) (s : Endpoint (Link × υ)) :
    Event ι → Endpoint (Link × υ) → Prop
  | use {u : Use ι} {t : Endpoint (Link × υ)}
      (h : s.Uses net.linked (fun i => Op.onSecond (callbacks i)) u t) :
      Step net callbacks s (.use u) t
  | edit {id : BufferId} {op : Op Bytes Unit} {r : Except Fault Unit} {t : Endpoint (Link × υ)}
      (h : (Endpoint.onStation (Site.onStream (Stream.editBuffer id op))).eval s = (r, t)) :
      Step net callbacks s (.edit id op r) t
  | publish {id : BufferId} {off : Nat} {data : Bytes} {r : Except Fault Unit} {l : Link}
      (h : s.world.1.publishAt? id off data = some (r, l)) :
      Step net callbacks s (.publish id off data r) (s.setWorld (l, s.world.2))

/-- A buffer after what an event made of it. -/
def Event.compose (id : BufferId) (b : Bytes) : Event ι → Bytes
  | .publish id' off data (.ok ()) => if id' = id then b.overwrite off data else b
  | _ => b

/-- A buffer as the remote side composed it, from zeros on. -/
def composed (c : Config) (es : List (Event ι)) (id : BufferId) : Bytes :=
  es.foldl (Event.compose id) (List.replicate (c.sizeOf id) 0)

theorem composed_append (c : Config) (es : List (Event ι)) (e : Event ι) (id : BufferId) :
    composed c (es ++ [e]) id = e.compose id (composed c es id) := by
  unfold composed
  rw [List.foldl_append]
  rfl

/-- What a transfer from `s` to `t` does after the events `es`. -/
structure Moved (c : Config) (es : List (Event ι)) (s t : Endpoint (Link × υ)) : Prop where
  /-- The endpoint has what the remote side composed. -/
  consumed : ∀ id, c.Consumed id → t.station.stream.buffer? id = some (composed c es id)
  /-- The remote side has what the endpoint had when it was sent. -/
  produced : ∀ id, c.Produced id →
    ∃ b, s.station.stream.buffer? id = some b ∧ t.world.1.produced id = .ok b
  /-- No other buffer changes. -/
  untouched : ∀ id, ¬ c.Consumed id →
    t.station.stream.buffer? id = s.station.stream.buffer? id
  transfers : t.world.1.transfers = s.world.1.transfers + 1

/-- How the two sides agree after the events `es`. -/
structure Agrees (c : Config) (app : Surroundings υ) (net : Transport υ)
    (callbacks : ι → Op υ Unit) (es : List (Event ι)) (s : Endpoint (Link × υ)) : Prop where
  /-- The parts the endpoint hands over have the sizes the link expects. -/
  exchanges : ((Link.exchange (s.station.stream.consumer.read s.station.stream.image).length
    (s.station.stream.producer.read s.station.stream.image)).eval s.world.1).1 =
      .ok s.world.1.consumer
  /-- So a transfer fails only if the application refuses it. -/
  gated : ∀ t, Step net callbacks s (.use (.call (.sync (.error .transferError)))) t →
    ∃ v f w, app.gate.eval v = (.error f, w)
  moved : ∀ t, Step net callbacks s (.use (.call (.sync (.ok ())))) t → Moved c es s t
  /-- Without a transfer nothing moved, on neither side. -/
  stalled : ∀ f t, Step net callbacks s (.use (.call (.sync (.error f)))) t →
    t.world.1 = s.world.1 ∧ t.station.stream.image = s.station.stream.image
  /-- Bytes of a consumed buffer can be published, and change just these bytes. No copy has more
  bytes than there are positions. -/
  publishes : ∀ id off data, c.Consumed id → off + data.length ≤ c.sizeOf id →
    s.world.1.consumer.length < UInt64.size →
    s.world.1.publishAt? id off data = some (.ok (), s.world.1.published c id off data)
  /-- No other bytes can, and then nothing changes. -/
  refuses : ∀ id off data, ¬ (c.Consumed id ∧ off + data.length ≤ c.sizeOf id) →
    s.world.1.publishAt? id off data = none ∨
      ∃ f, s.world.1.publishAt? id off data = some (.error f, s.world.1)
  /-- There is no outcome exactly if the bytes begin or end where there are no positions. -/
  unanswered : ∀ id off data, s.world.1.publishAt? id off data = none ↔ c.Consumed id ∧
    (UInt64.size ≤ (c.span id).start - c.consumerPart.start + off ∨
      UInt64.size ≤ off + data.length)
  /-- The remote side can look at the produced buffers, and at no other. -/
  shows : ∀ id, (∃ b, s.world.1.produced id = .ok b) ↔ c.Produced id

/-! ## What can happen -/

variable {c : Config} {app : Surroundings υ} {net : Transport υ} {callbacks : ι → Op υ Unit}
  {k k' : Attended (Link × υ)} {es : List (Event ι)}

/-- The callback does not reach the link. -/
def Aside (k : Attended (Link × υ)) : Prop :=
  ∀ f, k.callback = some f → ∃ g : Op υ Unit, f = Op.onSecond g

theorem link_round {callback : Option (Op (Link × υ) Unit)} {l l' : Live (Link × υ)}
    {r : Except Fault Unit} (hf : ∀ f, callback = some f → ∃ g : Op υ Unit, f = Op.onSecond g)
    (hs : Live.RoundStep c app.linked callback l r l') : l'.link = l.link := by
  cases hs with
  | unattended => rfl
  | called hcallback hw =>
    obtain ⟨g, rfl⟩ := hf _ hcallback
    have hlink := Op.fst_of_onSecond hw
    exact hlink
  | failed hcallback hw =>
    obtain ⟨g, rfl⟩ := hf _ hcallback
    have hlink := Op.fst_of_onSecond hw
    exact hlink

/-- A use leaves the link alone, unless it moves both images. -/
theorem link_useStep {u : Use ι} (h : k.live.Connected c) (hf : Aside k)
    (hs : Attended.UseStep c app.linked net.linked (fun i => Op.onSecond (callbacks i)) k u k') :
    k'.live.link = k.live.link ∨ ∃ v, k'.live = k.live.exchanged c v := by
  cases hs with
  | post hs =>
    left
    cases hs <;> rfl
  | @receive p _ hs =>
    left
    generalize k.live.admission p = r at hs
    cases hs <;> rfl
  | sync hs =>
    rcases Live.SyncStep.cases_linked h hs with ⟨-, v, rfl⟩ | ⟨-, v, tally, rfl⟩
    · exact .inr ⟨v, rfl⟩
    · exact .inl rfl
  | round hs => exact .inl (link_round hf hs)
  | @async k1 k2 k3 hlog htx hrx =>
    left
    have h1 : k1.link = k.live.link := by cases hlog <;> rfl
    have h2 : k2.link = k1.link := htx.link_eq
    have h3 : k3.link = k2.link := by cases hrx <;> rfl
    exact h3.trans (h2.trans h1)
  | flag | strayFlag | strayEntry | strayFrame | attend => exact .inl rfl

/-- Work on a buffer changes at most that buffer. -/
theorem eval_edit (k : Attended (Link × υ)) (c : Config) (app : Surroundings υ) (id : BufferId)
    (op : Op Bytes Unit) :
    ∃ r l, (Endpoint.onStation (Site.onStream (Stream.editBuffer id op))).eval
        (k.endpoint c app.linked) = (r, ({ k with live := l } : Attended _).endpoint c app.linked) ∧
      (l = k.live ∨ ∃ b, l = k.live.putBuffer c id b) := by
  have hignores : (Endpoint.onStation (Site.onStream (Stream.editBuffer id op))).Ignores
      (Endpoint.withCallback k.callback) :=
    Endpoint.ignores_onStation (Station.ignores_editBuffer id op)
  unfold Attended.endpoint
  rw [hignores]
  by_cases hid : id.index < c.count
  · rcases hop : op.eval (k.live.buffer c id) with ⟨r, b⟩
    have hedit : (Endpoint.onStation (Site.onStream (Stream.editBuffer id op))).eval
        (k.live.endpoint c app.linked) = (r, (k.live.putBuffer c id b).endpoint c app.linked) :=
      Op.eval_within_of (Live.eval_editBuffer app.linked hid hop)
    exact ⟨r, _, by rw [hedit], .inr ⟨b, rfl⟩⟩
  · have hedit : (Endpoint.onStation (Site.onStream (Stream.editBuffer id op))).eval
        (k.live.endpoint c app.linked) = (.error .invalidBuffer, k.live.endpoint c app.linked) :=
      Op.eval_within_of (Live.eval_editBuffer_of_not_lt app.linked op hid)
    exact ⟨_, _, by rw [hedit], .inl rfl⟩

/-! ## The invariant -/

/-- The remote copies are what was composed so far. -/
structure Inv (c : Config) (es : List (Event ι)) (k : Attended (Link × υ)) : Prop extends
    k.live.Connected c where
  aside : Aside k
  consumed_eq : ∀ id, c.Consumed id → k.live.link.consumed c id = composed c es id

theorem inv_initial (c : Config) (u : υ) :
    Inv c ([] : List (Event ι)) (Attended.initial c (Link.fresh c, u)) where
  toConnected := Live.connected_initial c u
  aside _ hf := by cases hf
  consumed_eq _ hid := Link.consumed_fresh hid

/-- What composes nothing and leaves the link alone keeps the invariant. -/
theorem Inv.of_link_consumer_eq {e : Event ι} (h : Inv c es k) (hk : k'.live.Connected c)
    (hf : Aside k') (hlink : k'.live.link.consumer = k.live.link.consumer)
    (he : ∀ id b, e.compose id b = b) : Inv c (es ++ [e]) k' := by
  refine ⟨hk, hf, ?_⟩
  intro id hid
  rw [composed_append, he, ← h.consumed_eq id hid]
  unfold Link.consumed
  rw [hlink]

theorem Inv.use {u : Use ι} (h : Inv c es k)
    (hs : Attended.UseStep c app.linked net.linked (fun i => Op.onSecond (callbacks i)) k u k') :
    Inv c (es ++ [.use u]) k' := by
  have hsound := Attended.sound_useStep h.toSound hs
  have hf : Aside k' := Attended.callback_useStep (fun i => ⟨callbacks i, rfl⟩) h.aside hs
  rcases link_useStep h.toConnected h.aside hs with hlink | ⟨v, hv⟩
  · exact h.of_link_consumer_eq ⟨hsound, hlink ▸ h.attached⟩ hf (congrArg Link.consumer hlink)
      fun _ _ => rfl
  · have hconnected : k'.live.Connected c := hv ▸ Live.connected_exchanged h.toConnected
    have hconsumer : k'.live.link.consumer = k.live.link.consumer := by
      rw [hv]
      rfl
    exact h.of_link_consumer_eq hconnected hf hconsumer fun _ _ => rfl

/-- Publishing changes the copy of its buffer, and the copy of no other. -/
theorem Inv.publish (h : Inv c es k) (hl : c.LaidOut) {id : BufferId} {off : Nat} {data : Bytes}
    {r : Except Fault Unit} {l : Link}
    (hanswer : k.live.link.publishAt? id off data = some (r, l)) :
    Inv c (es ++ [.publish id off data r]) { k with live := k.live.setLink l } := by
  have hp := Link.eval_of_publishAt? hanswer
  by_cases hin : c.Consumed id ∧ off + data.length ≤ c.sizeOf id
  · obtain ⟨hid, hfit⟩ := hin
    have hpublished : (Link.publish id off data).eval k.live.link =
        (.ok (), k.live.link.published c id off data) :=
      Link.eval_publish h.attached hid (Nat.lt_trans hid.2 hl.prodAck_lt) hfit
    rw [hpublished] at hp
    cases hp
    refine ⟨Live.connected_setLink h.toConnected
      (h.attached.consumer (Bytes.length_overwrite _ _ _)), h.aside, ?_⟩
    intro id' hid'
    show (k.live.link.published c id off data).consumed c id' = _
    rw [composed_append, Event.compose, ← h.consumed_eq id' hid']
    by_cases hne : id = id'
    · subst hne
      rw [if_pos rfl]
      exact Link.consumed_published h.attached hid hfit
    · rw [if_neg hne]
      exact Link.consumed_published_of_ne hid hid' (Ne.symm hne) hfit
  -- what is refused composes nothing
  · obtain ⟨f, hf⟩ := Link.eval_publish_refused h.attached hl hin
    rw [hf] at hp
    cases hp
    exact h.of_link_consumer_eq h.toConnected h.aside rfl fun _ _ => rfl

theorem Inv.edit (h : Inv c es k) {id : BufferId} {op : Op Bytes Unit} {r : Except Fault Unit}
    {l : Live (Link × υ)} (hl : l = k.live ∨ ∃ b, l = k.live.putBuffer c id b) :
    Inv c (es ++ [.edit id op r]) { k with live := l } := by
  rcases hl with rfl | ⟨b, rfl⟩
  · exact h.of_link_consumer_eq h.toConnected h.aside rfl fun _ _ => rfl
  · exact h.of_link_consumer_eq (Live.connected_putBuffer h.toConnected) h.aside rfl
      fun _ _ => rfl

theorem Inv.step {e : Event ι} {s : Endpoint (Link × υ)} (h : Inv c es k) (hc : c.Accepted)
    (hs : Step net callbacks (k.endpoint c app.linked) e s) :
    ∃ k' : Attended (Link × υ), s = k'.endpoint c app.linked ∧ Inv c (es ++ [e]) k' := by
  cases hs with
  | use hu =>
    obtain ⟨k', rfl, hstep⟩ := Attended.useStep_of_uses hc h.toSound hu
    exact ⟨k', rfl, h.use hstep⟩
  | @edit id op _ _ he =>
    obtain ⟨r, l, hedit, hl⟩ := eval_edit k c app id op
    rw [hedit] at he
    cases he
    exact ⟨_, rfl, h.edit hl⟩
  | publish hp => exact ⟨_, rfl, h.publish hc.toLaidOut hp⟩

/-! ## What they agree on -/

/-- A transfer that fails was refused by the application. -/
theorem exists_gate_error {l l' : Live (Link × υ)} (h : l.Connected c)
    (hs : Live.SyncStep c app.linked l (.error .transferError) l') :
    ∃ v f w, app.gate.eval v = (.error f, w) := by
  cases hs with
  | @broken f w w' b htime hmove =>
    have hw : w.1 = l.link := Op.fst_of_onSecond htime
    rw [Live.eval_transfer_linked app h hw] at hmove
    rcases hg : app.gate.eval w.2 with ⟨f' | _, v⟩
    · exact ⟨w.2, f', v, hg⟩
    · rw [hg] at hmove
      cases hmove

/-- The first half of a cycle of an endpoint in use. -/
theorem syncStep_of_step {r : Except Fault Unit} {t : Endpoint (Link × υ)} (h : Inv c es k)
    (hc : c.Accepted)
    (hs : Step net callbacks (k.endpoint c app.linked) (.use (.call (.sync r))) t) :
    ∃ l, t = ({ k with live := l } : Attended (Link × υ)).endpoint c app.linked ∧
      Live.SyncStep c app.linked k.live r l := by
  cases hs with
  | use hu =>
    obtain ⟨k', rfl, hstep⟩ := Attended.useStep_of_uses hc h.toSound hu
    cases hstep with
    | sync hsync => exact ⟨_, rfl, hsync⟩

theorem buffer?_endpoint {id : BufferId} (hid : id.index < c.count) :
    (k.endpoint c app.linked).station.stream.buffer? id = some (k.live.buffer c id) :=
  Live.buffer?_station app.linked hid

theorem buffer?_endpoint_of_not_lt {id : BufferId} (hid : ¬ id.index < c.count) :
    (k.endpoint c app.linked).station.stream.buffer? id = none :=
  Live.buffer?_station_of_not_lt app.linked hid

theorem Inv.moved (h : Inv c es k) (hl : c.LaidOut) (v : υ) :
    Moved c es (k.endpoint c app.linked)
      (({ k with live := k.live.exchanged c v } : Attended _).endpoint c app.linked) where
  consumed id hid := by
    rw [buffer?_endpoint (Nat.lt_trans hid.2 hl.prodAck_lt)]
    exact congrArg some ((Live.buffer_exchanged h.toConnected hid).trans (h.consumed_eq id hid))
  produced id hid := by
    refine ⟨_, buffer?_endpoint hid.2, ?_⟩
    exact (Link.produced_eq (Live.connected_exchanged h.toConnected).attached hid).trans
      (congrArg Except.ok (Live.sent_exchanged hid))
  untouched id hid := by
    by_cases hlt : id.index < c.count
    · rw [buffer?_endpoint hlt, buffer?_endpoint hlt]
      exact congrArg some (Live.buffer_exchanged_of_not hl hid)
    · rw [buffer?_endpoint_of_not_lt hlt, buffer?_endpoint_of_not_lt hlt]
  transfers := rfl

theorem Inv.agrees (h : Inv c es k) (hc : c.Accepted) :
    Agrees c app net callbacks es (k.endpoint c app.linked) where
  exchanges := by
    have hexchange := Link.eval_exchange h.attached
      (Span.length_read (Live.fits_producerPart h.toSound))
    rw [← Span.length_read (Live.fits_consumerPart h.toSound)] at hexchange
    exact congrArg Prod.fst hexchange
  gated t ht := by
    obtain ⟨l, -, hs⟩ := syncStep_of_step h hc ht
    exact exists_gate_error h.toConnected hs
  moved t ht := by
    obtain ⟨l, rfl, hs⟩ := syncStep_of_step h hc ht
    rcases Live.SyncStep.cases_linked h.toConnected hs with ⟨-, v, rfl⟩ | ⟨⟨f, hf⟩, -⟩
    · exact h.moved hc.toLaidOut v
    · cases hf
  stalled f t ht := by
    obtain ⟨l, rfl, hs⟩ := syncStep_of_step h hc ht
    rcases Live.SyncStep.cases_linked h.toConnected hs with ⟨hok, -⟩ | ⟨-, v, tally, rfl⟩
    · cases hok
    · exact ⟨rfl, rfl⟩
  publishes id off data hid hfit hcopy :=
    Link.publishAt?_eq_ok h.attached hc.toLaidOut hid hfit hcopy
  refuses id off data hout := Link.publishAt?_refused h.attached hc.toLaidOut hout
  unanswered id off data := Link.publishAt?_eq_none_iff h.attached hc.toLaidOut
  shows id := by
    constructor
    · intro hb
      obtain ⟨b, hb⟩ := hb
      refine Decidable.byContradiction fun hid => ?_
      obtain ⟨f, hf⟩ := Link.exists_producerSpan_eq_error h.attached hc.toLaidOut hid
      have hnone : k.live.link.produced id = .error f := by
        unfold Link.produced
        rw [hf]
        rfl
      cases hnone.symm.trans hb
    · intro hid
      exact ⟨_, Link.produced_eq h.attached hid⟩

/-- An endpoint and the remote side of its link agree on where every buffer lies, whatever both
sides did before. -/
theorem agrees_of_run {u : υ} {l : Link} {e s : Endpoint (Link × υ)} {w : Link × υ}
    (hlink : (Link.create c : Op Unit Link).eval () = (.ok l, ()))
    (hopen : (Endpoint.create c app.linked.hooks).eval (l, u) = (.ok e, w))
    (hrun : Run (Step net callbacks) e es s) : Agrees c app net callbacks es s := by
  obtain ⟨hc, rfl, rfl, rfl⟩ := (Live.create_linked app).mp ⟨hlink, hopen⟩
  obtain ⟨k, rfl, hk⟩ : ∃ k : Attended (Link × υ), s = k.endpoint c app.linked ∧ Inv c es k := by
    refine hrun.invariant
      (I := fun es s => ∃ k : Attended (Link × υ), s = k.endpoint c app.linked ∧ Inv c es k)
      ⟨Attended.initial c (Link.fresh c, u), rfl, inv_initial c u⟩ ?_
    intro es s ev t h hs
    obtain ⟨k, rfl, hk⟩ := h
    exact hk.step hc hs
  exact hk.agrees hc

/-- Publishing is a step of the remote side. -/
theorem publish_step (app : Surroundings υ) (net : Transport υ) (callbacks : ι → Op υ Unit)
    {l : Live (Link × υ)} (hl : c.LaidOut) (h : l.Connected c) {id : BufferId} (off : Nat)
    (data : Bytes) (hid : c.Consumed id) (hfit : off + data.length ≤ c.sizeOf id)
    (hcopy : l.link.consumer.length < UInt64.size) :
    Step net callbacks (l.endpoint c app.linked) (.publish id off data (.ok ()))
      ((l.setLink (l.link.published c id off data)).endpoint c app.linked) :=
  .publish (Link.publishAt?_eq_ok h.attached hl hid hfit hcopy)

/-- Two bytes are published, and the next transfer brings them. A byte at the last position there is
ends where there is none. -/
theorem agrees_of_run_reference :
    let c := Config.reference
    let callbacks : Empty → Op Unit Unit := fun i => i.elim
    let es : List (Event Empty) := [.publish c.statusOut 1 [7, 8] (.ok ())]
    ∃ e s t : Endpoint (Link × Unit),
      (Link.create c : Op Unit Link).eval () = (.ok (Link.fresh c), ()) ∧
      (Endpoint.create c Surroundings.quiet.linked.hooks).eval (Link.fresh c, ()) =
        (.ok e, (Link.fresh c, ())) ∧
      Run (Step Transport.quiet callbacks) e es s ∧
      Agrees c Surroundings.quiet Transport.quiet callbacks es s ∧
      s.world.1.publishAt? c.statusOut (2 ^ 64 - 1) [7] = none ∧
      Step Transport.quiet callbacks s (.use (.call (.sync (.ok ())))) t ∧
      t.station.stream.buffer? c.statusOut = some ([0, 7, 8] ++ List.replicate 9 0) := by
  intro c callbacks es
  have hc : c.Accepted := Config.accepted_reference
  have hout : c.Consumed c.statusOut := by decide
  obtain ⟨hlink, hopen⟩ := (Live.create_linked Surroundings.quiet (u := ())).mpr ⟨hc, rfl, rfl, rfl⟩
  let k0 : Live (Link × Unit) := Live.initial c (Link.fresh c, ())
  have h0 : k0.Connected c := Live.connected_initial c ()
  let k1 := k0.setLink (k0.link.published c c.statusOut 1 [7, 8])
  have h1 : k1.Connected c :=
    Live.connected_setLink h0 (h0.attached.consumer (Bytes.length_overwrite _ _ _))
  have hpublish := publish_step Surroundings.quiet Transport.quiet callbacks
    hc.toLaidOut h0 1 [7, 8] hout (show 1 + 2 ≤ Status.outSize by decide)
    (h0.attached.length_consumer ▸ by decide)
  have hsync := Live.eval_processSync_linked Surroundings.quiet hc h1
    (Op.eval_pure () ()) (Op.eval_pure () ())
  have hrun : Run (Step Transport.quiet callbacks) _ es
      (k1.endpoint c Surroundings.quiet.linked) := Run.one hpublish
  have hstep : Step Transport.quiet callbacks (k1.endpoint c Surroundings.quiet.linked)
      (.use (.call (.sync (.ok ())))) _ := .use (.call (.sync hsync))
  have hagrees := agrees_of_run hlink hopen hrun
  exact ⟨_, _, _, hlink, hopen, hrun, hagrees,
    (hagrees.unanswered c.statusOut _ _).mpr ⟨hout, .inr (by decide)⟩, hstep,
    ((hagrees.moved _ hstep).consumed c.statusOut hout).trans rfl⟩

end Agreement

end SlimInterface
