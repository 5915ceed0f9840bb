import SlimInterface.Proofs.Endpoint.Posted
import SlimInterface.Proofs.Logbook.Acknowledge
import SlimInterface.Proofs.Remote.Agreement
import SlimInterface.Proofs.Remote.Take

/-!
# Entries in buffers of any content

Writing an entry and reading it are each other's inverse in every buffer that is long enough, and
both fail in a shorter one. Writing touches the places of the fields and no other, so what lay
there before does not show in what is read afterwards.

That is why a post that succeeds leaves exactly its entry in the buffer of its channel, on any
stream and whatever the buffer held (`LogChannel.imprint_of_posted`). From there it is a matter of
the transfer: as long as the entry is outstanding its buffer stays as it is, so from the first
transfer on the remote side reads the entry that was posted, and can take no other
(`Reading.Joined.reaches`).
-/

namespace SlimInterface

variable {ω υ ι : Type}

/-! ## Posting -/

namespace LogChannel

/-- A post that succeeds found a buffer that is long enough, and left its entry there. -/
theorem imprint_of_posted {e : LogEntry} {c c' : LogChannel} {s s' : Station ω}
    (h : (post e).eval (c, s) = (.ok .successful, c', s')) :
    ∃ b, s.stream.buffer? c.buffer = some b ∧ LogEntry.bufferSize ≤ b.length ∧
      s'.stream.buffer? c.buffer = some (LogEntry.imprint c.seq e b) := by
  unfold post at h
  rw [Op.eval_bind_ok (Op.eval_read _)] at h
  dsimp only at h
  cases hl : c.locked with
  | true =>
    rw [hl, if_pos rfl] at h
    cases h
  | false =>
    rw [hl, if_neg Bool.false_ne_true] at h
    obtain ⟨_, ⟨c1, s1⟩, hedit, hrest⟩ := Op.eval_bind_eq_ok.mp h
    -- what follows the edit leaves the stream alone
    have hstream : s'.stream = s1.stream := by
      cases hrest
      rfl
    rw [Op.eval_onSecond] at hedit
    unfold Site.onStream at hedit
    rw [Op.eval_within] at hedit
    cases hd : s.stream.descriptor? c.buffer with
    | none =>
      rw [Stream.eval_editBuffer_of_none hd] at hedit
      cases hedit
    | some d =>
      refine ⟨_, Stream.buffer?_of_descriptor? hd, ?_⟩
      rw [Stream.eval_editBuffer hd] at hedit
      by_cases hlen : LogEntry.bufferSize ≤ (d.span.read s.stream.image).length
      · rw [LogEntry.eval_stage_of_le hlen] at hedit
        cases hedit
        have hd' : s'.stream.descriptor? c.buffer = some d := by
          rw [hstream]
          exact hd
        refine ⟨hlen, ?_⟩
        rw [Stream.buffer?_of_descriptor? hd', hstream]
        exact congrArg some (Span.read_place_of_length LogEntry.length_imprint)
      · rw [LogEntry.eval_stage_of_lt (Nat.lt_of_not_le hlen)] at hedit
        cases hedit

end LogChannel

/-- The same of an endpoint in any state. -/
theorem Endpoint.imprint_of_posted {channel : UInt8} {e : LogEntry} {s t : Endpoint ω}
    (h : (postLogEntry channel e).eval s = (.ok .successful, t)) :
    ∃ b, s.station.stream.buffer? s.log.buffer = some b ∧ LogEntry.bufferSize ≤ b.length ∧
      t.station.stream.buffer? s.log.buffer = some (LogEntry.imprint s.log.seq e b) := by
  unfold postLogEntry at h
  split at h
  · cases h
  · unfold onLog at h
    rw [Op.eval_within] at h
    rcases hpost : (LogChannel.post e).eval (s.log, s.station) with ⟨r, c', s'⟩
    rw [hpost] at h
    cases h
    exact LogChannel.imprint_of_posted hpost

/-- There is one logbook channel to post on. -/
theorem Endpoint.channel_of_posted {channel : UInt8} {e : LogEntry} {a : Posting}
    {s t : Endpoint ω} (h : (postLogEntry channel e).eval s = (.ok a, t)) : channel = 0 := by
  apply Decidable.byContradiction
  intro hne
  unfold postLogEntry at h
  rw [if_pos (show logChannelCount ≤ _ from Attended.one_le_of_ne hne)] at h
  cases h

namespace Reading

/-! ## Runs -/

/-- What happens between an endpoint and the remote side of its link. -/
inductive Event (ι : Type)
  | use (u : Use ι)
  /-- The application works on a buffer of its stream. -/
  | edit (id : BufferId)
  /-- The remote side changes what it publishes. -/
  | remote

/-- The steps of both sides. The remote side may publish anything at all. -/
inductive Step (net : Transport υ) (callbacks : ι → Op υ Unit) (s : Endpoint (Link × υ)) :
    Event ι → Endpoint (Link × υ) → Prop
  | use {u : Use ι} {t : Endpoint (Link × υ)}
      (h : s.Uses net.linked (fun i => Op.onSecond (callbacks i)) u t) :
      Step net callbacks s (.use u) t
  | edit {id : BufferId} {op : Op Bytes Unit} {r : Except Fault Unit} {t : Endpoint (Link × υ)}
      (h : (Endpoint.onStation (Site.onStream (Stream.editBuffer id op))).eval s = (r, t)) :
      Step net callbacks s (.edit id) t
  | remote {consumer : Bytes} (hlen : consumer.length = s.world.1.consumer.length) :
      Step net callbacks s .remote (s.setWorld ({ s.world.1 with consumer }, s.world.2))

/-- The steps while an entry is outstanding. The application keeps off the logbook buffer. -/
def Outstanding (c : Config) (net : Transport υ) (callbacks : ι → Op υ Unit)
    (s : Endpoint (Link × υ)) (e : Event ι) (t : Endpoint (Link × υ)) : Prop :=
  Step net callbacks s e t ∧ s.log.locked = true ∧ t.log.locked = true ∧ e ≠ .edit c.logBuffer

/-- What the remote side reads is the entry, which carries the number `seq`. -/
structure Reads (c : Config) (seq : SeqNr) (entry : LogEntry) (s : Endpoint (Link × υ)) :
    Prop where
  decoded : ∃ b, s.world.1.produced c.logBuffer = .ok b ∧ LogEntry.read b = .ok entry
  /-- No other entry is taken. -/
  taken : ∀ other l, s.world.1.take? 0 = some (.ok (some other), l) → other = entry
  /-- This one is, unless the remote side shows its number already. -/
  offered : c.Consumed c.statusOut → Logbook.shown c s.world.1 ≠ seq →
    ∃ l, s.world.1.take? 0 = some (.ok (some entry), l)

/-- A transfer both sides came through. -/
def transfer : Event ι := .use (.call (.sync (.ok ())))

/-- After a post that succeeds, from the first transfer on and as long as the entry is outstanding,
the remote side reads the entry. -/
def Reaches (c : Config) (net : Transport υ) (callbacks : ι → Op υ Unit)
    (s : Endpoint (Link × υ)) : Prop :=
  ∀ (channel : UInt8) (entry : LogEntry) (t u : Endpoint (Link × υ)) (es : List (Event ι)),
    (Endpoint.postLogEntry channel entry).eval s = (.ok .successful, t) →
    Run (Outstanding c net callbacks) t es u → transfer ∈ es → Reads c s.log.seq entry u

variable {c : Config} {app : Surroundings υ} {net : Transport υ} {callbacks : ι → Op υ Unit}
  {k k' : Attended (Link × υ)}

/-! ## Every step -/

/-- The two sides belong together, and the callback does not reach the link. -/
structure Joined (c : Config) (k : Attended (Link × υ)) : Prop extends k.live.Connected c where
  aside : Agreement.Aside k

theorem joined_initial (c : Config) (u : υ) : Joined c (Attended.initial c (Link.fresh c, u)) :=
  ⟨Live.connected_initial c u, fun _ hf => by cases hf⟩

theorem Joined.use {u : Use ι} (h : Joined c k)
    (hs : Attended.UseStep c app.linked net.linked (fun i => Op.onSecond (callbacks i)) k u k') :
    Joined c k' := by
  refine ⟨?_, Attended.callback_useStep (fun i => ⟨callbacks i, rfl⟩) h.aside hs⟩
  rcases Agreement.link_useStep h.toConnected h.aside hs with hlink | ⟨v, hv⟩
  · exact ⟨Attended.sound_useStep h.toSound hs, hlink ▸ h.attached⟩
  · exact hv ▸ Live.connected_exchanged h.toConnected

theorem Joined.remote {consumer : Bytes} (h : Joined c k)
    (hlen : consumer.length = k.live.link.consumer.length) :
    Joined c { k with live := k.live.setLink { k.live.link with consumer } } :=
  ⟨Live.connected_setLink h.toConnected (h.attached.consumer hlen), h.aside⟩

theorem Joined.putBuffer (h : Joined c k) (id : BufferId) (b : Bytes) :
    Joined c { k with live := k.live.putBuffer c id b } :=
  ⟨Live.connected_putBuffer h.toConnected, h.aside⟩

theorem Joined.step {e : Event ι} {s : Endpoint (Link × υ)} (h : Joined c k) (hc : c.Accepted)
    (hs : Step net callbacks (k.endpoint c app.linked) e s) :
    ∃ k', s = Attended.endpoint c app.linked k' ∧ Joined c k' := by
  cases hs with
  | use hu =>
    obtain ⟨k', rfl, hstep⟩ := Attended.useStep_of_uses hc h.toSound hu
    exact ⟨k', rfl, h.use hstep⟩
  | @edit id op _ _ he =>
    obtain ⟨r, l, hedit, hl⟩ := Agreement.eval_edit k c app id op
    rw [hedit] at he
    cases he
    rcases hl with rfl | ⟨b, rfl⟩
    · exact ⟨k, rfl, h⟩
    · exact ⟨_, rfl, h.putBuffer id b⟩
  | remote hlen => exact ⟨_, rfl, h.remote hlen⟩

/-! ## While the entry is outstanding -/

/-- The logbook buffer holds `b`, and so does the copy of the remote side once something moved. -/
structure Holds (c : Config) (b : Bytes) (es : List (Event ι)) (k : Attended (Link × υ)) :
    Prop extends Joined c k where
  staged : k.live.buffer c c.logBuffer = b
  sent : transfer ∈ es → k.live.link.sent c c.logBuffer = b

theorem Holds.use {b : Bytes} {es : List (Event ι)} {u : Use ι} (h : Holds c b es k)
    (hc : c.Accepted) (hlog : c.Produced c.logBuffer) (hl : k.live.logLocked = true)
    (hs : Attended.UseStep c app.linked net.linked (fun i => Op.onSecond (callbacks i)) k u k') :
    Holds c b (es ++ [.use u]) k' := by
  have hkept : k'.live.buffer c c.logBuffer = k.live.buffer c c.logBuffer :=
    Attended.buffer_useStep hc hlog.not_consumed (by rw [hc.logBuffer_size]; decide) (fun _ => hl)
      (fun heq => absurd heq (Live.ssdoProducer_ne_logBuffer hc).symm) hs
  have hmoved {v : υ} (hv : k'.live = k.live.exchanged c v) :
      k'.live.link.sent c c.logBuffer = b := by
    rw [hv, Live.sent_exchanged hlog, h.staged]
  refine ⟨h.toJoined.use hs, hkept.trans h.staged, ?_⟩
  intro hmem
  rcases List.mem_append.mp hmem with hbefore | hnow
  -- it moved before: the copy stays, or is filled from the same buffer again
  · rcases Agreement.link_useStep h.toConnected h.aside hs with hlink | ⟨v, hv⟩
    · rw [hlink]
      exact h.sent hbefore
    · exact hmoved hv
  -- it moves now
  · obtain rfl : Use.call (.sync (.ok ())) = u := by
      have heq := List.mem_singleton.mp hnow
      exact Event.use.inj heq
    cases hs with
    | sync hsync =>
      rcases Live.SyncStep.cases_linked h.toConnected hsync with ⟨-, v, hv⟩ | ⟨⟨f, hf⟩, -⟩
      · exact hmoved hv
      · cases hf

theorem Holds.step {b : Bytes} {es : List (Event ι)} {e : Event ι} {s : Endpoint (Link × υ)}
    (h : Holds c b es k) (hc : c.Accepted) (hlog : c.Produced c.logBuffer)
    (hs : Outstanding c net callbacks (k.endpoint c app.linked) e s) :
    ∃ k', s = Attended.endpoint c app.linked k' ∧ Holds c b (es ++ [e]) k' := by
  obtain ⟨hstep, hl, -, hoff⟩ := hs
  have hbefore (hne : e ≠ transfer) (hmem : transfer ∈ es ++ [e]) : transfer ∈ es := by
    rcases List.mem_append.mp hmem with hes | hnow
    · exact hes
    · exact absurd (List.mem_singleton.mp hnow).symm hne
  cases hstep with
  | use hu =>
    obtain ⟨k', rfl, huse⟩ := Attended.useStep_of_uses hc h.toSound hu
    exact ⟨k', rfl, h.use hc hlog hl huse⟩
  | @edit id op _ _ he =>
    obtain ⟨r, l, hedit, hcase⟩ := Agreement.eval_edit k c app id op
    rw [hedit] at he
    cases he
    rcases hcase with rfl | ⟨d, rfl⟩
    · exact ⟨k, rfl, h.toJoined, h.staged, fun hm => h.sent (hbefore nofun hm)⟩
    · have hne : c.logBuffer ≠ id := fun heq => hoff (congrArg Event.edit heq.symm)
      exact ⟨_, rfl, h.toJoined.putBuffer id d, (Live.buffer_putBuffer_of_ne hne).trans h.staged,
        fun hm => h.sent (hbefore nofun hm)⟩
  | remote hlen =>
    exact ⟨_, rfl, h.toJoined.remote hlen, h.staged, fun hm => h.sent (hbefore nofun hm)⟩

/-- What the remote side makes of its copy. -/
theorem Holds.reads {b : Bytes} {es : List (Event ι)} {seq : SeqNr} {entry : LogEntry}
    (h : Holds c b es k) (hc : c.Accepted) (hlog : c.Produced c.logBuffer)
    (hmem : transfer ∈ es) (hr : LogEntry.read b = .ok entry)
    (hflag : b.flagAt LogEntry.seqOffset = seq) :
    Reads c seq entry (k.endpoint c app.linked) := by
  have hsent := h.sent hmem
  have hproduced : k.live.link.produced c.logBuffer = .ok b := by
    rw [Link.produced_eq h.attached hlog, hsent]
  refine ⟨⟨b, hproduced, hr⟩, ?_, ?_⟩
  · intro other l htake
    have hways := k.live.link.takes 0
    rw [show k.live.link.take? 0 = _ from htake] at hways
    cases hways with
    | taken hb _ _ _ he =>
      rw [h.attached.logBuffer, hproduced] at hb
      cases hb
      exact (Except.ok.inj (hr.symm.trans he)).symm
  · intro hout hne
    rcases Link.takeLogEntry?_eq hc h.attached hout hlog with ⟨heq, -⟩ | ⟨-, e', lines, he, htake⟩
    · rw [hsent, hflag] at heq
      exact absurd heq.symm hne
    · rw [hsent, hr] at he
      cases he
      have hanswer : k.live.link.take? 0 = some (.ok (some entry), k.live.link.taken c) := by
        unfold Link.take?
        rw [htake]
        rfl
      exact ⟨_, hanswer⟩

/-- An entry that is posted in any state of the two sides reaches the remote side. -/
theorem Joined.reaches (h : Joined c k) (hc : c.Accepted) (hlog : c.Produced c.logBuffer) :
    Reaches c net callbacks (k.endpoint c app.linked) := by
  intro channel entry t u es hpost hrun hmem
  obtain rfl := Endpoint.channel_of_posted hpost
  obtain ⟨b, hb, hlen, hposted⟩ := Endpoint.imprint_of_posted hpost
  have hsize : b.length = LogEntry.bufferSize := by
    have hbuffer : (k.endpoint c app.linked).station.stream.buffer? c.logBuffer =
        some (k.live.buffer c c.logBuffer) := Agreement.buffer?_endpoint hlog.2
    rw [← Option.some.inj (hbuffer.symm.trans hb), Live.length_buffer h.toSound, hc.logBuffer_size]
  have hstep : Step net callbacks (k.endpoint c app.linked) _ t := .use (.call (.post hpost))
  obtain ⟨k1, rfl, h1⟩ := h.step hc hstep
  have hstaged : k1.live.buffer c c.logBuffer = LogEntry.imprint k.live.logSeq entry b :=
    Option.some.inj ((Agreement.buffer?_endpoint hlog.2).symm.trans hposted)
  obtain ⟨k2, rfl, h2⟩ : ∃ k2, u = Attended.endpoint c app.linked k2 ∧
      Holds c (LogEntry.imprint k.live.logSeq entry b) es k2 := by
    refine hrun.invariant (I := fun es u => ∃ k2, u = Attended.endpoint c app.linked k2 ∧
      Holds c (LogEntry.imprint k.live.logSeq entry b) es k2) ⟨k1, rfl, h1, hstaged, nofun⟩ ?_
    intro es _ e t hi hs
    obtain ⟨k2, rfl, h2⟩ := hi
    exact h2.step hc hlog hs
  exact h2.reads hc hlog hmem (LogEntry.read_imprint hsize) (LogEntry.flagAt_imprint hsize)

/-- With nobody refusing anything, an entry that is posted over any bytes is read after one
transfer. -/
theorem run_read {k : Live (Link × Unit)} (callbacks : ι → Op Unit Unit) (hc : c.Accepted)
    (hlog : c.Produced c.logBuffer) (h : k.Connected c) (hfree : k.logLocked = false) {b : Bytes}
    (hb : b.length = LogEntry.bufferSize) (entry : LogEntry) :
    ∃ s t u : Endpoint (Link × Unit),
      Step Transport.quiet callbacks (k.endpoint c Surroundings.quiet.linked)
        (.edit c.logBuffer) s ∧ s.log.seq = k.logSeq ∧
      s.station.stream.buffer? c.logBuffer = some b ∧
      (Endpoint.postLogEntry 0 entry).eval s = (.ok .successful, t) ∧
      Run (Outstanding c Transport.quiet callbacks) t [transfer] u ∧
      u.world.1.produced c.logBuffer = .ok (LogEntry.imprint k.logSeq entry b) := by
  let k1 := k.putBuffer c c.logBuffer b
  have h1 : k1.Connected c := Live.connected_putBuffer h
  have h2 : (k1.entered c entry).Connected c := h1.entryStep (.posted hfree)
  have hbuffer : k1.buffer c c.logBuffer = b :=
    Live.buffer_putBuffer h.toSound (hb.trans hc.logBuffer_size.symm)
  have hedit : (Endpoint.onStation (Site.onStream (Stream.editBuffer c.logBuffer
      (Op.write b)))).eval (k.endpoint c Surroundings.quiet.linked) =
        (.ok (), k1.endpoint c Surroundings.quiet.linked) :=
    Op.eval_within_of (Live.eval_editBuffer _ hlog.2 (Op.eval_write _ _))
  have hpost := Live.eval_postLogEntry_of_free Surroundings.quiet.linked hc h1.toSound hfree entry
  have hsync := Live.eval_processSync_linked Surroundings.quiet hc h2
    (Op.eval_pure () ()) (Op.eval_pure () ())
  refine ⟨_, _, _, .edit hedit, rfl, ?_, hpost,
    .one ⟨.use (.call (.sync hsync)), rfl, rfl, nofun⟩, ?_⟩
  · exact (Live.buffer?_station _ hlog.2).trans (congrArg some hbuffer)
  · show ((k1.entered c entry).exchanged c ()).link.produced c.logBuffer = _
    rw [Link.produced_eq (Live.connected_exchanged h2).attached hlog, Live.sent_exchanged hlog,
      Live.logBuffer_entered h1.toSound, hbuffer]
    rfl

end Reading

namespace LogEntry

/-- An entry written into a buffer is the entry read from it, and one that is read can be written
back: in every buffer of at least 16 bytes, and in no other. So what a successful post leaves is
its entry, on an endpoint in any state; and it is what the remote side reads, after everything
both sides may have done before. -/
theorem read_write_and_reaches :
    (∀ (b : Bytes) (e : LogEntry),
      if 16 ≤ b.length then
        (∃ b', e.write.eval b = (.ok (), b') ∧ read b' = .ok e ∧ b'.length = b.length ∧
          ∀ i, ¬ IsField i → b'[i]? = b[i]?) ∧
        ∃ x, read b = .ok x ∧ x.write.eval b = (.ok (), b)
      else read b = .error .outOfBounds ∧ (e.write.eval b).1 = .error .outOfBounds) ∧
    (∀ {ω : Type} (channel : UInt8) (entry : LogEntry) (s t : Endpoint ω),
      (Endpoint.postLogEntry channel entry).eval s = (.ok .successful, t) →
        ∃ b, t.station.stream.buffer? s.log.buffer = some b ∧ read b = .ok entry) ∧
    ∀ {υ ι : Type} {c : Config} {app : Surroundings υ} (net : Transport υ)
      (callbacks : ι → Op υ Unit) {u : υ} {l : Link} {e s : Endpoint (Link × υ)} {w : Link × υ}
      {es : List (Reading.Event ι)}, (Link.create c : Op Unit Link).eval () = (.ok l, ()) →
        (Endpoint.create c app.linked.hooks).eval (l, u) = (.ok e, w) → c.Produced c.logBuffer →
        Run (Reading.Step net callbacks) e es s → Reading.Reaches c net callbacks s := by
  refine ⟨?_, ?_, ?_⟩
  · intro b e
    split
    · next h =>
      obtain ⟨x, hx⟩ := read_of_le h
      refine ⟨⟨fill e b, eval_write_of_le h, read_fill h, length_fill, fun i => getElem?_fill⟩,
        x, hx, ?_⟩
      rw [eval_write_of_le h, fill_of_read hx]
    · next h => exact ⟨read_of_lt (Nat.lt_of_not_le h), eval_write_of_lt (Nat.lt_of_not_le h)⟩
  · intro ω channel entry s t hpost
    obtain ⟨b, -, hlen, hposted⟩ := Endpoint.imprint_of_posted hpost
    exact ⟨_, hposted, read_imprint_of_le hlen⟩
  · intro υ ι c app net callbacks u l e s w es hlink hopen hlog hrun
    obtain ⟨hc, rfl, rfl, rfl⟩ := (Live.create_linked app).mp ⟨hlink, hopen⟩
    obtain ⟨k, rfl, hk⟩ : ∃ k, s = Attended.endpoint c app.linked k ∧ Reading.Joined c k := by
      refine hrun.invariant (I := fun _ s => ∃ k, s = Attended.endpoint c app.linked k ∧
        Reading.Joined c k)
        ⟨Attended.initial c (Link.fresh c, u), rfl, Reading.joined_initial c u⟩ ?_
      intro _ _ ev t h hs
      obtain ⟨k, rfl, hk⟩ := h
      exact hk.step hc hs
    exact hk.reaches hc hlog

/-- The buffer was full of ones before the entry was posted. -/
theorem read_write_and_reaches_ones :
    let c := Config.reference
    let entry : LogEntry := ⟨3, 2, 0x1234, 7, 9⟩
    let callbacks : Empty → Op Unit Unit := fun i => i.elim
    ∃ e s t u : Endpoint (Link × Unit),
      (Link.create c : Op Unit Link).eval () = (.ok (Link.fresh c), ()) ∧
      (Endpoint.create c Surroundings.quiet.linked.hooks).eval (Link.fresh c, ()) =
        (.ok e, (Link.fresh c, ())) ∧
      Run (Reading.Step Transport.quiet callbacks) e [.edit c.logBuffer] s ∧
      s.station.stream.buffer? c.logBuffer = some (List.replicate 16 0xff) ∧
      (Endpoint.postLogEntry 0 entry).eval s = (.ok .successful, t) ∧
      Run (Reading.Outstanding c Transport.quiet callbacks) t [Reading.transfer] u ∧
      Reading.Reads c .second entry u ∧
      u.world.1.produced c.logBuffer =
        .ok [1, 3, 2, 0xff, 0x34, 0x12, 0xff, 0xff, 7, 0, 0, 0, 9, 0, 0, 0] := by
  intro c entry callbacks
  have hc : c.Accepted := Config.accepted_reference
  have hlog : c.Produced c.logBuffer := by decide
  obtain ⟨hlink, hopen⟩ := (Live.create_linked Surroundings.quiet (u := ())).mpr ⟨hc, rfl, rfl, rfl⟩
  obtain ⟨s, t, u, hedit, hseq, hones, hpost, hafter, hbytes⟩ := Reading.run_read callbacks hc hlog
    (Live.connected_initial c ()) rfl (b := List.replicate 16 0xff) rfl entry
  have hreads := read_write_and_reaches.2.2 Transport.quiet callbacks hlink hopen hlog (.one hedit)
    0 entry t u _ hpost hafter (List.mem_singleton.mpr rfl)
  have himprint : imprint .second entry (List.replicate 16 0xff) =
      [1, 3, 2, 0xff, 0x34, 0x12, 0xff, 0xff, 7, 0, 0, 0, 9, 0, 0, 0] := by decide
  rw [hseq] at hreads
  exact ⟨_, s, t, u, hlink, hopen, .one hedit, hones, hpost, hafter, hreads,
    hbytes.trans (congrArg Except.ok himprint)⟩

end LogEntry

end SlimInterface
