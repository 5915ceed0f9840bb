import SlimInterface.Proofs.Endpoint.Use

/-!
# Faults and their accounts

Most of what can go wrong in a channel cannot go wrong in an endpoint: its channels exist, its
buffers have the sizes the channels ask for, and every frame it holds fits into one.
`Use.Expected` lists what a use can answer, and `Endpoint.InRange` what no operation reaches
beyond.

The faults of the two halves of a cycle are posted, and no other is. `incidents` reads them off
the uses; the tally counts them (`tally_useStep`), and an application that keeps a note of what
its handler is given ends with a note of just these (`note_useStep`). `accounted` says all of
it, of every application and every order of uses.
-/

namespace SlimInterface

variable {ω ι : Type}

/-- What a use answers, of an endpoint with `queued` frames in its receive queue. -/
def Use.Expected (queued : Nat) : Use ι → Prop
  | .call (.post _ a) => ∃ p, a = .ok p
  | .call (.receive p a) =>
    (a = .error .outOfBounds ↔ Frame.maxPayload < p.length) ∧
      (a = .error .fifoFull ↔ p.length ≤ Frame.maxPayload ∧ queued = receiveDepth) ∧
      (a = .ok () ∨ a = .error .outOfBounds ∨ a = .error .fifoFull)
  | .call (.sync a) => a = .ok () ∨ a = .error .timeSyncFailed ∨ a = .error .transferError
  | .call (.round a) => a = .ok () ∨ a = .error .syncCallbackFailed
  | .call (.async a) => a = .ok ()
  | .flag channel _ a => a = if channel = 0 then .ok () else .error .invalidParameter
  | .strayEntry _ _ a => a = .error .invalidParameter
  | .strayFrame _ _ a => a = .error .invalidParameter
  | .attend _ => True

/-- The incident a use amounts to: a half of a cycle that failed. -/
def Use.incident? : Use ι → Option Incident
  | .call (.sync (.error f)) => some ⟨.stream, f⟩
  | .call (.round (.error f)) => some ⟨.stream, f⟩
  | _ => none

/-- The incidents of some uses, oldest first. -/
def incidents (us : List (Use ι)) : List Incident := us.filterMap Use.incident?

/-- A buffer of a stream lies in its image. -/
def Stream.Holds (s : Stream ω) (id : BufferId) : Prop :=
  ∃ d, s.descriptor? id = some d ∧ d.span.Fits s.image

/-- What the operations of an endpoint index and slice is there. -/
structure Endpoint.InRange (s : Endpoint ω) : Prop where
  /-- Every action has its buffer. -/
  actions : ∀ r ∈ s.station.stream.pre ++ s.station.stream.post, s.station.stream.Holds r.buffer
  log : s.station.stream.Holds s.log.buffer
  tx : s.station.stream.Holds s.ssdo.tx.buffer
  rx : s.station.stream.Holds s.ssdo.rx.buffer
  /-- The image can be split before the producer part, and the consumer part lies in front. -/
  consumer : s.station.stream.consumer.start + s.station.stream.consumer.size ≤
    s.station.stream.producer.start
  producer : s.station.stream.producer.Fits s.station.stream.image
  /-- Every frame that is kept fits into the room for it. -/
  sending : s.ssdo.tx.payload.length ≤ Frame.maxPayload
  queued : ∀ p ∈ s.ssdo.rx.queue, p.length ≤ Frame.maxPayload
  cached : ∀ p, s.ssdo.rx.cached = some p → p.length ≤ Frame.maxPayload

/-! ## Taking note -/

/-- The application that keeps a note of every incident its handler is given. Nothing else
reaches the note. -/
def Application.noting (app : Application ω) : Application (ω × List Incident) where
  transfer producer := (app.transfer producer).within (fun p => (p.1, p.2.1)) fun q p =>
    (q.1, q.2, p.2.2)
  timeSync t := Op.onFirst (app.timeSync t)
  incidents i w := (((app.incidents i w.1).1, w.2 ++ [i]), (app.incidents i w.1).2)

/-- The network of an application that keeps a note. -/
def Transport.noting (net : Transport ω) : Transport (ω × List Incident) where
  send id p := Op.onFirst (net.send id p)
  poll id w := ((net.poll id w.1).1, (net.poll id w.1).2, w.2)

/-! ## Tallies -/

namespace Tally

/-- The tally of some incidents, oldest first. -/
def of (is : List Incident) : Tally := ⟨min is.length limit, is.getLast?⟩

theorem of_append_one (is : List Incident) (i : Incident) : of (is ++ [i]) = (of is).record i := by
  unfold of record
  rw [List.length_append, List.length_singleton, List.getLast?_concat]
  congr 1
  dsimp only
  omega

end Tally

theorem incidents_append (us : List (Use ι)) (u : Use ι) :
    incidents (us ++ [u]) = incidents us ++ u.incident?.toList :=
  filterMap_append_one _ us u

namespace Attended

open Live

variable {c : Config} {app : Application ω} {net : Transport ω} {callbacks : ι → Op ω Unit}
  {k k' : Attended ω} {u : Use ι}

/-! ## What a use can answer -/

/-- What is kept of an endpoint so that nothing else can go wrong. -/
structure Bounded (k : Attended ω) : Prop where
  queue_le : k.live.queue.length ≤ receiveDepth
  sending_le : k.live.payload.length ≤ Frame.maxPayload

theorem bounded_initial (c : Config) (w : ω) : (initial c w).Bounded :=
  ⟨Nat.zero_le _, Nat.zero_le _⟩

theorem Bounded.useStep (h : k.Bounded) (hs : UseStep c app net callbacks k u k') :
    k'.Bounded := by
  obtain ⟨hqueue, hsending⟩ := h
  cases hs with
  | post hs => cases hs <;> exact ⟨hqueue, hsending⟩
  | @receive p _ hs =>
    generalize k.live.admission p = r at hs
    cases hs with
    | refused => exact ⟨hqueue, hsending⟩
    | queued _ hroom =>
      refine ⟨?_, hsending⟩
      show (k.live.queue ++ [p]).length ≤ receiveDepth
      rw [List.length_append, List.length_singleton]
      exact hroom
  | sync hs => cases hs <;> exact ⟨hqueue, hsending⟩
  | round hs => cases hs <;> exact ⟨hqueue, hsending⟩
  | @async k1 k2 k3 hlog htx hrx =>
    have h1 : k1.queue = k.live.queue ∧ k1.payload = k.live.payload := by
      cases hlog <;> exact ⟨rfl, rfl⟩
    -- what is captured was read as a frame
    have h2 : k2.queue = k1.queue ∧ k2.payload.length ≤ Frame.maxPayload := by
      rw [← h1.2] at hsending
      cases htx with
      | captured _ hf => exact ⟨rfl, Frame.length_payload_of_read hf⟩
      | _ => exact ⟨rfl, hsending⟩
    have h3 : k3.queue.length ≤ k2.queue.length ∧ k3.payload = k2.payload := by
      cases hrx with
      | idle => exact ⟨Nat.le_refl _, rfl⟩
      | posted _ hq =>
        rw [hq]
        exact ⟨Nat.le_succ _, rfl⟩
      | postponed _ hq =>
        rw [hq]
        exact ⟨Nat.le_succ _, rfl⟩
      | reposted => exact ⟨Nat.le_refl _, rfl⟩
      | waiting => exact ⟨Nat.le_refl _, rfl⟩
    refine ⟨?_, by rw [h3.2]; exact h2.2⟩
    rw [h2.1, h1.1] at h3
    exact Nat.le_trans h3.1 hqueue
  | flag | strayFlag | strayEntry | strayFrame | attend => exact ⟨hqueue, hsending⟩

theorem expected_receive (h : k.Bounded) (p : Bytes) :
    (Use.call (.receive p (k.live.admission p)) : Use ι).Expected k.live.queue.length := by
  have hle := h.queue_le
  unfold Use.Expected admission
  by_cases hlong : Frame.maxPayload < p.length
  · rw [if_pos hlong]
    refine ⟨iff_of_true rfl hlong, iff_of_false (by simp) (by omega), ?_⟩
    exact .inr (.inl rfl)
  · rw [if_neg hlong]
    by_cases hfull : receiveDepth ≤ k.live.queue.length
    · rw [if_pos hfull]
      refine ⟨iff_of_false (by simp) hlong, iff_of_true rfl ⟨by omega, by omega⟩, ?_⟩
      exact .inr (.inr rfl)
    · rw [if_neg hfull]
      refine ⟨iff_of_false (by simp) hlong, iff_of_false (by simp) (by omega), ?_⟩
      exact .inl rfl

theorem Bounded.expected (h : k.Bounded) (hs : UseStep c app net callbacks k u k') :
    u.Expected k.live.queue.length := by
  cases hs with
  | post => exact ⟨_, rfl⟩
  | receive => exact expected_receive h _
  | sync hs =>
    cases hs with
    | refused => exact .inr (.inl rfl)
    | broken => exact .inr (.inr rfl)
    | moved => exact .inl rfl
  | round hs =>
    cases hs with
    | unattended | called => exact .inl rfl
    | failed => exact .inr rfl
  | async => exact rfl
  | flag => exact (if_pos rfl).symm
  | strayFlag hchannel => exact (if_neg hchannel).symm
  | strayEntry | strayFrame => exact rfl
  | attend => exact trivial

/-! ## What a use can reach -/

theorem holds_endpoint (h : k.live.Sound c) {id : BufferId} (hid : id.index < c.count) :
    (k.endpoint c app).station.stream.Holds id := by
  obtain ⟨d, hd, hspan, -⟩ := Config.descriptor_of_lt hid
  refine ⟨d, hd, ?_⟩
  rw [hspan]
  exact fits_span h id

theorem Bounded.inRange (h : k.Bounded) (hc : c.Accepted) (hk : k.live.Sound c) :
    (k.endpoint c app).InRange := by
  have hout : (k.endpoint c app).station.stream.Holds c.statusOut :=
    holds_endpoint hk (index_statusOut_lt hc)
  have hin : (k.endpoint c app).station.stream.Holds c.statusIn :=
    holds_endpoint hk (index_statusIn_lt hc)
  have hlog : (k.endpoint c app).station.stream.Holds c.logBuffer :=
    holds_endpoint hk (index_logBuffer_lt hc)
  have htx : (k.endpoint c app).station.stream.Holds c.ssdoConsumer :=
    holds_endpoint hk (index_ssdoConsumer_lt hc)
  refine ⟨?_, hlog, htx, holds_endpoint hk (index_ssdoProducer_lt hc), ?_, ?_, h.sending_le,
    hk.queue_fits, hk.cached_fits⟩
  · intro r hr
    have hbuffers : r.buffer ∈ [c.statusOut, c.statusOut, c.statusIn, c.logBuffer,
        c.ssdoConsumer] := List.mem_map_of_mem (f := Registration.buffer) hr
    simp only [List.mem_cons, List.not_mem_nil, or_false] at hbuffers
    rcases hbuffers with hb | hb | hb | hb | hb
    · rwa [hb]
    · rwa [hb]
    · rwa [hb]
    · rwa [hb]
    · rwa [hb]
  · have hmono := c.offset_mono (Nat.le_of_lt hc.consAck_lt)
    show c.offset c.consAck.index + (c.offset c.prodAck.index - c.offset c.consAck.index) ≤
      c.offset c.prodAck.index
    omega
  · have htotal := c.offset_le_total c.prodAck.index
    have hlen := hk.image_length
    show c.offset c.prodAck.index + (c.total - c.offset c.prodAck.index) ≤ k.live.image.length
    omega

/-! ## What is posted -/

/-- The tally after a use. -/
theorem tally_useStep (hs : UseStep c app net callbacks k u k') :
    k'.live.tally = u.incident?.elim k.live.tally k.live.tally.record := by
  cases hs with
  | post hs => cases hs <;> rfl
  | @receive p _ hs =>
    generalize k.live.admission p = r at hs
    cases hs <;> rfl
  | sync hs => cases hs <;> rfl
  | round hs => cases hs <;> rfl
  | async hlog htx hrx => cases hlog <;> cases htx <;> cases hrx <;> rfl
  | flag | strayFlag | strayEntry | strayFrame | attend => rfl

theorem tally_append {us : List (Use ι)} (h : k.live.tally = .of (incidents us))
    (hs : UseStep c app net callbacks k u k') :
    k'.live.tally = .of (incidents (us ++ [u])) := by
  rw [tally_useStep hs, incidents_append, h]
  cases u.incident? with
  | none => rw [Option.elim_none, Option.toList_none, List.append_nil]
  | some i => rw [Option.elim_some, Option.toList_some, Tally.of_append_one]

section Note

variable {k k' : Attended (ω × List Incident)}

theorem note_transfer {b b' p : Bytes} {w w' : ω × List Incident} {r : Except Fault Unit}
    (h : (app.noting.transfer p).eval (b, w) = (r, b', w')) : w'.2 = w.2 :=
  (congrArg (fun q => q.2.2.2) h).symm

/-- The note after a use. The callback, if there is one, is that of the application, which does
not reach the note. -/
theorem note_useStep (hf : ∀ f, k.callback = some f → ∃ g : Op ω Unit, f = Op.onFirst g)
    (hs : UseStep c app.noting net.noting (fun i => Op.onFirst (callbacks i)) k u k') :
    k'.live.world.2 = k.live.world.2 ++ u.incident?.toList := by
  have hkeep {w : ω × List Incident} (h : w.2 = k.live.world.2) :
      w.2 = k.live.world.2 ++ (none : Option Incident).toList := by
    rw [h, Option.toList_none, List.append_nil]
  cases hs with
  | post hs => cases hs <;> exact hkeep rfl
  | @receive p _ hs =>
    generalize k.live.admission p = r at hs
    cases hs with
    | refused => exact hkeep rfl
    | queued => exact hkeep rfl
  | sync hs =>
    cases hs with
    | refused htime =>
      exact congrArg (· ++ [_]) (Op.snd_of_onFirst htime)
    | broken htime hmove =>
      exact congrArg (· ++ [_]) ((note_transfer hmove).trans (Op.snd_of_onFirst htime))
    | moved htime hmove =>
      exact hkeep ((note_transfer hmove).trans (Op.snd_of_onFirst htime))
  | round hs =>
    cases hs with
    | unattended => exact hkeep rfl
    | called hcallback hw =>
      obtain ⟨g, rfl⟩ := hf _ hcallback
      exact hkeep (Op.snd_of_onFirst hw)
    | failed hcallback hw =>
      obtain ⟨g, rfl⟩ := hf _ hcallback
      exact congrArg (· ++ [_]) (Op.snd_of_onFirst hw)
  | @async k1 k2 k3 hlog htx hrx =>
    have h1 : k1.world = k.live.world := by cases hlog <;> rfl
    have h2 : k2.world.2 = k1.world.2 := by
      cases htx with
      | sent _ hn => exact Op.snd_of_onFirst hn
      | refused _ hn => exact Op.snd_of_onFirst hn
      | pending _ hn => exact (congrArg (fun q => q.2.2) hn).symm
      | finished _ hn => exact (congrArg (fun q => q.2.2) hn).symm
      | unresolved _ hn => exact (congrArg (fun q => q.2.2) hn).symm
      | _ => rfl
    have h3 : k3.world = k2.world := by cases hrx <;> rfl
    exact hkeep (by rw [h3, h2, h1])
  | flag | strayFlag | strayEntry | strayFrame | attend => exact hkeep rfl

end Note

end Attended

/-! ## All of it -/

/-- Whatever an application brings along and in whatever order it uses an endpoint: each use
answers as expected, nothing is out of range, and the failed halves of a cycle, and only they,
are counted and handed to the handler, each once and in order. -/
theorem accounted {c : Config} {app : Application ω} {w w' : ω} {e : Endpoint ω}
    (net : Transport ω) (callbacks : ι → Op ω Unit)
    (hopen : (Endpoint.create c app.hooks).eval w = (.ok e, w')) :
    (∀ us s, Run (Endpoint.Uses net callbacks) e us s →
      s.InRange ∧ s.tally.count = min (incidents us).length Tally.limit ∧
        s.tally.last = (incidents us).getLast? ∧
        ∀ u t, s.Uses net callbacks u t → u.Expected s.ssdo.rx.queue.length) ∧
      ∃ e', (Endpoint.create c app.noting.hooks).eval (w, []) = (.ok e', (w, [])) ∧
        ∀ us s, Run (Endpoint.Uses net.noting fun i => Op.onFirst (callbacks i)) e' us s →
          s.world.2 = incidents us := by
  obtain ⟨hc, rfl, rfl⟩ := Attended.create_eq_ok.mp hopen
  constructor
  · intro us s hrun
    obtain ⟨k, rfl, hk, hbounded, htally⟩ := Attended.invariant
      (I := fun us k => k.Bounded ∧ k.live.tally = .of (incidents us)) hc
      ⟨Attended.bounded_initial c w', rfl⟩
      (fun _ h hs => ⟨h.1.useStep hs, Attended.tally_append h.2 hs⟩) hrun
    refine ⟨hbounded.inRange hc hk, congrArg Tally.count htally, congrArg Tally.last htally, ?_⟩
    intro u t hu
    obtain ⟨k', -, hs⟩ := Attended.useStep_of_uses hc hk hu
    exact hbounded.expected hs
  · refine ⟨_, Attended.create_eq_ok.mpr ⟨hc, rfl, rfl⟩, ?_⟩
    intro us s hrun
    obtain ⟨k, rfl, -, hnote, -⟩ := Attended.invariant
      (I := fun us k => k.live.world.2 = incidents us ∧
        ∀ f, k.callback = some f → ∃ g : Op ω Unit, f = Op.onFirst g) hc
      ⟨rfl, fun f hf => by cases hf⟩
      (fun _ h hs => ⟨by rw [Attended.note_useStep h.2 hs, h.1, incidents_append],
        Attended.callback_useStep (fun i => ⟨callbacks i, rfl⟩) h.2 hs⟩) hrun
    exact hnote

/-- An application whose transfers fail. -/
def Application.unplugged : Application Unit :=
  ⟨fun _ => Op.fail .invalidState, fun _ => pure (), IncidentHandler.silent⟩

/-- A transfer that fails, and then a callback that fails. -/
theorem accounted_reference :
    let c := Config.reference
    let net : Transport Unit := ⟨fun _ _ => pure (), fun _ u => (.pending, u)⟩
    let callbacks : Unit → Op Unit Unit := fun _ => Op.fail .actionFailed
    let us : List (Use Unit) := [.call (.sync (.error .transferError)), .attend (),
      .call (.round (.error .syncCallbackFailed))]
    ∃ e s : Endpoint Unit,
      (Endpoint.create c Application.unplugged.hooks).eval () = (.ok e, ()) ∧
      Run (Endpoint.Uses net callbacks) e us s ∧ s.InRange ∧ s.tally.count = 2 ∧
      s.tally.last = some ⟨.stream, .syncCallbackFailed⟩ := by
  intro c net callbacks us
  have hc : c.Accepted := Config.accepted_reference
  have hopen : (Endpoint.create c Application.unplugged.hooks).eval () =
      (.ok ((Attended.initial c ()).endpoint c Application.unplugged), ()) :=
    Attended.create_eq_ok.mpr ⟨hc, rfl, rfl⟩
  let k0 : Live Unit := Live.initial c ()
  have h0 : k0.Sound c := Live.sound_initial c ()
  obtain ⟨r, k1, hsync, hs⟩ := Live.eval_processSync Application.unplugged hc h0
  have h1 : k1.Sound c := h0.syncStep hs
  obtain rfl : r = .error .transferError := by
    cases hs with
    | refused htime => cases htime
    | broken => rfl
    | moved _ hmove => cases hmove
  obtain ⟨r, k2, hround, hs⟩ :=
    Live.eval_processPost_attended Application.unplugged (some (callbacks ())) hc h1
  obtain rfl : r = .error .syncCallbackFailed := by
    cases hs with
    | unattended hf => cases hf
    | called hf hw =>
      cases hf
      cases hw
    | failed => rfl
  have hrun : Run (Endpoint.Uses net callbacks)
      (k0.endpoint c Application.unplugged) us
      ((k2.endpoint c Application.unplugged).withCallback (some (callbacks ()))) :=
    ((Run.one (.call (.sync hsync))).next (.attend ())).next (.call (.round hround))
  obtain ⟨hrange, hcount, hlast, -⟩ := (accounted net callbacks hopen).1 us _ hrun
  exact ⟨_, _, hopen, hrun, hrange, hcount, hlast⟩

end SlimInterface
