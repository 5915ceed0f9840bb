import SlimInterface.Proofs.Endpoint.Image

/-!
# What was posted stays posted

An entry is in the logbook buffer until it is released, and a frame in the SSDO buffer until the
next one is offered: the remote side reads both at a time of its own. Nobody else writes into
these buffers (`Attended.buffer_useStep`), if a transfer does not. A transfer fills the consumer
part with anything at all, and nothing in the checks of a configuration keeps the two buffers out
of it. `posted_kept_of_run` therefore asks for each of them that it is no consumed buffer;
`not_posted_kept_of_run` is an endpoint where the first transfer wipes out an entry that is still
outstanding.
-/

namespace SlimInterface

variable {ω ι : Type}

namespace Endpoint

/-- A use during which an entry stays outstanding. -/
def Holding (net : Transport ω) (callbacks : ι → Op ω Unit) (s : Endpoint ω) (u : Use ι)
    (t : Endpoint ω) : Prop :=
  Uses net callbacks s u t ∧ s.log.locked = true ∧ t.log.locked = true

/-- A use that posts no frame. Posting one makes it outstanding, with the other number if there
was one outstanding before. -/
def Resting (net : Transport ω) (callbacks : ι → Op ω Unit) (s : Endpoint ω) (u : Use ι)
    (t : Endpoint ω) : Prop :=
  Uses net callbacks s u t ∧ t.ssdo.rx.outstanding = s.ssdo.rx.outstanding ∧
    t.ssdo.rx.seq = s.ssdo.rx.seq

/-- A buffer of `size` bytes is the same before and after. -/
def Kept (id : BufferId) (size : Nat) (s t : Endpoint ω) : Prop :=
  ∃ b, b.length = size ∧ s.station.stream.buffer? id = some b ∧
    t.station.stream.buffer? id = some b

/-- From a successful post to the release of its entry the logbook buffer does not change. -/
def EntryKept (c : Config) (net : Transport ω) (callbacks : ι → Op ω Unit) (s : Endpoint ω) :
    Prop :=
  ∀ (e : LogEntry) (r t : Endpoint ω) (us : List (Use ι)),
    (postLogEntry 0 e).eval s = (.ok .successful, r) → Run (Holding net callbacks) r us t →
      Kept c.logBuffer LogEntry.bufferSize r t

/-- As long as no frame is posted the SSDO buffer does not change. -/
def FrameKept (c : Config) (net : Transport ω) (callbacks : ι → Op ω Unit) (s : Endpoint ω) :
    Prop :=
  ∀ (t : Endpoint ω) (us : List (Use ι)), Run (Resting net callbacks) s us t →
    Kept c.ssdoProducer Frame.bufferSize s t

end Endpoint

namespace Live

variable {c : Config} {app : Application ω} {net : Transport ω}
  {callback : Option (Op ω Unit)} {k k' : Live ω} {id : BufferId}

/-! ## Who writes into a buffer -/

/-- A transfer writes into consumed buffers only. -/
theorem buffer_received (hc : c.Accepted) (hid : ¬ c.Consumed id) (b : Bytes) (w : ω) :
    (k.received c b w).buffer c id = k.buffer c id :=
  Span.read_place_of_apart (Config.apart_consumerPart hid (Nat.le_of_lt hc.consAck_lt))

theorem buffer_syncStep {r : Except Fault Unit} (hc : c.Accepted) (hid : ¬ c.Consumed id)
    (hs : SyncStep c app k r k') : k'.buffer c id = k.buffer c id := by
  cases hs with
  | refused => rfl
  | @broken _ w w' b => exact buffer_received (k := k.timed c w) hc hid b w'
  | @moved w w' b => exact buffer_received (k := k.timed c w) hc hid b w'

/-- The second half of a cycle fills the local status buffer. -/
theorem buffer_roundStep {r : Except Fault Unit} (hc : c.Accepted)
    (hid : c.sizeOf id ≠ Status.inSize) (hs : RoundStep c app callback k r k') :
    k'.buffer c id = k.buffer c id := by
  cases hs <;> exact buffer_afterPost hc hid

/-- Posting fills the logbook buffer, if no entry is outstanding. -/
theorem buffer_entryStep {e : LogEntry} {a : Posting} (hid : id = c.logBuffer → k.logLocked = true)
    (hs : EntryStep c e k a k') : k'.buffer c id = k.buffer c id := by
  cases hs with
  | busy => rfl
  | posted hfree =>
    refine buffer_putBuffer_of_ne fun heq => ?_
    cases (hid heq).symm.trans hfree

/-- A frame that is offered shows in what the channel knows of it. -/
theorem offered_ne (p : Bytes) :
    ¬ ((k.offered c p).outstanding = k.outstanding ∧ (k.offered c p).rxSeq = k.rxSeq) := by
  rintro ⟨hout, hseq⟩
  have hnext : k.nextSeq = k.rxSeq.flip := if_pos hout.symm
  exact SeqNr.flip_ne _ (hnext.symm.trans hseq)

/-- Offering a frame fills the SSDO buffer. -/
theorem buffer_rxStep (hid : id = c.ssdoProducer →
      k'.outstanding = k.outstanding ∧ k'.rxSeq = k.rxSeq) (hs : RxStep c k k') :
    k'.buffer c id = k.buffer c id := by
  have hoffered (k : Live ω) (p : Bytes) (hne : id = c.ssdoProducer →
      (k.offered c p).outstanding = k.outstanding ∧ (k.offered c p).rxSeq = k.rxSeq) :
      (k.offered c p).buffer c id = k.buffer c id :=
    buffer_putBuffer_of_ne fun heq => offered_ne p (hne heq)
  cases hs with
  | idle | postponed | waiting => rfl
  | @posted p rest => exact hoffered { k with queue := rest } p hid
  | reposted => exact hoffered k _ hid

end Live

namespace Attended

open Live

variable {c : Config} {app : Application ω} {net : Transport ω} {callbacks : ι → Op ω Unit}
  {k k' : Attended ω} {id : BufferId}

/-! ## Every use -/

/-- A buffer that is neither consumed nor the local status buffer changes only when something is
posted in it. -/
theorem buffer_useStep {u : Use ι} (hc : c.Accepted) (hid : ¬ c.Consumed id)
    (hsize : c.sizeOf id ≠ Status.inSize) (hlog : id = c.logBuffer → k.live.logLocked = true)
    (hssdo : id = c.ssdoProducer →
      k'.live.outstanding = k.live.outstanding ∧ k'.live.rxSeq = k.live.rxSeq)
    (hs : UseStep c app net callbacks k u k') : k'.live.buffer c id = k.live.buffer c id := by
  cases hs with
  | post hs => exact buffer_entryStep hlog hs
  | @receive p _ hs =>
    generalize k.live.admission p = r at hs
    cases hs <;> rfl
  | sync hs => exact buffer_syncStep hc hid hs
  | round hs => exact buffer_roundStep hc hsize hs
  | @async k1 k2 k3 hstep htx hrx =>
    -- neither of the first two steps touches the image or what the last one looks at
    have h1 : k1.image = k.live.image ∧ k1.outstanding = k.live.outstanding ∧
        k1.rxSeq = k.live.rxSeq := by
      cases hstep <;> exact ⟨rfl, rfl, rfl⟩
    have h2 : k2.image = k1.image ∧ k2.outstanding = k1.outstanding ∧ k2.rxSeq = k1.rxSeq := by
      cases htx <;> exact ⟨rfl, rfl, rfl⟩
    have hbuffer : k2.buffer c id = k.live.buffer c id := by
      unfold buffer
      rw [h2.1, h1.1]
    refine Eq.trans (buffer_rxStep (fun heq => ?_) hrx) hbuffer
    rw [h2.2.1, h2.2.2, h1.2.1, h1.2.2]
    exact hssdo heq
  | flag | strayFlag | strayEntry | strayFrame | attend => rfl

/-- A buffer stays as it is while nothing is posted in it. -/
theorem buffer_of_run {Step : Endpoint ω → Use ι → Endpoint ω → Prop} {us : List (Use ι)}
    {t : Endpoint ω} (hc : c.Accepted) (hid : ¬ c.Consumed id)
    (hsize : c.sizeOf id ≠ Status.inSize)
    (hstep : ∀ {s u t}, Step s u t → Endpoint.Uses net callbacks s u t ∧
      (id = c.logBuffer → s.log.locked = true) ∧
      (id = c.ssdoProducer → t.ssdo.rx.outstanding = s.ssdo.rx.outstanding ∧
        t.ssdo.rx.seq = s.ssdo.rx.seq))
    (hk : k.live.Sound c) (hrun : Run Step (k.endpoint c app) us t) :
    ∃ k' : Attended ω, t = k'.endpoint c app ∧ k'.live.Sound c ∧
      k'.live.buffer c id = k.live.buffer c id := by
  refine hrun.invariant (I := fun _ t => ∃ k' : Attended ω, t = k'.endpoint c app ∧
    k'.live.Sound c ∧ k'.live.buffer c id = k.live.buffer c id) ⟨k, rfl, hk, rfl⟩ ?_
  intro _ _ _ _ h hs
  obtain ⟨k1, rfl, hk1, hbuffer⟩ := h
  obtain ⟨hu, hlog, hssdo⟩ := hstep hs
  obtain ⟨k2, rfl, hs2⟩ := useStep_of_uses hc hk1 hu
  exact ⟨k2, rfl, sound_useStep hk1 hs2,
    (buffer_useStep hc hid hsize hlog hssdo hs2).trans hbuffer⟩

theorem kept_of_buffer_eq {size : Nat} (hk : k.live.Sound c) (hlt : id.index < c.count)
    (hsize : c.sizeOf id = size) (h : k'.live.buffer c id = k.live.buffer c id) :
    Endpoint.Kept id size (k.endpoint c app) (k'.endpoint c app) :=
  ⟨k.live.buffer c id, (length_buffer hk id).trans hsize, buffer?_station app hlt,
    (buffer?_station app hlt).trans (congrArg some h)⟩

/-- The logbook buffer is kept, wherever the entry was posted. -/
theorem entryKept (hc : c.Accepted) (hlog : ¬ c.Consumed c.logBuffer) (hk : k.live.Sound c) :
    Endpoint.EntryKept c net callbacks (k.endpoint c app) := by
  intro e r t us hpost hrun
  have hlt := index_logBuffer_lt hc
  have hposted : Endpoint.Uses net callbacks (k.endpoint c app) _ r := .call (.post hpost)
  obtain ⟨k1, rfl, hs⟩ := useStep_of_uses hc hk hposted
  obtain ⟨k2, rfl, -, hbuffer⟩ := buffer_of_run hc hlog (by rw [hc.logBuffer_size]; decide)
    (fun hs => ⟨hs.1, fun _ => hs.2.1,
      fun heq => absurd heq (ssdoProducer_ne_logBuffer hc).symm⟩) (sound_useStep hk hs) hrun
  exact kept_of_buffer_eq (sound_useStep hk hs) hlt hc.logBuffer_size hbuffer

/-- So is the SSDO buffer, wherever the last frame was offered. -/
theorem frameKept (hc : c.Accepted) (hssdo : ¬ c.Consumed c.ssdoProducer)
    (hk : k.live.Sound c) : Endpoint.FrameKept c net callbacks (k.endpoint c app) := by
  intro t us hrun
  obtain ⟨k1, rfl, -, hbuffer⟩ := buffer_of_run hc hssdo
    (by rw [hc.ssdoProducer_size]; decide)
    (fun hs => ⟨hs.1, fun heq => absurd heq (ssdoProducer_ne_logBuffer hc), fun _ => hs.2⟩)
    hk hrun
  exact kept_of_buffer_eq hk (index_ssdoProducer_lt hc) hc.ssdoProducer_size hbuffer

end Attended

/-- Whatever an application brings along and in whatever order it uses an endpoint: from a
successful post to the release of its entry the logbook buffer does not change, if it is no
consumed buffer, and between two frames the SSDO buffer does not, if it is none. -/
theorem posted_kept_of_run {c : Config} {app : Application ω} {net : Transport ω}
    {callbacks : ι → Op ω Unit} {w w' : ω} {e s : Endpoint ω} {us : List (Use ι)}
    (hopen : (Endpoint.create c app.hooks).eval w = (.ok e, w'))
    (hrun : Run (Endpoint.Uses net callbacks) e us s) :
    (¬ c.Consumed c.logBuffer → Endpoint.EntryKept c net callbacks s) ∧
      (¬ c.Consumed c.ssdoProducer → Endpoint.FrameKept c net callbacks s) := by
  obtain ⟨hc, rfl, rfl⟩ := Attended.create_eq_ok.mp hopen
  obtain ⟨k, rfl, hk, -⟩ := Attended.invariant (I := fun _ _ => True) hc trivial
    (fun _ _ _ => trivial) hrun
  exact ⟨fun hlog => Attended.entryKept hc hlog hk, fun hssdo => Attended.frameKept hc hssdo hk⟩

/-! ## Transfers that reach further -/

/-- A transfer that answers with nothing but ones. -/
def flood : Transfer Unit := fun _ => Op.onFirst (Op.update fun b => List.replicate b.length 0xff)

/-- An application with such a transfer. -/
def Application.flooded : Application Unit where
  transfer := flood
  timeSync _ := pure ()
  incidents := IncidentHandler.silent

/-- The logbook buffer and the SSDO buffer stand the transfer. -/
theorem posted_kept_of_run_reference :
    let c := Config.reference
    let net : Transport Unit := ⟨fun _ _ => pure (), fun _ u => (.pending, u)⟩
    let callbacks : Empty → Op Unit Unit := fun i => i.elim
    ∃ (e s t : Endpoint Unit) (r : Except Fault Unit),
      (Endpoint.create c Application.flooded.hooks).eval () = (.ok e, ()) ∧
      (Endpoint.postLogEntry 0 ⟨2, 1, 0x55, 0, 7⟩).eval e = (.ok .successful, s) ∧
      Run (Endpoint.Holding net callbacks) s [.call (.sync r)] t ∧
      Endpoint.Kept c.logBuffer LogEntry.bufferSize s t ∧
      Endpoint.Kept c.ssdoProducer Frame.bufferSize s t := by
  intro c net callbacks
  have hc : c.Accepted := Config.accepted_reference
  have hopen : (Endpoint.create c Application.flooded.hooks).eval () =
      (.ok ((Attended.initial c ()).endpoint c .flooded), ()) :=
    Attended.create_eq_ok.mpr ⟨hc, rfl, rfl⟩
  have h0 : (Live.initial c ()).Sound c := Live.sound_initial c ()
  have hpost := Live.eval_postLogEntry_of_free .flooded hc h0 rfl ⟨2, 1, 0x55, 0, 7⟩
  have h1 := h0.entryStep (.posted (e := ⟨2, 1, 0x55, 0, 7⟩) rfl)
  obtain ⟨r, k2, hsync, hs⟩ := Live.eval_processSync .flooded hc h1
  have hlocked : k2.logLocked = true := by cases hs <;> rfl
  have hrest : k2.outstanding = false ∧ k2.rxSeq = .second := by cases hs <;> exact ⟨rfl, rfl⟩
  have hhold : Run (Endpoint.Holding net callbacks) _ [.call (.sync r)]
      (k2.endpoint c .flooded) := .one ⟨.call (.sync hsync), rfl, hlocked⟩
  have hfree : Run (Endpoint.Resting net callbacks) _ [.call (.sync r)]
      (k2.endpoint c .flooded) := .one ⟨.call (.sync hsync), hrest⟩
  exact ⟨_, _, _, r, hopen, hpost, hhold,
    (posted_kept_of_run hopen (.start _)).1 (by decide) _ _ _ _ hpost hhold,
    (posted_kept_of_run hopen (.one (.call (.post hpost)))).2 (by decide) _ _ hfree⟩

/-- A layout whose producer part begins behind the logbook and the SSDO buffer. -/
def Config.intermixed : Config where
  sizes := [4, 12, 256, 16, 256, 4, 4]
  consAck := ⟨0⟩
  prodAck := ⟨5⟩
  statusOut := ⟨1⟩
  statusIn := ⟨6⟩
  logBuffer := ⟨3⟩
  ssdoConsumer := ⟨2⟩
  ssdoProducer := ⟨4⟩

theorem Config.accepted_intermixed : intermixed.Accepted where
  count_pos := by decide
  count_le := by decide
  size_pos := by decide
  consAck_lt := by decide
  prodAck_lt := by decide
  statusOut_size := by decide
  statusIn_size := by decide
  logBuffer_size := by decide
  ssdoConsumer_size := by decide
  ssdoProducer_size := by decide

/-- A transfer of ones fills every consumed buffer with them. -/
theorem Live.buffer_flooded {c : Config} {k k' : Live Unit} {r : Except Fault Unit} {id : BufferId}
    (hk : k.Sound c) (hid : c.Consumed id) (hs : SyncStep c .flooded k r k') :
    k'.buffer c id = List.replicate (c.sizeOf id) 0xff := by
  have hpart := fits_consumerPart hk
  cases hs with
  | refused htime => cases htime
  | broken htime hmove => cases hmove
  | moved htime hmove =>
    cases hmove
    have hlen : (List.replicate (c.consumerPart.read k.image).length (0xff : UInt8)).length =
        c.consumerPart.size := by
      rw [List.length_replicate, Span.length_read hpart]
    have hfits : ((c.span id).shift c.consumerPart.start).Fits
        (List.replicate (c.consumerPart.read k.image).length 0xff) := by
      obtain ⟨hstart, hend⟩ := hid.within
      unfold Span.Fits Span.shift
      rw [hlen]
      dsimp only
      omega
    exact (Span.read_place_of_within hid.within hlen hpart).trans (Span.read_replicate hfits)

/-- What the checks of a configuration ask for is not enough. The logbook buffer of `intermixed`
is a consumed one, and the first transfer fills it while the entry is outstanding. -/
theorem not_posted_kept_of_run :
    ¬ ∀ (c : Config) (app : Application Unit) (net : Transport Unit)
        (callbacks : Empty → Op Unit Unit) (w w' : Unit) (e s : Endpoint Unit)
        (us : List (Use Empty)),
      (Endpoint.create c app.hooks).eval w = (.ok e, w') →
      Run (Endpoint.Uses net callbacks) e us s →
      Endpoint.EntryKept c net callbacks s ∧ Endpoint.FrameKept c net callbacks s := by
  intro hall
  let c := Config.intermixed
  let entry : LogEntry := ⟨2, 1, 0x55, 0, 7⟩
  have hc : c.Accepted := Config.accepted_intermixed
  have h0 : (Live.initial c ()).Sound c := Live.sound_initial c ()
  have hpost := Live.eval_postLogEntry_of_free .flooded hc h0 rfl entry
  have h1 : ((Live.initial c ()).entered c entry).Sound c := h0.entryStep (.posted rfl)
  obtain ⟨r, k2, hsync, hs⟩ := Live.eval_processSync .flooded hc h1
  have hlocked : k2.logLocked = true := by cases hs <;> rfl
  obtain ⟨hentry, -⟩ := hall c .flooded ⟨fun _ _ => pure (), fun _ u => (.pending, u)⟩
    (fun i => i.elim) () () _ _ [] (Attended.create_eq_ok.mpr ⟨hc, rfl, rfl⟩) (.start _)
  obtain ⟨b, -, hbefore, hafter⟩ := hentry entry _ _ [.call (.sync r)] hpost
    (.one ⟨.call (.sync hsync), rfl, hlocked⟩)
  -- the entry begins with its number, and what the transfer left does not
  have hlt : c.logBuffer.index < c.count := by decide
  have hstamp : ((Live.initial c ()).entered c entry).buffer c c.logBuffer =
      LogEntry.imprint .second entry ((Live.initial c ()).buffer c c.logBuffer) :=
    Live.logBuffer_entered h0 entry
  have hones : k2.buffer c c.logBuffer = List.replicate (c.sizeOf c.logBuffer) 0xff :=
    Live.buffer_flooded h1 (by decide) hs
  have hsame : ((Live.initial c ()).entered c entry).buffer c c.logBuffer =
      k2.buffer c c.logBuffer :=
    Option.some.inj (((Live.buffer?_station .flooded hlt).symm.trans hbefore).trans
      (hafter.symm.trans (Live.buffer?_station .flooded hlt)))
  rw [hstamp, hones] at hsame
  have hfirst := congrArg (·[0]?) hsame
  rw [LogEntry.getElem?_imprint (Live.length_logBuffer hc h0), List.getElem?_replicate] at hfirst
  exact absurd hfirst (by decide)

end SlimInterface
