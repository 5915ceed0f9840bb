import SlimInterface.Proofs.Endpoint.Use
import SlimInterface.Proofs.Remote.Linked

/-!
# The receiving side by itself

Both directions of the SSDO channel share an endpoint: its image, its registers, the world of the
application, and one call that moves both. The receiving side takes no part in what the other one
does. What reaches it is an `Input`: a frame of the network, the acknowledges the remote side
published, the end of a cycle, a step of the background loop. `Side` is the receiving side with
what it goes by, and `Side.next` what an input makes of it.

`side_useStep` says that a use of the endpoint does to the receiving side what its input says, and
nothing if it has none. So the inputs determine the receiving side (`side_of_run`), and two
endpoints of one configuration that got the same inputs have the same receiving side, whatever
else happened to them (`reception_independent`).
-/

namespace SlimInterface

namespace Independence

variable {ω ι : Type}

/-! ## Inputs -/

/-- What reaches the receiving side. -/
inductive Input
  /-- The network received a frame. -/
  | frame (p : Bytes)
  /-- The first half of a cycle left these SSDO acknowledges of the remote side. -/
  | published (acknowledges : UInt16)
  /-- The second half of a cycle. -/
  | round
  /-- A step of the background loop. -/
  | step

/-- The SSDO acknowledges in the status buffer of the remote side. -/
def acknowledges (c : Config) (e : Endpoint ω) : UInt16 :=
  ((e.station.stream.buffer? c.statusOut).getD []).word Status.ssdoOffset

/-- A use of an endpoint, beside it the acknowledges it left in the status buffer. -/
inductive Step (c : Config) (net : Transport ω) (callbacks : ι → Op ω Unit) (s : Endpoint ω) :
    Use ι × UInt16 → Endpoint ω → Prop
  | use {u : Use ι} {t : Endpoint ω} (h : Endpoint.Uses net callbacks s u t) :
      Step c net callbacks s (u, acknowledges c t) t

/-- What of a use reaches the receiving side. Answers do not, and neither do entries of the
logbook, callbacks and the local acknowledge. -/
def input? : Use ι × UInt16 → Option Input
  | (.call (.receive p _), _) => some (.frame p)
  | (.call (.sync _), word) => some (.published word)
  | (.call (.round _), _) => some .round
  | (.call (.async _), _) => some .step
  | _ => none

/-- What reached the receiving side, oldest first. -/
def inputs (es : List (Use ι × UInt16)) : List Input := es.filterMap input?

theorem inputs_append (es : List (Use ι × UInt16)) (e : Use ι × UInt16) :
    inputs (es ++ [e]) = inputs es ++ (input? e).toList :=
  filterMap_append_one _ es e

/-! ## The receiving side -/

/-- The receiving side, and what it goes by. -/
structure Side where
  rx : Receive
  /-- The buffer of the frames for the remote side. -/
  buffer : Bytes
  /-- The acknowledges in the status buffer of the remote side. -/
  published : UInt16
  /-- Those at the end of the last cycle. -/
  kept : UInt16

namespace Side

/-- The frame posted last, if there is one, was acknowledged. -/
def Ready (v : Side) : Prop :=
  v.rx.outstanding = true → SeqNr.ofLowBit v.kept.toNat = v.rx.seq

instance (v : Side) : Decidable v.Ready := inferInstanceAs (Decidable (_ → _))

/-- The number the next frame carries. -/
def nextSeq (v : Side) : SeqNr := if v.rx.outstanding then v.rx.seq.flip else v.rx.seq

/-- A frame is put into the buffer. -/
def offered (p : Bytes) (v : Side) : Side where
  rx := { v.rx with seq := v.nextSeq, outstanding := true, cached := none }
  buffer := Frame.imprint ⟨v.nextSeq, p⟩ v.buffer
  published := v.published
  kept := v.kept

/-- One step of the background loop. -/
def process (v : Side) : Side :=
  match v.rx.state, v.rx.queue with
  | .waitForFrame, [] => v
  | .waitForFrame, p :: rest =>
    if v.Ready then { v with rx.queue := rest }.offered p
    else { v with rx := { v.rx with queue := rest, cached := some p, state := .repostFrame } }
  | .repostFrame, _ =>
    if v.Ready then { v.offered (v.rx.cached.getD []) with
      rx.state := .waitForFrame }
    else v

/-- What an input makes of the receiving side. -/
def next (v : Side) : Input → Side
  | .frame p =>
    if p.length ≤ Frame.maxPayload ∧ v.rx.queue.length < receiveDepth then
      { v with rx.queue := v.rx.queue ++ [p] }
    else v
  | .published word => { v with published := word }
  | .round => { v with kept := v.published }
  | .step => v.process

end Side

open Live

variable {c : Config} {app : Application ω} {net : Transport ω} {callbacks : ι → Op ω Unit}
  {callback : Option (Op ω Unit)} {k k' : Live ω}

/-- The receiving side of an endpoint. -/
def side (c : Config) (k : Live ω) : Side where
  rx := k.rx c
  buffer := k.buffer c c.ssdoProducer
  published := (k.buffer c c.statusOut).word Status.ssdoOffset
  kept := k.registers.ssdoTx

/-! ## What the other parts do to it -/

theorem statusOut_size_ne (hc : c.Accepted) {n : Nat} (hn : n ≠ Status.outSize) :
    c.sizeOf c.statusOut ≠ n := by
  rw [hc.statusOut_size]
  exact hn.symm

theorem ssdoProducer_size_ne (hc : c.Accepted) {n : Nat} (hn : n ≠ Frame.bufferSize) :
    c.sizeOf c.ssdoProducer ≠ n := by
  rw [hc.ssdoProducer_size]
  exact hn.symm

theorem side_entryStep {e : LogEntry} {a : Posting} (hc : c.Accepted) (hs : EntryStep c e k a k') :
    side c k' = side c k := by
  cases hs with
  | busy => rfl
  | posted =>
    have hout := buffer_entered (k := k) hc (e := e) (statusOut_size_ne hc (by decide))
    have hprod := buffer_entered (k := k) hc (e := e) (ssdoProducer_size_ne hc (by decide))
    unfold side
    rw [hout, hprod]
    rfl

theorem side_logStep (hs : LogStep k k') : side c k' = side c k := by
  cases hs <;> rfl

/-- Nothing the transmitting side does shows on the receiving side: it only ever reads its buffer,
talks to the network, and sets the local acknowledge. -/
theorem side_txStep (hs : TxStep c net k k') : side c k' = side c k := by
  cases hs <;> rfl

theorem side_reported {i : Incident} : side c (k.reported app i) = side c k := rfl

/-- A transfer brings the acknowledges, and does not touch the frame for the remote side. -/
theorem side_received {b : Bytes} {w : ω} (hc : c.Accepted) (hprod : c.Produced c.ssdoProducer) :
    side c (k.received c b w) = { side c k with
      published := ((k.received c b w).buffer c c.statusOut).word Status.ssdoOffset } := by
  have hbuffer : (k.received c b w).buffer c c.ssdoProducer = k.buffer c c.ssdoProducer :=
    Span.read_place_of_apart
      (Config.apart_consumerPart hprod.not_consumed (Nat.le_of_lt hc.consAck_lt))
  unfold side
  rw [hbuffer]
  rfl

theorem side_syncStep {r : Except Fault Unit} (hc : c.Accepted)
    (hprod : c.Produced c.ssdoProducer) (hs : SyncStep c app k r k') :
    side c k' = { side c k with
      published := (k'.buffer c c.statusOut).word Status.ssdoOffset } := by
  cases hs with
  | refused => rfl
  | broken =>
    rw [side_reported, side_received hc hprod]
    rfl
  | moved =>
    rw [side_received hc hprod]
    rfl

theorem side_afterPost (hc : c.Accepted) : side c (k.afterPost c) = (side c k).next .round := by
  have hout := buffer_afterPost (k := k) hc (statusOut_size_ne hc (by decide))
  have hprod := buffer_afterPost (k := k) hc (ssdoProducer_size_ne hc (by decide))
  unfold side
  rw [hout, hprod]
  rfl

theorem side_roundStep {r : Except Fault Unit} (hc : c.Accepted)
    (hs : RoundStep c app callback k r k') : side c k' = (side c k).next .round := by
  rw [← side_afterPost hc]
  cases hs <;> rfl

/-! ## What it does itself -/

theorem side_frameStep {p : Bytes} {r : Except Fault Unit} (hs : FrameStep p k r k') :
    side c k' = (side c k).next (.frame p) := by
  cases hs with
  | refused f h => exact (if_neg fun hn => by
      rcases h with h | h
      · exact absurd hn.1 (Nat.not_le.mpr h)
      · exact absurd hn.2 (Nat.not_lt.mpr h)).symm
  | queued hp hq => exact (if_pos ⟨hp, hq⟩).symm

theorem side_offered (hc : c.Accepted) (h : k.Sound c) (p : Bytes) :
    side c (k.offered c p) = (side c k).offered p := by
  have hout := buffer_offered (k := k) hc (p := p) (statusOut_size_ne hc (by decide))
  have hprod : (k.offered c p).buffer c c.ssdoProducer =
      Frame.imprint ⟨k.nextSeq, p⟩ (k.buffer c c.ssdoProducer) :=
    buffer_putBuffer h (by rw [Frame.length_imprint, length_buffer h])
  unfold side
  rw [hout, hprod]
  rfl

theorem side_rxStep (hc : c.Accepted) (h : k.Sound c) (hs : RxStep c k k') :
    side c k' = (side c k).next .step := by
  show _ = (side c k).process
  have hready : (side c k).Ready ↔ k.RxReady := Iff.rfl
  cases hs with
  | idle hs hq =>
    have hstate : (side c k).rx.state = .waitForFrame := hs
    have hqueue : (side c k).rx.queue = [] := hq
    unfold Side.process
    rw [hstate, hqueue]
  | @posted p rest hs hq hr =>
    have hstate : (side c k).rx.state = .waitForFrame := hs
    have hqueue : (side c k).rx.queue = p :: rest := hq
    unfold Side.process
    rw [hstate, hqueue, side_offered hc (h.popped hq)]
    exact (if_pos (hready.mpr hr)).symm
  | @postponed p rest hs hq hr =>
    have hstate : (side c k).rx.state = .waitForFrame := hs
    have hqueue : (side c k).rx.queue = p :: rest := hq
    unfold Side.process
    rw [hstate, hqueue]
    exact (if_neg fun hn => hr (hready.mp hn)).symm
  | reposted hs hr =>
    have hstate : (side c k).rx.state = .repostFrame := hs
    have hoffered := side_offered hc h (k.cached.getD [])
    unfold Side.process
    rw [hstate]
    dsimp only
    rw [if_pos (hready.mpr hr)]
    show _ = { (side c k).offered (k.cached.getD []) with rx.state := .waitForFrame }
    rw [← hoffered]
    rfl
  | waiting hs hr =>
    have hstate : (side c k).rx.state = .repostFrame := hs
    unfold Side.process
    rw [hstate]
    exact (if_neg fun hn => hr (hready.mp hn)).symm

/-! ## Runs -/

/-- A use does to the receiving side what its input says. -/
theorem side_useStep {k k' : Attended ω} {u : Use ι} (hc : c.Accepted)
    (hprod : c.Produced c.ssdoProducer) (h : k.live.Sound c)
    (hs : Attended.UseStep c app net callbacks k u k') :
    side c k'.live = (input? (u, acknowledges c (k'.endpoint c app))).toList.foldl Side.next
      (side c k.live) := by
  cases hs with
  | post hs => exact side_entryStep hc hs
  | receive hs => exact side_frameStep hs
  | @sync _ k' hs =>
    have hword : acknowledges c (Attended.endpoint c app { k with live := k' }) =
        (k'.buffer c c.statusOut).word Status.ssdoOffset := by
      unfold acknowledges
      rw [show (Attended.endpoint c app { k with live := k' }).station.stream.buffer? c.statusOut =
        (k'.station c app).stream.buffer? c.statusOut from rfl,
        buffer?_station app (index_statusOut_lt hc)]
      rfl
    rw [hword]
    exact side_syncStep hc hprod hs
  | round hs => exact side_roundStep hc hs
  | async hlog htx hrx =>
    have h2 := (h.logStep hlog).txStep htx
    show _ = (side c k.live).next .step
    rw [side_rxStep hc h2 hrx, side_txStep htx, side_logStep hlog]
  | flag | strayFlag | strayEntry | strayFrame | attend => rfl

/-- The inputs determine the receiving side. -/
theorem side_of_run {w : ω} {es : List (Use ι × UInt16)} {s : Endpoint ω} (hc : c.Accepted)
    (hprod : c.Produced c.ssdoProducer)
    (hrun : Run (Step c net callbacks) ((Attended.initial c w).endpoint c app) es s) :
    ∃ k : Attended ω, s = k.endpoint c app ∧ k.live.Sound c ∧
      side c k.live = (inputs es).foldl Side.next (side c (Live.initial c w)) := by
  refine hrun.invariant (I := fun es s => ∃ k : Attended ω, s = k.endpoint c app ∧
    k.live.Sound c ∧ side c k.live = (inputs es).foldl Side.next (side c (Live.initial c w)))
    ⟨_, rfl, sound_initial c w, rfl⟩ ?_
  intro es s e t h hs
  obtain ⟨k, rfl, hk, hside⟩ := h
  cases hs with
  | use hu =>
    obtain ⟨k', rfl, hs⟩ := Attended.useStep_of_uses hc hk hu
    refine ⟨k', rfl, Attended.sound_useStep hk hs, ?_⟩
    rw [side_useStep hc hprod hk hs, hside, inputs_append, List.foldl_append]

/-- Nothing leaks into reception. Two endpoints of one configuration whose receiving sides got the
same inputs agree on the receiving side and on the frame for the remote side. Their applications,
what their transfers bring apart from the SSDO acknowledges, their networks, entries, callbacks
and times have no influence, and it does not matter what their calls answered. -/
theorem reception_independent {ω₁ ω₂ ι₁ ι₂ : Type} {c : Config} {app₁ : Application ω₁}
    {app₂ : Application ω₂} {net₁ : Transport ω₁} {net₂ : Transport ω₂}
    {callbacks₁ : ι₁ → Op ω₁ Unit} {callbacks₂ : ι₂ → Op ω₂ Unit} {w₁ w₁' : ω₁} {w₂ w₂' : ω₂}
    {e₁ s₁ : Endpoint ω₁} {e₂ s₂ : Endpoint ω₂} {es₁ : List (Use ι₁ × UInt16)}
    {es₂ : List (Use ι₂ × UInt16)}
    (hopen₁ : (Endpoint.create c app₁.hooks).eval w₁ = (.ok e₁, w₁'))
    (hopen₂ : (Endpoint.create c app₂.hooks).eval w₂ = (.ok e₂, w₂'))
    (hprod : c.Produced c.ssdoProducer)
    (hrun₁ : Run (Step c net₁ callbacks₁) e₁ es₁ s₁)
    (hrun₂ : Run (Step c net₂ callbacks₂) e₂ es₂ s₂) (hsame : inputs es₁ = inputs es₂) :
    s₁.ssdo.rx = s₂.ssdo.rx ∧
      s₁.station.stream.buffer? c.ssdoProducer = s₂.station.stream.buffer? c.ssdoProducer := by
  obtain ⟨hc, rfl, rfl⟩ := Attended.create_eq_ok.mp hopen₁
  obtain ⟨-, rfl, rfl⟩ := Attended.create_eq_ok.mp hopen₂
  obtain ⟨k₁, rfl, -, hside₁⟩ := side_of_run hc hprod hrun₁
  obtain ⟨k₂, rfl, -, hside₂⟩ := side_of_run hc hprod hrun₂
  have hinitial : side c (Live.initial c w₁') = side c (Live.initial c w₂') := rfl
  have hside : side c k₁.live = side c k₂.live := by
    rw [hside₁, hside₂, hsame, hinitial]
  have hlt := index_ssdoProducer_lt hc
  refine ⟨congrArg Side.rx hside, ?_⟩
  show (k₁.live.station c app₁).stream.buffer? c.ssdoProducer =
    (k₂.live.station c app₂).stream.buffer? c.ssdoProducer
  rw [buffer?_station app₁ hlt, buffer?_station app₂ hlt]
  exact congrArg (some ∘ Side.buffer) hside

/-! ## Two runs -/

/-- An application whose transfers bring nothing. -/
def silent : Application Unit :=
  ⟨fun _ => pure (), fun _ => pure (), IncidentHandler.silent⟩

/-- An application whose transfers bring an SSDO frame. -/
def publishing : Application Unit where
  transfer _ := Op.update fun p =>
    (p.1.overwrite 16 (Frame.imprint ⟨.second, [9]⟩ (List.replicate Frame.bufferSize 0)), p.2)
  timeSync _ := pure ()
  incidents := IncidentHandler.silent

/-- An endpoint of the reference layout that was just opened. -/
def reference (app : Application Unit) : Endpoint Unit :=
  (Attended.initial Config.reference ()).endpoint Config.reference app

/-- A frame is received and posted, and the other direction rests. -/
theorem run_silent (callbacks : Empty → Op Unit Unit) :
    ∃ es s, Run (Step Config.reference Transport.quiet callbacks) (reference silent) es s ∧
      inputs es = [.frame [7], .published 0, .step] ∧ s.ssdo.tx.state = .waitForFrame := by
  let p₁ := (Endpoint.receiveFrame 0 [7]).eval (reference silent)
  let p₂ := Endpoint.processSync.eval p₁.2
  let p₃ := (Endpoint.processAsync Transport.quiet).eval p₂.2
  have hword : acknowledges Config.reference p₂.2 = 0 := by decide +kernel
  have hstate : p₃.2.ssdo.tx.state = .waitForFrame := by decide +kernel
  refine ⟨_, p₃.2, ((Run.one (.use (.call (.receive p₁.eta.symm)))).next
    (.use (.call (.sync p₂.eta.symm)))).next (.use (.call (.async p₃.eta.symm))), ?_, hstate⟩
  rw [← hword]
  rfl

/-- The same frame is received and posted, while an entry is posted and a frame goes the other
way. -/
theorem run_publishing (callbacks : Empty → Op Unit Unit) :
    ∃ es s, Run (Step Config.reference Transport.quiet callbacks) (reference publishing) es s ∧
      inputs es = [.frame [7], .published 0, .step] ∧ s.ssdo.tx.state = .processFrame := by
  let p₁ := (Endpoint.receiveFrame 0 [7]).eval (reference publishing)
  let p₂ := (Endpoint.postLogEntry 0 ⟨2, 1, 0x55, 0x01020304, 7⟩).eval p₁.2
  let p₃ := Endpoint.processSync.eval p₂.2
  let p₄ := (Endpoint.processAsync Transport.quiet).eval p₃.2
  have hword : acknowledges Config.reference p₃.2 = 0 := by decide +kernel
  have hstate : p₄.2.ssdo.tx.state = .processFrame := by decide +kernel
  refine ⟨_, p₄.2, (((Run.one (.use (.call (.receive p₁.eta.symm)))).next
    (.use (.call (.post p₂.eta.symm)))).next (.use (.call (.sync p₃.eta.symm)))).next
    (.use (.call (.async p₄.eta.symm))), ?_, hstate⟩
  rw [← hword]
  rfl

theorem reception_independent_reference :
    let c := Config.reference
    let callbacks : Empty → Op Unit Unit := fun i => i.elim
    ∃ (e₁ s₁ e₂ s₂ : Endpoint Unit) (es₁ es₂ : List (Use Empty × UInt16)),
      (Endpoint.create c silent.hooks).eval () = (.ok e₁, ()) ∧
      (Endpoint.create c publishing.hooks).eval () = (.ok e₂, ()) ∧
      c.Produced c.ssdoProducer ∧
      Run (Step c Transport.quiet callbacks) e₁ es₁ s₁ ∧
      Run (Step c Transport.quiet callbacks) e₂ es₂ s₂ ∧ inputs es₁ = inputs es₂ ∧
      s₁.ssdo.tx.state = .waitForFrame ∧ s₂.ssdo.tx.state = .processFrame ∧
      s₁.ssdo.rx = s₂.ssdo.rx ∧
      s₁.station.stream.buffer? c.ssdoProducer = s₂.station.stream.buffer? c.ssdoProducer := by
  intro c callbacks
  have hprod : c.Produced c.ssdoProducer := by decide
  have hopen₁ : (Endpoint.create c silent.hooks).eval () = (.ok (reference silent), ()) :=
    Attended.create_eq_ok.mpr ⟨Config.accepted_reference, rfl, rfl⟩
  have hopen₂ : (Endpoint.create c publishing.hooks).eval () = (.ok (reference publishing), ()) :=
    Attended.create_eq_ok.mpr ⟨Config.accepted_reference, rfl, rfl⟩
  obtain ⟨es₁, s₁, hrun₁, hinputs₁, hstate₁⟩ := run_silent callbacks
  obtain ⟨es₂, s₂, hrun₂, hinputs₂, hstate₂⟩ := run_publishing callbacks
  have hsame : inputs es₁ = inputs es₂ := hinputs₁.trans hinputs₂.symm
  obtain ⟨hrx, hbuffer⟩ := reception_independent hopen₁ hopen₂ hprod hrun₁ hrun₂ hsame
  exact ⟨_, s₁, _, s₂, es₁, es₂, hopen₁, hopen₂, hprod, hrun₁, hrun₂, hsame, hstate₁, hstate₂, hrx,
    hbuffer⟩

end Independence

end SlimInterface
