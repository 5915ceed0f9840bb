import SlimInterface.Proofs.Logbook.Acknowledge

/-!
# When a released entry was delivered

An entry is released when the register shows its number, or given up when the timer expired.
A register that shows the number of an entry says that the remote side took it only if it did
not show that number before. `Settled` says so of the register and of the three copies it
is filled from, and `taken_of_released` is the result: an entry that was posted on a settled
channel, and is released before its time is up, was taken.

A channel that never gave an entry up is settled whenever it is free (`settled_of_patient`).
Giving up flips the number although the remote side has not moved, and the next entry may
find its own number in the register at once (`not_taken_of_released`).
-/

namespace SlimInterface

variable {υ : Type}

namespace Logbook

/-! ## Runs -/

/-- The number of the entry in the register. -/
def kept (s : Endpoint (Link × υ)) : SeqNr :=
  SeqNr.ofLowBit (s.station.around.registersAt s.log.status.registers).logTx.toNat

/-- The next step of the channel gives the outstanding entry up. -/
def GivesUp (s : Endpoint (Link × υ)) : Prop :=
  s.log.locked = true ∧ kept s ≠ s.log.seq ∧
    s.log.timer.state s.station.around.counters = .expired

/-- The steps of both sides as long as no entry is given up. -/
def PatientStep (c : Config) (net : Transport υ) (s : Endpoint (Link × υ)) (e : Event)
    (t : Endpoint (Link × υ)) : Prop :=
  Step c net s e t ∧ ∀ r, e = .call (.async r) → ¬ GivesUp s

/-- Neither the register nor anything it is filled from shows the number of the channel: not
the local status buffer, not the one the remote side publishes, and not the entry the remote
side can see. -/
structure Settled (c : Config) (s : Endpoint (Link × υ)) : Prop where
  kept : kept s ≠ s.log.seq
  received : ((c.span c.statusOut).read s.station.stream.image).flagAt Status.logOffset ≠ s.log.seq
  shown : shown c s.world.1 ≠ s.log.seq
  sent : (s.world.1.sent c c.logBuffer).flagAt LogEntry.seqOffset ≠ s.log.seq

/-- The number of rounds of post-actions. -/
def rounds (es : List Event) : Nat := es.countP Event.isRound

/-- No entry was posted. -/
def Undisturbed (es : List Event) : Prop :=
  ∀ e, Event.call (.post e (.ok .successful)) ∉ es

theorem rounds_append (es : List Event) (e : Event) :
    rounds (es ++ [e]) = rounds es + if e.isRound then 1 else 0 := by
  unfold rounds
  rw [List.countP_append, List.countP_singleton]

theorem Undisturbed.of_append {es : List Event} {e : Event} (h : Undisturbed (es ++ [e])) :
    Undisturbed es := fun x hx => h x (List.mem_append_left _ hx)

theorem Undisturbed.ne_post {es : List Event} {e : Event} {x : LogEntry}
    (h : Undisturbed (es ++ [e])) : e ≠ .call (.post x (.ok .successful)) := by
  intro h
  subst h
  exact h x (List.mem_append_right _ (List.mem_singleton.mpr rfl))

/-! ## Delivery -/

variable {c : Config} {app : Surroundings υ} {net : Transport υ} {k k' : Live (Link × υ)}

/-- A run keeps the endpoint connected. -/
theorem connected_run {es : List Event} {s : Endpoint (Link × υ)} (hc : c.Accepted)
    (hout : c.Consumed c.statusOut) (hlog : c.Produced c.logBuffer) (h : k.Connected c)
    (hrun : Run (Step c net) (k.endpoint c app.linked) es s) :
    ∃ k', s = Live.endpoint c app.linked k' ∧ Live.Connected c k' := by
  refine hrun.invariant
    (I := fun _ s => ∃ k', s = Live.endpoint c app.linked k' ∧ Live.Connected c k')
    ⟨k, rfl, h⟩ ?_
  intro _ _ e t h hs
  obtain ⟨k1, rfl, h1⟩ := h
  obtain ⟨k2, rfl, h2, -⟩ := move_step net hc hout hlog h1 hs
  exact ⟨k2, rfl, h2⟩

theorem received_initial (c : Config) (w : Link × υ) :
    (view c (Live.initial c w)).received = .first := by
  show ((Live.initial c w).buffer c c.statusOut).flagAt Status.logOffset = .first
  rw [Live.buffer_initial, Bytes.flagAt_replicate]

theorem kept_initial (c : Config) (w : Link × υ) : (view c (Live.initial c w)).kept = .first := by
  simp only [view, Live.initial]
  decide

theorem inOrder_initial (hout : c.Consumed c.statusOut)
    (hlog : c.Produced c.logBuffer) (u : υ) :
    InOrder (view c (Live.initial c (Link.fresh c, u))) := by
  have hsent : ((Link.fresh c).sent c c.logBuffer).flagAt LogEntry.seqOffset = .first := by
    rw [Link.sent_fresh hlog, Bytes.flagAt_replicate]
  have hshown : ((Link.fresh c).consumed c c.statusOut).flagAt Status.logOffset = .first := by
    rw [Link.consumed_fresh hout, Bytes.flagAt_replicate]
  have hstaged : ((Live.initial c (Link.fresh c, u)).buffer c c.logBuffer).flagAt
      LogEntry.seqOffset = .first := by
    rw [Live.buffer_initial, Bytes.flagAt_replicate]
  have hne {x : SeqNr} (hx : x = .first) : x ≠ .second := by
    rw [hx]
    decide
  refine ⟨fun h => absurd h (hne (kept_initial c _)),
    fun h => absurd h (hne (received_initial c _)), fun h => absurd h (hne hshown),
    fun h => absurd h (hne hsent), ?_⟩
  exact ⟨fun h => absurd h (hne hstaged), fun h => absurd h Bool.false_ne_true⟩

/-- As long as no entry was given up, a free channel is settled. -/
theorem settled_of_patient {u : υ} {es : List Event} {s : Endpoint (Link × υ)} (hc : c.Accepted)
    (hout : c.Consumed c.statusOut) (hlog : c.Produced c.logBuffer)
    (hrun : Run (PatientStep c net) ((Live.initial c (Link.fresh c, u)).endpoint c app.linked) es s)
    (hfree : s.log.locked = false) : Settled c s := by
  obtain ⟨k, rfl, -, hv⟩ : ∃ k, s = k.endpoint c app.linked ∧ k.Connected c ∧
      InOrder (view c k) := by
    refine hrun.invariant (I := fun _ s => ∃ k, s = Live.endpoint c app.linked k ∧ k.Connected c ∧
        InOrder (view c k))
      ⟨_, rfl, Live.connected_initial c u, inOrder_initial hout hlog u⟩ ?_
    intro _ _ e t h h'
    obtain ⟨k1, rfl, h1, hv⟩ := h
    obtain ⟨hs, hpatient⟩ := h'
    obtain ⟨k2, rfl, h2, hm⟩ := move_step net hc hout hlog h1 hs
    refine ⟨k2, rfl, h2, hv.move hm ?_⟩
    intro r he h
    obtain ⟨hl, ha, hex⟩ := h
    exact hpatient r he ⟨hl, ha, Timer.state_eq_expired.mpr hex⟩
  obtain ⟨hkept, hreceived, hshown, hsent, hstaged⟩ := hv
  -- a free channel has staged nothing under its number, so no copy shows it
  have hne : (view c k).staged.flagAt LogEntry.seqOffset ≠ (view c k).seq := by
    rw [ne_eq, hstaged, show (view c k).locked = false from hfree]
    exact Bool.false_ne_true
  have hsent' := mt hsent hne
  have hshown' := mt hshown hsent'
  have hreceived' := mt hreceived hshown'
  exact ⟨mt hkept hreceived', hreceived', hshown', hsent'⟩

/-- An entry posted on a settled channel waits. -/
theorem waiting_of_posted {e : LogEntry} {s : Endpoint (Link × υ)} (hc : c.Accepted)
    (hout : c.Consumed c.statusOut) (hlog : c.Produced c.logBuffer) (h : k.Connected c)
    (hs : Settled c (k.endpoint c app.linked))
    (hpost : (Endpoint.postLogEntry 0 e).eval (k.endpoint c app.linked) = (.ok .successful, s)) :
    ∃ k', s = k'.endpoint c app.linked ∧ k'.Connected c ∧ Waiting e 0 (view c k') := by
  obtain ⟨k', rfl, h', hm⟩ := move_step ⟨fun _ _ => pure (), fun _ w => (.pending, w)⟩ hc
    hout hlog h (.call (.post hpost))
  refine ⟨k', rfl, h', ?_⟩
  -- a copy that does not show the number shows the other one
  obtain ⟨hkept, hreceived, hshown, hsent⟩ := hs
  generalize hv : view c k' = v at hm
  cases hm with
  | post _ _ hr =>
    exact ⟨rfl, rfl, hr, .inl (SeqNr.eq_flip_of_ne hsent), SeqNr.eq_flip_of_ne hshown,
      SeqNr.eq_flip_of_ne hreceived, SeqNr.eq_flip_of_ne hkept⟩
  | stay hp => exact absurd rfl (hp e)

/-- A released entry was delivered: an entry that was posted while the channel was settled, or
before any entry was given up, and that is released before its time is up, was taken by the
remote side. -/
theorem taken_of_released {u : υ} {l : Link} {e s1 s2 s3 s4 : Endpoint (Link × υ)} {w : Link × υ}
    {past during : List Event} {entry : LogEntry} {r : Except Fault Unit}
    (hlink : (Link.create c : Op Unit Link).eval () = (.ok l, ()))
    (hopen : (Endpoint.create c app.linked.hooks).eval (l, u) = (.ok e, w))
    (hout : c.Consumed c.statusOut) (hlog : c.Produced c.logBuffer)
    (hpast : Run (Step c net) e past s1)
    (hsettled : Settled c s1 ∨ Run (PatientStep c net) e past s1)
    (hpost : (Endpoint.postLogEntry 0 entry).eval s1 = (.ok .successful, s2))
    (hduring : Run (Step c net) s2 during s3) (hquiet : Undisturbed during)
    (hrounds : rounds during < logTimeoutCycles) (hlocked : s3.log.locked = true)
    (hasync : (Endpoint.processAsync net.linked).eval s3 = (r, s4))
    (hreleased : s4.log.locked = false) : .take (.ok (some entry)) ∈ during := by
  obtain ⟨hc, rfl, rfl, rfl⟩ := (Live.create_linked app).mp ⟨hlink, hopen⟩
  obtain ⟨k1, rfl, h1⟩ := connected_run hc hout hlog (Live.connected_initial c u) hpast
  have hfree : k1.logLocked = false := by
    obtain ⟨a, k', hk, hs⟩ := Live.eval_postLogEntry app.linked hc h1.toSound entry
    rw [hk] at hpost
    cases hpost
    cases hs with
    | posted hl => exact hl
  have hset : Settled c (k1.endpoint c app.linked) := by
    rcases hsettled with hs | hp
    · exact hs
    · exact settled_of_patient hc hout hlog hp hfree
  obtain ⟨k2, rfl, h2, hwait⟩ := waiting_of_posted hc hout hlog h1 hset hpost
  -- the entry waits until it is taken, whatever happens in between
  have hinv : ∃ k, s3 = k.endpoint c app.linked ∧ k.Connected c ∧
      (Undisturbed during → rounds during < logTimeoutCycles →
        .take (.ok (some entry)) ∈ during ∨ Waiting entry (rounds during) (view c k)) := by
    refine hduring.invariant (I := fun es s => ∃ k, s = Live.endpoint c app.linked k ∧
      k.Connected c ∧ (Undisturbed es → rounds es < logTimeoutCycles →
        .take (.ok (some entry)) ∈ es ∨ Waiting entry (rounds es) (view c k)))
      ⟨k2, rfl, h2, fun _ _ => .inr hwait⟩ ?_
    intro es _ ev t h hs
    obtain ⟨k, rfl, hk, ih⟩ := h
    obtain ⟨k', rfl, hk', hm⟩ := move_step net hc hout hlog hk hs
    refine ⟨k', rfl, hk', ?_⟩
    intro hq hn
    rw [rounds_append] at hn ⊢
    rcases ih hq.of_append (by omega) with hmem | hw
    · exact .inl (List.mem_append_left _ hmem)
    · rcases hw.move hm (fun x => hq.ne_post) hn with rfl | hw'
      · exact .inl (List.mem_append_right _ (List.mem_singleton.mpr rfl))
      · exact .inr hw'
  obtain ⟨k3, rfl, h3, hcase⟩ := hinv
  rcases hcase hquiet hrounds with hmem | hw
  · exact hmem
  · -- a waiting entry is not released
    obtain ⟨k4, rfl, h4, hm⟩ := move_step net hc hout hlog h3 (.call (.async hasync))
    rcases hw.move hm (by simp) hrounds with he | hw'
    · cases he
    · exact absurd (hw'.locked.symm.trans hreleased) (by simp)

/-- With nobody refusing anything, two transfers and a round deliver an entry and release it. -/
theorem run_delivered (hc : c.Accepted) (hout : c.Consumed c.statusOut)
    (hlog : c.Produced c.logBuffer) (entry : LogEntry) :
    ∃ s2 s3 s4 : Endpoint (Link × Unit),
      (Endpoint.postLogEntry 0 entry).eval
          ((Live.initial c (Link.fresh c, ())).endpoint c Surroundings.quiet.linked) =
        (.ok .successful, s2) ∧
      Run (Step c Transport.quiet) s2
        [.call (.sync (.ok ())), .take (.ok (some entry)), .call (.sync (.ok ())),
          .call (.round (.ok ()))] s3 ∧
      s3.log.locked = true ∧
      (Endpoint.processAsync Transport.quiet.linked).eval s3 = (.ok (), s4) ∧
      s4.log.locked = false := by
  let k0 : Live (Link × Unit) := Live.initial c (Link.fresh c, ())
  let k1 := k0.entered c entry
  let k2 := k1.exchanged c ()
  let k3 := k2.setLink (k2.link.taken c)
  let k4 := k3.exchanged c ()
  have h0 : k0.Connected c := Live.connected_initial c ()
  have hpost := Live.eval_postLogEntry_of_free Surroundings.quiet.linked hc h0.toSound rfl entry
  have h1 : k1.Connected c := h0.entryStep (.posted rfl)
  have h2 : k2.Connected c := Live.connected_exchanged h1
  have h3 : k3.Connected c := Live.connected_setLink h2 h2.attached.taken
  have h4 : k4.Connected c := Live.connected_exchanged h3
  have h5 : (k4.afterPost c).Connected c := h4.afterPost
  have hlen := Live.length_logBuffer hc h0.toSound
  -- the number goes out with the entry and comes back with the acknowledge
  have hv1 := view_entered hc h0.toSound entry
  have hv2 := view_exchanged hc hout hlog h1 ()
  have hv3 := view_taken hc hout h2
  have hv4 := view_exchanged hc hout hlog h3 ()
  have hv5 := view_afterPost (k := k4) hc
  have hsent : (view c k2).sent = LogEntry.imprint k0.logSeq entry (k0.buffer c c.logBuffer) := by
    rw [hv2, hv1]
  have hshown : (view c k2).shown = .first := by
    rw [hv2, hv1]
    show ((Link.fresh c).consumed c c.statusOut).flagAt Status.logOffset = .first
    rw [Link.consumed_fresh hout, Bytes.flagAt_replicate]
  have hkept : (view c (k4.afterPost c)).kept = .second := by
    rw [hv5, hv4, hv3]
    show (view c k2).sent.flagAt LogEntry.seqOffset = .second
    rw [hsent, LogEntry.flagAt_imprint hlen]
    rfl
  have hnew : (view c k2).sent.flagAt LogEntry.seqOffset ≠ (view c k2).shown := by
    rw [hsent, hshown, LogEntry.flagAt_imprint hlen]
    exact show SeqNr.second ≠ .first by decide
  have htaken := take_step Surroundings.quiet Transport.quiet hc hout hlog h2 (e := entry) hnew
    (by rw [hsent, LogEntry.read_imprint hlen])
  have hsync1 := Live.eval_processSync_linked Surroundings.quiet hc h1
    (Op.eval_pure () ()) (Op.eval_pure () ())
  have hsync2 := Live.eval_processSync_linked Surroundings.quiet hc h3
    (Op.eval_pure () ()) (Op.eval_pure () ())
  have hround := Live.eval_processPost Surroundings.quiet.linked hc h4.toSound
  obtain ⟨k6, k7, hasync, -, hlogstep, hv7⟩ := async_step Surroundings.quiet
    Transport.quiet hc h5
  refine ⟨_, _, _, hpost, (((Run.one (.call (.sync hsync1))).next htaken.1).next
    (.call (.sync hsync2))).next (.call (.round hround)), rfl, hasync, ?_⟩
  rw [show (k7.endpoint c Surroundings.quiet.linked).log.locked = (view c k7).locked from rfl, hv7]
  cases hlogstep with
  | idle hl => exact hl
  | acknowledged => rfl
  | expired => rfl
  | waiting _ ha => exact absurd hkept ha

theorem taken_of_released_reference :
    let c := Config.reference
    let entry : LogEntry := ⟨3, 2, 0x1234, 7, 9⟩
    let during : List Event :=
      [.call (.sync (.ok ())), .take (.ok (some entry)), .call (.sync (.ok ())),
        .call (.round (.ok ()))]
    ∃ e s2 s3 s4 : Endpoint (Link × Unit),
      (Endpoint.create c Surroundings.quiet.linked.hooks).eval (Link.fresh c, ()) =
        (.ok e, (Link.fresh c, ())) ∧
      (Endpoint.postLogEntry 0 entry).eval e = (.ok .successful, s2) ∧
      Run (Step c Transport.quiet) s2 during s3 ∧ s3.log.locked = true ∧
      (Endpoint.processAsync Transport.quiet.linked).eval s3 = (.ok (), s4) ∧
      s4.log.locked = false ∧ .take (.ok (some entry)) ∈ during := by
  intro c entry during
  have hc : c.Accepted := Config.accepted_reference
  have hout : c.Consumed c.statusOut := by decide
  have hlog : c.Produced c.logBuffer := by decide
  obtain ⟨hlink, hopen⟩ := (Live.create_linked Surroundings.quiet (u := ())).mpr ⟨hc, rfl, rfl, rfl⟩
  obtain ⟨s2, s3, s4, hpost, hrun, hlocked, hasync, hreleased⟩ := run_delivered hc hout hlog entry
  exact ⟨_, s2, s3, s4, hopen, hpost, hrun, hlocked, hasync, hreleased,
    taken_of_released hlink hopen hout hlog (.start _) (.inr (.start _)) hpost hrun
      (fun x hx => by simp [during] at hx) (by decide) hlocked hasync hreleased⟩

/-! ## A release without delivery -/

theorem run_rounds (app : Surroundings υ) (net : Transport υ) (hc : c.Accepted)
    (h : k.Connected c) (ht : k.logTimer = ⟨0, true⟩)
    (hk : (view c k).kept = (view c k).received) (n : Nat) (hn : n ≤ Counter.limit) :
    ∃ k', Run (Step c net) (k.endpoint c app.linked)
        (List.replicate n (.call (.round (.ok ())))) (k'.endpoint c app.linked) ∧
      k'.Connected c ∧ view c k' = { view c k with timer := ⟨n, true⟩ } := by
  induction n with
  | zero =>
    refine ⟨k, .start _, h, ?_⟩
    rw [← ht]
    rfl
  | succ n ih =>
    obtain ⟨k1, hrun, h1, hv⟩ := ih (by omega)
    have hkept : (view c k1).received = (view c k).kept := by rw [hv, hk]
    have htimer : k1.logTimer = ⟨n, true⟩ := congrArg View.timer hv
    refine ⟨k1.afterPost c, ?_, h1.afterPost, ?_⟩
    · rw [List.replicate_succ']
      exact hrun.next (.call (.round (Live.eval_processPost app.linked hc h1.toSound)))
    · rw [view_afterPost hc, hkept, htimer, hv]
      unfold Counter.increment
      rw [if_pos rfl]
      dsimp only
      rw [Nat.min_eq_left hn]

/-- An entry whose number does not come back is given up after its time. -/
theorem run_expired (app : Surroundings υ) (net : Transport υ) (hc : c.Accepted)
    (h : k.Connected c) (hl : k.logLocked = true) (ht : k.logTimer = ⟨0, true⟩)
    (hk : (view c k).kept = (view c k).received) (hne : (view c k).kept ≠ k.logSeq) :
    ∃ k', Run (Step c net) (k.endpoint c app.linked)
        (List.replicate logTimeoutCycles (.call (.round (.ok ()))) ++ [.call (.async (.ok ()))])
        (k'.endpoint c app.linked) ∧
      k'.Connected c ∧ view c k' = { view c k with
        locked := false
        seq := k.logSeq.flip
        timer := ⟨logTimeoutCycles, true⟩ } := by
  obtain ⟨k1, hrounds, h1, hv1⟩ := run_rounds app net hc h ht hk logTimeoutCycles (by decide)
  obtain ⟨k2, k3, hasync, h3, hlog, hv3⟩ := async_step app net hc h1
  have hseq : k1.logSeq = k.logSeq := congrArg View.seq hv1
  have hlocked : k1.logLocked = true := (congrArg View.locked hv1).trans hl
  have htimer : k1.logTimer = ⟨logTimeoutCycles, true⟩ := congrArg View.timer hv1
  have hkept : (view c k1).kept ≠ k1.logSeq := by
    rw [hseq, congrArg View.kept hv1]
    exact hne
  refine ⟨k3, hrounds.next (.call (.async hasync)), h3, ?_⟩
  rw [hv3]
  -- the register still shows another number, and the time is up
  cases hlog with
  | idle hfree => exact absurd (hfree.symm.trans hlocked) (by simp)
  | acknowledged _ ha => exact absurd ha hkept
  | waiting _ _ hw => exact absurd (by rw [htimer]; exact ⟨rfl, Nat.le_refl _⟩) hw
  | expired =>
    show ({ view c k1 with locked := false, seq := k1.logSeq.flip } : View) = _
    rw [hv1, hseq]

/-- An entry that no transfer carries is given up after its time, and the register has shown
the number of the next one all along. -/
theorem run_givenUp (app : Surroundings υ) (net : Transport υ) (hc : c.Accepted) (u : υ)
    (e : LogEntry) :
    ∃ k, Run (Step c net) ((Live.initial c (Link.fresh c, u)).endpoint c app.linked)
        ([.call (.post e (.ok .successful))] ++
          List.replicate logTimeoutCycles (.call (.round (.ok ()))) ++ [.call (.async (.ok ()))])
        (k.endpoint c app.linked) ∧
      k.Connected c ∧ k.logLocked = false ∧ k.logSeq = (view c k).kept := by
  let k0 : Live (Link × υ) := Live.initial c (Link.fresh c, u)
  have h0 : k0.Connected c := Live.connected_initial c u
  have hpost := Live.eval_postLogEntry_of_free app.linked hc h0.toSound rfl e
  have h1 : (k0.entered c e).Connected c := h0.entryStep (.posted rfl)
  have hv1 := view_entered hc h0.toSound e
  have hkept : (view c (k0.entered c e)).kept = .first :=
    (congrArg View.kept hv1).trans (kept_initial c _)
  have hreceived : (view c (k0.entered c e)).received = .first :=
    (congrArg View.received hv1).trans (received_initial c _)
  obtain ⟨k2, hrun, h2, hv2⟩ := run_expired app net hc h1 rfl rfl (hkept.trans hreceived.symm)
    (by rw [hkept]; exact show SeqNr.first ≠ .second by decide)
  refine ⟨k2, ?_, h2, congrArg View.locked hv2, ?_⟩
  · rw [List.append_assoc]
    exact (Run.one (.call (.post hpost))).trans hrun
  · have hseq : k2.logSeq = (k0.entered c e).logSeq.flip := congrArg View.seq hv2
    rw [hseq, congrArg View.kept hv2]
    exact hkept.symm

/-- Without either condition of `taken_of_released` an entry may be released that nobody took.
The first entry is given up after its time without a transfer; the second one carries the
number that the register has shown from the start, and is released at once. -/
theorem not_taken_of_released :
    ¬ ∀ (c : Config) (app : Surroundings Unit) (net : Transport Unit) (l : Link)
        (e s1 s2 s3 s4 : Endpoint (Link × Unit)) (w : Link × Unit) (past during : List Event)
        (entry : LogEntry) (r : Except Fault Unit),
      (Link.create c : Op Unit Link).eval () = (.ok l, ()) →
      (Endpoint.create c app.linked.hooks).eval (l, ()) = (.ok e, w) →
      c.Consumed c.statusOut → c.Produced c.logBuffer →
      Run (Step c net) e past s1 →
      (Endpoint.postLogEntry 0 entry).eval s1 = (.ok .successful, s2) →
      Run (Step c net) s2 during s3 → Undisturbed during → rounds during < logTimeoutCycles →
      s3.log.locked = true →
      (Endpoint.processAsync net.linked).eval s3 = (r, s4) → s4.log.locked = false →
      .take (.ok (some entry)) ∈ during := by
  intro hall
  let c := Config.reference
  let app : Surroundings Unit := .quiet
  let net := Transport.quiet
  let entry : LogEntry := ⟨1, 0, 0, 0, 0⟩
  have hc : c.Accepted := Config.accepted_reference
  obtain ⟨k1, hpast, h1, hfree, hseq⟩ := run_givenUp app net hc () entry
  obtain ⟨a, k2, hpost, hs⟩ := Live.eval_postLogEntry app.linked hc h1.toSound entry
  cases hs with
  | busy hl => exact absurd (hl.symm.trans hfree) (by simp)
  | posted hl =>
    have h2 : (k1.entered c entry).Connected c := h1.entryStep (.posted hl)
    obtain ⟨k3, k4, hasync, -, hlog, hv⟩ := async_step app net hc h2
    -- the number of the second entry is the one the register shows
    have hreleased : k4.logLocked = false := by
      rw [show k4.logLocked = (view c k4).locked from rfl, hv]
      cases hlog with
      | idle hl => exact hl
      | acknowledged => rfl
      | expired => rfl
      | waiting _ ha => exact absurd hseq.symm ha
    obtain ⟨hlink, hopen⟩ := (Live.create_linked app (u := ())).mpr ⟨hc, rfl, rfl, rfl⟩
    have hmem := hall c app net (Link.fresh c) _ _ _ _ _ (Link.fresh c, ()) _ [] entry (.ok ())
      hlink hopen (by decide) (by decide) hpast hpost (.start _)
      (fun _ => List.not_mem_nil) (by decide) rfl hasync hreleased
    exact List.not_mem_nil hmem

end Logbook

end SlimInterface
