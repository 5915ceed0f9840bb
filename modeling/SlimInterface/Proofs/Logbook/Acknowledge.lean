import SlimInterface.Proofs.Remote.Linked

/-!
# How far an entry and its acknowledge have come

An entry goes from the logbook buffer to the remote side, and its number comes back through
the status buffer into a register. `View` is what both sides know of the entry posted last,
and `Move` lists what the steps of either side do to it (`move_step`).

Two things are kept by every move: an entry that waits stays where it is until it is taken or
its time is up (`Waiting.move`), and as long as no entry is given up the copies of its number
follow one another (`InOrder.move`).
-/

namespace SlimInterface

variable {υ : Type}

namespace Logbook

/-! ## Runs -/

/-- What happens between an endpoint and the remote side of its link. -/
inductive Event
  /-- The application calls the endpoint. -/
  | call (a : Call)
  /-- The remote side asks for an entry. -/
  | take (answer : Except Fault (Option LogEntry))
  /-- The remote side publishes something else. -/
  | publish

/-- The acknowledge the remote side shows. -/
def shown (c : Config) (l : Link) : SeqNr := (l.consumed c c.statusOut).flagAt Status.logOffset

/-- The steps of both sides. What else the remote side publishes leaves the acknowledge as it
is. -/
inductive Step (c : Config) (net : Transport υ) (s : Endpoint (Link × υ)) :
    Event → Endpoint (Link × υ) → Prop
  | call {a : Call} {t : Endpoint (Link × υ)} (h : s.Does net.linked a t) :
      Step c net s (.call a) t
  | take {o : Outcome Link (Option LogEntry)} (h : Link.takeLogEntry? 0 s.world.1 = some o) :
      Step c net s (.take o.result) (s.setWorld (o.state, s.world.2))
  | publish {consumer : Bytes} (hlen : consumer.length = s.world.1.consumer.length)
      (hflag : shown c { s.world.1 with consumer } = shown c s.world.1) :
      Step c net s .publish (s.setWorld ({ s.world.1 with consumer }, s.world.2))

/-- A round of post-actions. -/
def Event.isRound : Event → Bool
  | .call (.round _) => true
  | _ => false

/-! ## How far an entry and its acknowledge have come -/

/-- What both sides know of the entry posted last. -/
structure View where
  locked : Bool
  seq : SeqNr
  timer : Counter
  /-- The logbook buffer. -/
  staged : Bytes
  /-- The remote copy of the logbook buffer. -/
  sent : Bytes
  /-- The acknowledge the remote side shows. -/
  shown : SeqNr
  /-- The acknowledge in the local status buffer. -/
  received : SeqNr
  /-- The acknowledge in the register. -/
  kept : SeqNr

/-- The view of an endpoint on a link. -/
def view (c : Config) (k : Live (Link × υ)) : View where
  locked := k.logLocked
  seq := k.logSeq
  timer := k.logTimer
  staged := k.buffer c c.logBuffer
  sent := k.link.sent c c.logBuffer
  shown := shown c k.link
  received := (k.buffer c c.statusOut).flagAt Status.logOffset
  kept := SeqNr.ofLowBit k.registers.logTx.toNat

/-- What a step does to the view. -/
inductive Move (v : View) : Event → View → Prop
  | post {e : LogEntry} {b : Bytes} (hl : v.locked = false)
      (hb : b.flagAt LogEntry.seqOffset = v.seq) (hr : LogEntry.read b = .ok e) :
      Move v (.call (.post e (.ok .successful)))
        { v with locked := true, timer := v.timer.start, staged := b }
  | exchange : Move v (.call (.sync (.ok ()))) { v with sent := v.staged, received := v.shown }
  | round :
      Move v (.call (.round (.ok ()))) { v with kept := v.received, timer := v.timer.increment }
  | acknowledge {r : Except Fault Unit} (hl : v.locked = true) (ha : v.kept = v.seq) :
      Move v (.call (.async r))
        { v with locked := false, seq := v.seq.flip, timer := v.timer.stop }
  | giveUp {r : Except Fault Unit} (hl : v.locked = true) (ha : v.kept ≠ v.seq)
      (he : v.timer.enabled = true) (ht : logTimeoutCycles ≤ v.timer.count) :
      Move v (.call (.async r)) { v with locked := false, seq := v.seq.flip }
  | take {e : LogEntry} (hne : v.sent.flagAt LogEntry.seqOffset ≠ v.shown)
      (hr : LogEntry.read v.sent = .ok e) :
      Move v (.take (.ok (some e))) { v with shown := v.sent.flagAt LogEntry.seqOffset }
  /-- Nothing of the view changes. -/
  | stay {e : Event} (hp : ∀ x, e ≠ .call (.post x (.ok .successful))) (hr : e.isRound = false)
      (ht : ∀ x, e ≠ .take (.ok (some x))) : Move v e v

/-- The entry `e` was posted, `n` rounds ago, and the remote side has not taken it. -/
structure Waiting (e : LogEntry) (n : Nat) (v : View) : Prop where
  locked : v.locked = true
  timer : v.timer = ⟨n, true⟩
  entry : LogEntry.read v.staged = .ok e
  sent : v.sent.flagAt LogEntry.seqOffset = v.seq.flip ∨ v.sent = v.staged
  shown : v.shown = v.seq.flip
  received : v.received = v.seq.flip
  kept : v.kept = v.seq.flip

/-- While its time is not up, the entry waits until the remote side takes it. -/
theorem Waiting.move {e : LogEntry} {n : Nat} {v v' : View} {ev : Event} (h : Waiting e n v)
    (hm : Move v ev v') (hp : ∀ x, ev ≠ .call (.post x (.ok .successful)))
    (hn : n + (if ev.isRound then 1 else 0) < logTimeoutCycles) :
    ev = .take (.ok (some e)) ∨ Waiting e (n + if ev.isRound then 1 else 0) v' := by
  obtain ⟨hlocked, htimer, hentry, hsent, hshown, hreceived, hkept⟩ := h
  cases hm with
  | @post x => exact absurd rfl (hp x)
  | exchange => exact .inr ⟨hlocked, htimer, hentry, .inr rfl, hshown, hshown, hkept⟩
  | round =>
    refine .inr ⟨hlocked, ?_, hentry, hsent, hshown, hreceived, hreceived⟩
    have hlt : n + 1 < 100 := hn
    show v.timer.increment = ⟨n + 1, true⟩
    rw [htimer]
    unfold Counter.increment
    rw [if_pos rfl]
    show (⟨min (n + 1) 65535, true⟩ : Counter) = _
    rw [Nat.min_eq_left (by omega)]
  | acknowledge _ ha => exact absurd (hkept.symm.trans ha) (SeqNr.flip_ne _)
  | giveUp _ _ _ ht =>
    -- its time is not up
    rw [htimer] at ht
    exact absurd hn (by dsimp only at ht ⊢; omega)
  | take hne hr =>
    -- the remote side sees the entry before this one, which it has taken, or this one
    rcases hsent with hs | hs
    · exact absurd (hs.trans hshown.symm) hne
    · rw [hs, hentry] at hr
      cases hr
      exact .inl rfl
  | stay _ hr =>
    rw [hr]
    exact .inr ⟨hlocked, htimer, hentry, hsent, hshown, hreceived, hkept⟩

/-- The number of the entry posted last passes from the buffer to the remote copy, and back
from the acknowledge into the register, and is nowhere before it is in the buffer. -/
structure InOrder (v : View) : Prop where
  kept : v.kept = v.seq → v.received = v.seq
  received : v.received = v.seq → v.shown = v.seq
  shown : v.shown = v.seq → v.sent.flagAt LogEntry.seqOffset = v.seq
  sent : v.sent.flagAt LogEntry.seqOffset = v.seq → v.staged.flagAt LogEntry.seqOffset = v.seq
  staged : v.staged.flagAt LogEntry.seqOffset = v.seq ↔ v.locked = true

/-- The order is kept as long as no entry is given up. -/
theorem InOrder.move {v v' : View} {ev : Event} (h : InOrder v) (hm : Move v ev v')
    (hg : ∀ r, ev = .call (.async r) →
      ¬ (v.locked = true ∧ v.kept ≠ v.seq ∧ v.timer.enabled = true ∧
        logTimeoutCycles ≤ v.timer.count)) : InOrder v' := by
  obtain ⟨hkept, hreceived, hshown, hsent, hstaged⟩ := h
  cases hm with
  | post hl hb =>
    -- the number was not in the buffer before, so it is in none of the copies
    have hfree : v.staged.flagAt LogEntry.seqOffset ≠ v.seq := by
      rw [ne_eq, hstaged, hl]
      simp
    refine ⟨hkept, hreceived, hshown, fun hs => absurd (hsent hs) hfree, ?_⟩
    exact ⟨fun _ => rfl, fun _ => hb⟩
  | exchange => exact ⟨fun hk => hreceived (hkept hk), id, fun hs => hsent (hshown hs), id, hstaged⟩
  | round => exact ⟨id, hreceived, hshown, hsent, hstaged⟩
  | acknowledge hl ha =>
    -- every copy shows the old number, so none shows the next one
    have hr := hkept ha
    have hs := hreceived hr
    have ht := hshown hs
    have hu := hsent ht
    have hne {x : SeqNr} (hx : x = v.seq) : x ≠ v.seq.flip := by
      rw [hx]
      exact fun he => SeqNr.flip_ne _ he.symm
    exact ⟨fun hk => absurd hk (hne ha), fun hk => absurd hk (hne hr), fun hk => absurd hk (hne hs),
      fun hk => absurd hk (hne ht), fun hk => absurd hk (hne hu), fun hk => absurd hk (by simp)⟩
  | giveUp hl ha he ht => exact absurd ⟨hl, ha, he, ht⟩ (hg _ rfl)
  | take _ _ => exact ⟨hkept, fun hr => hshown (hreceived hr), id, hsent, hstaged⟩
  | stay => exact ⟨hkept, hreceived, hshown, hsent, hstaged⟩

/-! ## Steps -/

variable {c : Config} {app : Surroundings υ} {net : Transport υ} {k k' : Live (Link × υ)}

theorem view_eq {k k' : Live (Link × υ)} (hl : k'.logLocked = k.logLocked)
    (hs : k'.logSeq = k.logSeq) (ht : k'.logTimer = k.logTimer)
    (hb : k'.buffer c c.logBuffer = k.buffer c c.logBuffer)
    (ho : k'.buffer c c.statusOut = k.buffer c c.statusOut)
    (hr : k'.registers.logTx = k.registers.logTx) (hk : k'.link = k.link) :
    view c k' = view c k := by
  unfold view
  rw [hl, hs, ht, hb, ho, hr, hk]

theorem view_txStep (hs : Live.TxStep c net.linked k k') : view c k' = view c k := by
  have hl := Live.TxStep.link_eq hs
  cases hs <;> exact view_eq rfl rfl rfl rfl rfl rfl hl

theorem view_offered (hc : c.Accepted) {p : Bytes} : view c (k.offered c p) = view c k := by
  refine view_eq rfl rfl rfl (Live.buffer_offered hc ?_) (Live.buffer_offered hc ?_) rfl rfl
  · rw [hc.logBuffer_size]
    decide
  · rw [hc.statusOut_size]
    decide

theorem view_rxStep (hc : c.Accepted) (hs : Live.RxStep c k k') : view c k' = view c k := by
  cases hs with
  | idle => rfl
  | posted => exact view_offered hc
  | postponed => rfl
  | reposted =>
    show view c (k.offered c (k.cached.getD [])) = view c k
    exact view_offered hc
  | waiting => rfl

theorem view_entered (hc : c.Accepted) (h : k.Sound c) (e : LogEntry) :
    view c (k.entered c e) = { view c k with
      locked := true
      timer := k.logTimer.start
      staged := LogEntry.imprint k.logSeq e (k.buffer c c.logBuffer) } := by
  have hreceived : (k.entered c e).buffer c c.statusOut = k.buffer c c.statusOut :=
    Live.buffer_entered hc (by rw [hc.statusOut_size]; decide)
  unfold view
  rw [Live.logBuffer_entered h, hreceived]
  rfl

theorem view_afterPost (hc : c.Accepted) :
    view c (k.afterPost c) = { view c k with
      kept := (view c k).received
      timer := k.logTimer.increment } := by
  have hstaged : (k.afterPost c).buffer c c.logBuffer = k.buffer c c.logBuffer :=
    Live.buffer_afterPost hc (by rw [hc.logBuffer_size]; decide)
  have hreceived : (k.afterPost c).buffer c c.statusOut = k.buffer c c.statusOut :=
    Live.buffer_afterPost hc (by rw [hc.statusOut_size]; decide)
  unfold view
  rw [hstaged, hreceived]
  rfl

theorem view_exchanged (hc : c.Accepted) (hout : c.Consumed c.statusOut)
    (hlog : c.Produced c.logBuffer) (h : k.Connected c) (u : υ) :
    view c (k.exchanged c u) =
      { view c k with sent := (view c k).staged, received := (view c k).shown } := by
  unfold view
  rw [Live.buffer_exchanged_of_not hc.toLaidOut hlog.not_consumed, Live.buffer_exchanged h hout,
    Live.sent_exchanged hlog]
  rfl

theorem view_taken (hc : c.Accepted) (hout : c.Consumed c.statusOut) (h : k.Connected c) :
    view c (k.setLink (k.link.taken c)) =
      { view c k with shown := (view c k).sent.flagAt LogEntry.seqOffset } := by
  have hshown : shown c (k.setLink (k.link.taken c)).link =
      (k.link.sent c c.logBuffer).flagAt LogEntry.seqOffset :=
    Link.flagAt_consumed_taken hc h.attached hout
  unfold view
  rw [hshown]
  rfl

theorem move_callStep {a : Call} (hc : c.Accepted) (hout : c.Consumed c.statusOut)
    (hlog : c.Produced c.logBuffer) (h : k.Connected c)
    (hs : Live.CallStep c app.linked net.linked k a k') :
    Move (view c k) (.call a) (view c k') := by
  cases hs with
  | @post e a k' hs =>
    cases hs with
    | busy => exact .stay (by simp) rfl (by simp)
    | posted hl =>
      have hlen := Live.length_logBuffer hc h.toSound
      rw [view_entered hc h.toSound]
      exact .post hl (LogEntry.flagAt_imprint hlen) (LogEntry.read_imprint hlen)
  | receive hs => cases hs <;> exact .stay (by simp) rfl (by simp)
  | sync hs =>
    rcases Live.SyncStep.cases_linked h hs with ⟨rfl, u, rfl⟩ | ⟨⟨f, rfl⟩, u, t, rfl⟩
    · rw [view_exchanged hc hout hlog h]
      exact .exchange
    · exact .stay (by simp) rfl (by simp)
  | round =>
    rw [view_afterPost hc]
    exact .round
  | @async k1 k2 _ hstep htx hrx =>
    -- the two sides of the other channel do not show
    rw [view_rxStep hc hrx, view_txStep htx]
    cases hstep with
    | idle => exact .stay (by simp) rfl (by simp)
    | acknowledged hl ha => exact .acknowledge hl ha
    | expired hl ha he ht => exact .giveUp hl ha he ht
    | waiting => exact .stay (by simp) rfl (by simp)

/-- Every step of either side is a move. -/
theorem move_step (net : Transport υ) {e : Event} {t : Endpoint (Link × υ)} (hc : c.Accepted)
    (hout : c.Consumed c.statusOut) (hlog : c.Produced c.logBuffer) (h : k.Connected c)
    (hs : Step c net (k.endpoint c app.linked) e t) :
    ∃ k', t = k'.endpoint c app.linked ∧ k'.Connected c ∧ Move (view c k) e (view c k') := by
  cases hs with
  | call hd =>
    obtain ⟨k', rfl, hcall⟩ := Live.callStep_of_does hc h.toSound hd
    exact ⟨k', rfl, h.callStep hcall, move_callStep hc hout hlog h hcall⟩
  | @take o ho =>
    refine ⟨k.setLink o.state, rfl, ?_⟩
    rcases Link.takeLogEntry?_eq hc h.attached hout hlog with
      ⟨-, htake⟩ | ⟨hne, e, lines, hr, htake⟩
    · have heq : o = ⟨.ok none, k.link, []⟩ := Option.some.inj (ho.symm.trans htake)
      subst heq
      exact ⟨Live.connected_setLink h h.attached, .stay (by simp) rfl (by simp)⟩
    · have heq : o = ⟨.ok (some e), k.link.taken c, lines⟩ := Option.some.inj (ho.symm.trans htake)
      subst heq
      refine ⟨Live.connected_setLink h h.attached.taken, ?_⟩
      rw [view_taken hc hout h]
      exact .take hne hr
  | @publish consumer hlen hflag =>
    refine ⟨k.setLink { k.link with consumer }, rfl,
      Live.connected_setLink h (h.attached.consumer hlen), ?_⟩
    have hview : view c (k.setLink { k.link with consumer }) = view c k := by
      have hshown : shown c (k.setLink { k.link with consumer }).link = shown c k.link := hflag
      unfold view
      rw [hshown]
      rfl
    rw [hview]
    exact .stay (by simp) rfl (by simp)

/-- The remote side takes an entry whose number it does not show. -/
theorem take_step (app : Surroundings υ) (net : Transport υ) (hc : c.Accepted)
    (hout : c.Consumed c.statusOut) (hlog : c.Produced c.logBuffer) (h : k.Connected c)
    {e : LogEntry} (hne : (view c k).sent.flagAt LogEntry.seqOffset ≠ (view c k).shown)
    (hr : LogEntry.read (view c k).sent = .ok e) :
    Step c net (k.endpoint c app.linked) (.take (.ok (some e)))
        ((k.setLink (k.link.taken c)).endpoint c app.linked) ∧
      (k.setLink (k.link.taken c)).Connected c := by
  refine ⟨?_, Live.connected_setLink h h.attached.taken⟩
  rcases Link.takeLogEntry?_eq hc h.attached hout hlog with ⟨heq, -⟩ | ⟨-, e', lines, he, htake⟩
  · exact absurd heq hne
  · obtain rfl : e' = e := Except.ok.inj (he.symm.trans hr)
    exact Step.take (s := k.endpoint c app.linked) htake

/-- The background loop takes one step of the channel; the rest of it does not show. -/
theorem async_step (app : Surroundings υ) (net : Transport υ) (hc : c.Accepted)
    (h : k.Connected c) :
    ∃ k1 k', (Endpoint.processAsync net.linked).eval (k.endpoint c app.linked) =
        (.ok (), k'.endpoint c app.linked) ∧
      k'.Connected c ∧ Live.LogStep k k1 ∧ view c k' = view c k1 := by
  obtain ⟨k1, k2, k3, heval, hlog, htx, hrx⟩ :=
    Live.eval_processAsync app.linked net.linked hc h.toSound
  refine ⟨k1, k3, heval, ((h.logStep hlog).txStep htx).rxStep hrx, hlog, ?_⟩
  rw [view_rxStep hc hrx, view_txStep htx]

end Logbook

end SlimInterface
