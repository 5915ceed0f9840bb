import SlimInterface.Proofs.Logbook.Order

/-!
# Without timeouts entries arrive exactly once

As long as every entry is released before its time is up, none is given up, and the numbers of
the two sides always say who has seen what: `posted_eq` accounts for every entry. The posted
entries are those the remote side took, and then the outstanding one if there is one. A free
channel has none.

A run is timely if every release comes less than `logTimeoutCycles` rounds after the entry was
posted. `Event.age` counts the rounds; the timer never shows more (`Accounted.timer`).
-/

namespace SlimInterface

variable {υ : Type}

theorem Counter.count_increment_le (t : Counter) : t.increment.count ≤ t.count + 1 := by
  unfold Counter.increment
  split
  · exact Nat.min_le_left _ _
  · exact Nat.le_succ _

namespace Logbook

/-! ## Timely runs -/

/-- The rounds since the last post. -/
def Event.age (n : Nat) : Event → Nat
  | .call (.post _ (.ok .successful)) => 0
  | .call (.round _) => n + 1
  | _ => n

/-- The steps of both sides, beside the rounds since the last post, as long as no entry is
released later than it should be. -/
structure TimelyStep (c : Config) (net : Transport υ) (p : Endpoint (Link × υ) × Nat) (e : Event)
    (q : Endpoint (Link × υ) × Nat) : Prop where
  step : Step c net p.1 e q.1
  age : q.2 = e.age p.2
  timely : p.1.log.locked = true → q.1.log.locked = false → p.2 < logTimeoutCycles

/-- The entry that was posted and not yet taken: it is in the buffer of a locked channel, and
the remote side does not show its number. -/
def outstanding (c : Config) (s : Endpoint (Link × υ)) : Option LogEntry :=
  if s.log.locked = true ∧ shown c s.world.1 ≠ s.log.seq then
    (LogEntry.read ((c.span c.logBuffer).read s.station.stream.image)).toOption
  else none

theorem Event.age_eq {n : Nat} {e : Event} (hp : ∀ x, e ≠ .call (.post x (.ok .successful)))
    (hr : e.isRound = false) : e.age n = n := by
  unfold Event.age
  split
  next x => exact absurd rfl (hp x)
  next => cases hr
  next => rfl

theorem Event.age_le (n : Nat) (e : Event) : e.age n ≤ n + if e.isRound then 1 else 0 := by
  unfold Event.age
  split
  next => exact Nat.zero_le _
  next => exact Nat.le_refl _
  next => exact Nat.le_add_right _ _

variable {c : Config} {app : Surroundings υ} {net : Transport υ} {k : Live (Link × υ)}

/-- Nothing is late in a run that is short. -/
theorem run_timely {s t : Endpoint (Link × υ)} {es : List Event} (h : Run (Step c net) s es t)
    {n : Nat} (hn : n + rounds es < logTimeoutCycles) :
    ∃ m, m ≤ n + rounds es ∧ Run (TimelyStep c net) (s, n) es (t, m) := by
  induction h with
  | start => exact ⟨n, Nat.le_add_right _ _, .start _⟩
  | @next t u es e h hs ih =>
    rw [rounds_append] at hn ⊢
    obtain ⟨m, hm, hrun⟩ := ih (by omega)
    have hage := e.age_le m
    exact ⟨e.age m, by omega, hrun.next ⟨hs, rfl, fun _ _ => by dsimp only; omega⟩⟩

/-! ## Where the posted entries are -/

/-- The entry that was posted and not yet taken. -/
def View.outstanding (v : View) : Option LogEntry :=
  if v.locked = true ∧ v.shown ≠ v.seq then (LogEntry.read v.staged).toOption else none

theorem View.outstanding_eq_none {v : View} (h : v.locked = true → v.shown = v.seq) :
    v.outstanding = none := by
  unfold View.outstanding
  exact if_neg fun ho => ho.2 (h ho.1)

theorem View.outstanding_eq_some {v : View} {e : LogEntry} (hl : v.locked = true)
    (hs : v.shown ≠ v.seq) (hr : LogEntry.read v.staged = .ok e) : v.outstanding = some e := by
  unfold View.outstanding
  rw [if_pos ⟨hl, hs⟩, hr]
  rfl

/-- The entries `ps` were posted, the last of them `n` rounds ago, and `ts` were taken. -/
structure Accounted (n : Nat) (ps ts : List LogEntry) (v : View) : Prop extends InOrder v where
  /-- The remote side sees the entry under the number of the channel as it is in the buffer. -/
  arrived : v.sent.flagAt LogEntry.seqOffset = v.seq → v.sent = v.staged
  timer : v.locked = true → v.timer.count ≤ n
  accounted : ps = ts ++ v.outstanding.toList

variable {n : Nat} {ps ts : List LogEntry} {v v' : View} {ev : Event}

/-- Nothing is outstanding on a free channel. -/
theorem Accounted.of_free (h : Accounted n ps ts v) (hl : v.locked = false) : ps = ts := by
  have hnone : v.outstanding = none := View.outstanding_eq_none fun ht => by
    rw [hl] at ht
    cases ht
  rw [h.accounted, hnone]
  exact List.append_nil ts

/-- The number under which nothing is staged is in no copy. -/
theorem InOrder.fresh (h : InOrder v) (hl : v.locked = false) :
    v.sent.flagAt LogEntry.seqOffset ≠ v.seq ∧ v.shown ≠ v.seq := by
  have hsent : v.sent.flagAt LogEntry.seqOffset ≠ v.seq := by
    intro hs
    rw [h.staged.mp (h.sent hs)] at hl
    cases hl
  exact ⟨hsent, mt h.shown hsent⟩

/-- What the remote side can take is the entry the channel has outstanding. -/
theorem InOrder.of_taken (h : InOrder v) (hne : v.sent.flagAt LogEntry.seqOffset ≠ v.shown) :
    v.sent.flagAt LogEntry.seqOffset = v.seq ∧ v.locked = true := by
  by_cases hs : v.sent.flagAt LogEntry.seqOffset = v.seq
  · exact ⟨hs, h.staged.mp (h.sent hs)⟩
  · -- both sides of the link show the other number
    have hshown := mt h.shown hs
    exact absurd ((SeqNr.eq_flip_of_ne hs).trans (SeqNr.eq_flip_of_ne hshown).symm) hne

/-- Every move keeps the entries accounted for, as long as none is released late. -/
theorem Accounted.move (h : Accounted n ps ts v) (hm : Move v ev v')
    (ht : v.locked = true → v'.locked = false → n < logTimeoutCycles) :
    Accounted (ev.age n) (ps ++ ev.posted?.toList) (ts ++ ev.taken?.toList) v' := by
  obtain ⟨horder, harrived, htimer, haccounted⟩ := h
  cases hm with
  | @post e b hl hb hr =>
    obtain ⟨hsent, hshown⟩ := horder.fresh hl
    have hfree : ps = ts := Accounted.of_free ⟨horder, harrived, htimer, haccounted⟩ hl
    refine ⟨horder.move (.post hl hb hr) (by simp), fun hs => absurd hs hsent,
      fun _ => Nat.le_refl 0, ?_⟩
    have hout : View.outstanding { v with
        locked := true
        timer := v.timer.start
        staged := b } = some e := View.outstanding_eq_some rfl hshown hr
    rw [hout, hfree]
    show ts ++ [e] = ts ++ [] ++ [e]
    rw [List.append_nil]
  | exchange =>
    refine ⟨horder.move .exchange (by simp), fun _ => rfl, htimer, ?_⟩
    show ps ++ [] = ts ++ [] ++ v.outstanding.toList
    rw [List.append_nil, List.append_nil]
    exact haccounted
  | round =>
    refine ⟨horder.move .round (by simp), harrived, fun hl => ?_, ?_⟩
    · exact Nat.le_trans (Counter.count_increment_le v.timer) (Nat.succ_le_succ (htimer hl))
    · show ps ++ [] = ts ++ [] ++ v.outstanding.toList
      rw [List.append_nil, List.append_nil]
      exact haccounted
  | @acknowledge r hl ha =>
    have hshown := horder.received (horder.kept ha)
    have hsent := horder.shown hshown
    refine ⟨horder.move (.acknowledge (r := r) hl ha) fun _ _ hn => hn.2.1 ha, ?_, fun hn => ?_,
      ?_⟩
    · -- the copy still shows the number of the entry that was released
      intro hs
      exact absurd (hs.symm.trans hsent) (SeqNr.flip_ne _)
    · cases hn
    · have hnone : View.outstanding { v with
          locked := false
          seq := v.seq.flip
          timer := v.timer.stop } = none := View.outstanding_eq_none fun hn => by cases hn
      rw [hnone, haccounted, View.outstanding_eq_none fun _ => hshown]
      simp [Event.posted?, Event.taken?]
  | giveUp hl _ _ hcount =>
    -- its time was not up when it was released
    have hlate := htimer hl
    have hearly := ht hl rfl
    exact absurd hcount (by omega)
  | @take e hne hr =>
    obtain ⟨hs, hl⟩ := horder.of_taken hne
    have hstaged := harrived hs
    have hshown : v.shown ≠ v.seq := fun hn => hne (hs.trans hn.symm)
    have hout := View.outstanding_eq_some hl hshown (hstaged ▸ hr)
    refine ⟨horder.move (.take hne hr) (by simp), harrived, htimer, ?_⟩
    rw [View.outstanding_eq_none fun _ => hs, haccounted, hout]
    show ts ++ [e] ++ [] = ts ++ [e] ++ []
    rfl
  | stay hp hround htake =>
    rw [Event.age_eq hp hround, Event.posted?_eq_none hp, Event.taken?_eq_none htake]
    refine ⟨horder, harrived, htimer, ?_⟩
    show ps ++ [] = ts ++ [] ++ v.outstanding.toList
    rw [List.append_nil, List.append_nil]
    exact haccounted

theorem accounted_initial (hout : c.Consumed c.statusOut) (hlog : c.Produced c.logBuffer) (u : υ) :
    Accounted 0 [] [] (view c (Live.initial c (Link.fresh c, u))) := by
  have horder := inOrder_initial hout hlog u
  have hfree : (view c (Live.initial c (Link.fresh c, u))).locked = false := rfl
  refine ⟨horder, fun hs => absurd hs (horder.fresh hfree).1, fun hl => ?_, ?_⟩
  · cases hl
  · rw [View.outstanding_eq_none fun hl => by cases hl]
    rfl

/-- Every entry is delivered exactly once, in order and unchanged, as long as none is released
late: the posted entries are those the remote side took, and the outstanding one while the
channel is locked. The channel is free only when all were taken. -/
theorem posted_eq {u : υ} {l : Link} {e s : Endpoint (Link × υ)} {w : Link × υ} {n : Nat}
    {es : List Event} (hlink : (Link.create c : Op Unit Link).eval () = (.ok l, ()))
    (hopen : (Endpoint.create c app.linked.hooks).eval (l, u) = (.ok e, w))
    (hout : c.Consumed c.statusOut) (hlog : c.Produced c.logBuffer)
    (hrun : Run (TimelyStep c net) (e, 0) es (s, n)) :
    posted es = taken es ++ (outstanding c s).toList ∧
      (s.log.locked = false → posted es = taken es) := by
  obtain ⟨hc, rfl, rfl, rfl⟩ := (Live.create_linked app).mp ⟨hlink, hopen⟩
  obtain ⟨k, hs, -, h⟩ : ∃ k, s = k.endpoint c app.linked ∧ k.Connected c ∧
      Accounted n (posted es) (taken es) (view c k) := by
    refine hrun.invariant (I := fun es p => ∃ k, p.1 = Live.endpoint c app.linked k ∧
        k.Connected c ∧ Accounted p.2 (posted es) (taken es) (view c k))
      ⟨_, rfl, Live.connected_initial c u, accounted_initial hout hlog u⟩ ?_
    intro es p ev q h hstep
    obtain ⟨k, hp, hk, hacc⟩ := h
    obtain ⟨hs, hage, htimely⟩ := hstep
    rw [hp] at hs htimely
    obtain ⟨k', hq, hk', hm⟩ := move_step net hc hout hlog hk hs
    rw [hq] at htimely
    refine ⟨k', hq, hk', ?_⟩
    rw [posted_append, taken_append, hage]
    exact hacc.move hm htimely
  subst hs
  exact ⟨h.accounted, h.of_free⟩

/-- An entry is posted, taken and released. -/
theorem posted_eq_reference :
    let c := Config.reference
    let entry : LogEntry := ⟨3, 2, 0x1234, 7, 9⟩
    let es : List Event := [.call (.post entry (.ok .successful))] ++
      [.call (.sync (.ok ())), .take (.ok (some entry)), .call (.sync (.ok ())),
        .call (.round (.ok ()))] ++ [.call (.async (.ok ()))]
    ∃ (e s : Endpoint (Link × Unit)) (n : Nat),
      (Endpoint.create c Surroundings.quiet.linked.hooks).eval (Link.fresh c, ()) =
        (.ok e, (Link.fresh c, ())) ∧
      Run (TimelyStep c Transport.quiet) (e, 0) es (s, n) ∧ posted es = [entry] ∧
      s.log.locked = false ∧
      posted es = taken es ++ (outstanding c s).toList ∧
      (s.log.locked = false → posted es = taken es) := by
  intro c entry es
  have hc : c.Accepted := Config.accepted_reference
  have hout : c.Consumed c.statusOut := by decide
  have hlog : c.Produced c.logBuffer := by decide
  obtain ⟨hlink, hopen⟩ := (Live.create_linked Surroundings.quiet (u := ())).mpr ⟨hc, rfl, rfl, rfl⟩
  obtain ⟨s2, s3, s4, hpost, hrun, -, hasync, hreleased⟩ := run_delivered hc hout hlog entry
  have hall : Run (Step c Transport.quiet) _ es s4 :=
    ((Run.one (.call (.post hpost))).trans hrun).next (.call (.async hasync))
  obtain ⟨n, -, htimely⟩ := run_timely hall (n := 0) (by decide)
  exact ⟨_, s4, n, hopen, htimely, rfl, hreleased, posted_eq hlink hopen hout hlog htimely⟩

end Logbook

end SlimInterface
