import SlimInterface.Proofs.Logbook.Delivery

/-!
# Entries arrive at most once and in order

An entry may be given up, taken late or not at all, and a register may show the number of an
entry that nobody took: once the timer has expired, the numbers of the two sides no longer say
who has seen what. `taken_sublist_posted` holds all the same. What the remote side took is a
subsequence of what was posted.

The reason is that an entry moves in one direction only. `Passed` splits the posted entries into
those that have reached the remote copy of the buffer and those that have not. The remote side
takes the last that has reached it, and shows its number from then on, so it takes nothing more
until a later entry has come.
-/

namespace SlimInterface

variable {υ : Type}

namespace Logbook

/-! ## What was posted and what was taken -/

/-- An entry the channel accepted. -/
def Event.posted? : Event → Option LogEntry
  | .call (.post e (.ok .successful)) => some e
  | _ => none

/-- An entry the remote side took. -/
def Event.taken? : Event → Option LogEntry
  | .take (.ok (some e)) => some e
  | _ => none

/-- The entries the channel accepted, oldest first. -/
def posted (es : List Event) : List LogEntry := es.filterMap Event.posted?

/-- The entries the remote side took, oldest first. -/
def taken (es : List Event) : List LogEntry := es.filterMap Event.taken?

theorem posted_append (es : List Event) (e : Event) :
    posted (es ++ [e]) = posted es ++ e.posted?.toList :=
  filterMap_append_one _ es e

theorem taken_append (es : List Event) (e : Event) :
    taken (es ++ [e]) = taken es ++ e.taken?.toList :=
  filterMap_append_one _ es e

theorem Event.posted?_eq_none {e : Event} (h : ∀ x, e ≠ .call (.post x (.ok .successful))) :
    e.posted? = none := by
  unfold Event.posted?
  split
  next x => exact absurd rfl (h x)
  next => rfl

theorem Event.taken?_eq_none {e : Event} (h : ∀ x, e ≠ .take (.ok (some x))) :
    e.taken? = none := by
  unfold Event.taken?
  split
  next x => exact absurd rfl (h x)
  next => rfl

/-! ## Entries on their way -/

/-- The last of the entries is the one a buffer holds. -/
def EndsIn (es : List LogEntry) (b : Bytes) : Prop :=
  ∃ front e, es = front ++ [e] ∧ LogEntry.read b = .ok e

/-- The posted entries `old` have reached the remote copy of the buffer, the later ones `new`
have not, and the remote side took `ts`. -/
structure Passed (old new ts : List LogEntry) (v : View) : Prop where
  taken : ts.Sublist old
  /-- What the remote side could take now is an entry it has not taken. -/
  sent : v.sent.flagAt LogEntry.seqOffset ≠ v.shown →
    ∃ front e, old = front ++ [e] ∧ LogEntry.read v.sent = .ok e ∧ ts.Sublist front
  /-- The buffer holds the last entry, which may have been sent already. -/
  staged : new = [] ∧ v.staged = v.sent ∨ EndsIn new v.staged

variable {old new ts : List LogEntry} {v v' : View} {ev : Event}

/-- A transfer brings the last entry to the remote side, past all that were given up. -/
theorem Passed.exchange (h : Passed old new ts v) :
    Passed (old ++ new) [] ts { v with sent := v.staged, received := v.shown } := by
  obtain ⟨htaken, hsent, hstaged⟩ := h
  refine ⟨htaken.trans (List.sublist_append_left old new), ?_, .inl ⟨rfl, rfl⟩⟩
  intro hne
  rcases hstaged with ⟨rfl, hsame⟩ | ⟨front, e, rfl, hread⟩
  -- it has come before
  · rw [List.append_nil]
    dsimp only at hne ⊢
    rw [hsame] at hne ⊢
    exact hsent hne
  · exact ⟨old ++ front, e, (List.append_assoc old front [e]).symm, hread,
      htaken.trans (List.sublist_append_left old front)⟩

/-- The remote side takes the last entry that has reached it. -/
theorem Passed.take {e : LogEntry} (h : Passed old new ts v)
    (hne : v.sent.flagAt LogEntry.seqOffset ≠ v.shown) (hr : LogEntry.read v.sent = .ok e) :
    Passed old new (ts ++ [e]) { v with shown := v.sent.flagAt LogEntry.seqOffset } := by
  obtain ⟨-, hsent, hstaged⟩ := h
  obtain ⟨front, e', rfl, hread, hfront⟩ := hsent hne
  obtain rfl : e' = e := Except.ok.inj (hread.symm.trans hr)
  -- from now on the remote side shows the number of what it can see
  exact ⟨hfront.append_right [e'], fun hn => absurd rfl hn, hstaged⟩

/-- Every move keeps the order, also one that gives an entry up. -/
theorem Passed.move (h : Passed old new ts v) (hm : Move v ev v') :
    ∃ old' new', old' ++ new' = old ++ new ++ ev.posted?.toList ∧
      Passed old' new' (ts ++ ev.taken?.toList) v' := by
  -- only three moves touch the buffers or the acknowledge
  have hkeep (hp : ev.posted? = none) (ht : ev.taken? = none) (hstaged : v'.staged = v.staged)
      (hsent : v'.sent = v.sent) (hshown : v'.shown = v.shown) :
      ∃ old' new', old' ++ new' = old ++ new ++ ev.posted?.toList ∧
        Passed old' new' (ts ++ ev.taken?.toList) v' := by
    refine ⟨old, new, by simp [hp], ?_⟩
    rw [ht, Option.toList_none, List.append_nil]
    exact ⟨h.taken, by rw [hsent, hshown]; exact h.sent, by rw [hstaged, hsent]; exact h.staged⟩
  cases hm with
  | @post e b hl hb hr =>
    refine ⟨old, new ++ [e], (List.append_assoc old new [e]).symm, ?_⟩
    show Passed old (new ++ [e]) (ts ++ []) _
    rw [List.append_nil]
    exact ⟨h.taken, h.sent, .inr ⟨new, e, rfl, hr⟩⟩
  | exchange =>
    refine ⟨old ++ new, [], rfl, ?_⟩
    show Passed (old ++ new) [] (ts ++ []) _
    rw [List.append_nil]
    exact h.exchange
  | @take e hne hr => exact ⟨old, new, (List.append_nil _).symm, h.take hne hr⟩
  | round => exact hkeep rfl rfl rfl rfl rfl
  | acknowledge => exact hkeep rfl rfl rfl rfl rfl
  | giveUp => exact hkeep rfl rfl rfl rfl rfl
  | stay hp _ ht =>
    exact hkeep (Event.posted?_eq_none hp) (Event.taken?_eq_none ht) rfl rfl rfl

variable {c : Config} {app : Surroundings υ} {net : Transport υ} {k : Live (Link × υ)}

theorem passed_initial (hout : c.Consumed c.statusOut) (hlog : c.Produced c.logBuffer) (u : υ) :
    Passed [] [] [] (view c (Live.initial c (Link.fresh c, u))) := by
  have hsize : ((Link.fresh c).sent c c.logBuffer) = List.replicate (c.sizeOf c.logBuffer) 0 :=
    Link.sent_fresh hlog
  have hshown : shown c (Link.fresh c) = .first := by
    unfold shown
    rw [Link.consumed_fresh hout, Bytes.flagAt_replicate]
  refine ⟨List.Sublist.refl [], ?_, .inl ⟨rfl, ?_⟩⟩
  · -- nothing was ever sent, and nothing acknowledged
    intro hne
    refine absurd ?_ hne
    show ((Link.fresh c).sent c c.logBuffer).flagAt LogEntry.seqOffset = shown c (Link.fresh c)
    rw [hsize, hshown, Bytes.flagAt_replicate]
  · show (Live.initial c (Link.fresh c, u)).buffer c c.logBuffer = (Link.fresh c).sent c c.logBuffer
    rw [hsize, Live.buffer_initial]

/-- The remote side takes entries at most once and in the order in which they were posted,
whatever was given up in between. -/
theorem taken_sublist_posted {u : υ} {l : Link} {e s : Endpoint (Link × υ)} {w : Link × υ}
    {es : List Event} (hlink : (Link.create c : Op Unit Link).eval () = (.ok l, ()))
    (hopen : (Endpoint.create c app.linked.hooks).eval (l, u) = (.ok e, w))
    (hout : c.Consumed c.statusOut) (hlog : c.Produced c.logBuffer)
    (hrun : Run (Step c net) e es s) : (taken es).Sublist (posted es) := by
  obtain ⟨hc, rfl, rfl, rfl⟩ := (Live.create_linked app).mp ⟨hlink, hopen⟩
  obtain ⟨k, -, -, old, new, hposted, hpassed⟩ : ∃ k, s = k.endpoint c app.linked ∧
      k.Connected c ∧ ∃ old new, old ++ new = posted es ∧ Passed old new (taken es) (view c k) := by
    refine hrun.invariant (I := fun es s => ∃ k, s = Live.endpoint c app.linked k ∧
        k.Connected c ∧ ∃ old new, old ++ new = posted es ∧ Passed old new (taken es) (view c k))
      ⟨_, rfl, Live.connected_initial c u, [], [], rfl, passed_initial hout hlog u⟩ ?_
    intro es _ ev t h hs
    obtain ⟨k, rfl, hk, old, new, hposted, hpassed⟩ := h
    obtain ⟨k', rfl, hk', hm⟩ := move_step net hc hout hlog hk hs
    obtain ⟨old', new', hposted', hpassed'⟩ := hpassed.move hm
    refine ⟨k', rfl, hk', old', new', ?_, ?_⟩
    · rw [hposted', hposted, posted_append]
    · rw [taken_append]
      exact hpassed'
  rw [← hposted]
  exact hpassed.taken.trans (List.sublist_append_left old new)

/-- An entry that was sent and then given up can still be taken. -/
theorem run_takenLate (app : Surroundings υ) (net : Transport υ) (hc : c.Accepted)
    (hout : c.Consumed c.statusOut) (hlog : c.Produced c.logBuffer) (h : k.Connected c)
    (hl : k.logLocked = true) (ht : k.logTimer = ⟨0, true⟩)
    (hk : (view c k).kept = (view c k).received) (hne : (view c k).kept ≠ k.logSeq)
    {e : LogEntry} (hnew : (view c k).sent.flagAt LogEntry.seqOffset ≠ (view c k).shown)
    (hr : LogEntry.read (view c k).sent = .ok e) :
    ∃ k' : Live (Link × υ), Run (Step c net) (k.endpoint c app.linked)
        (List.replicate logTimeoutCycles (.call (.round (.ok ()))) ++ [.call (.async (.ok ()))] ++
          [.take (.ok (some e))]) (k'.endpoint c app.linked) ∧
      k'.Connected c ∧ k'.logLocked = false := by
  obtain ⟨k1, hrun, h1, hv1⟩ := run_expired app net hc h hl ht hk hne
  have hsent : (view c k1).sent = (view c k).sent := by rw [hv1]
  have hshown : (view c k1).shown = (view c k).shown := by rw [hv1]
  obtain ⟨hstep, h2⟩ := take_step app net hc hout hlog h1 (e := e)
    (by rw [hsent, hshown]; exact hnew) (by rw [hsent]; exact hr)
  exact ⟨_, hrun.next hstep, h2, congrArg View.locked hv1⟩

/-- The first of two entries is sent, given up, and taken all the same; the second one is posted
after that. -/
theorem taken_sublist_posted_reference :
    let c := Config.reference
    let first : LogEntry := ⟨3, 2, 0x1234, 7, 9⟩
    let second : LogEntry := ⟨1, 0, 0x4321, 8, 0⟩
    let es : List Event := [.call (.post first (.ok .successful)), .call (.sync (.ok ()))] ++
      (List.replicate logTimeoutCycles (.call (.round (.ok ()))) ++ [.call (.async (.ok ()))] ++
        [.take (.ok (some first))]) ++ [.call (.post second (.ok .successful))]
    ∃ e s : Endpoint (Link × Unit),
      (Endpoint.create c Surroundings.quiet.linked.hooks).eval (Link.fresh c, ()) =
        (.ok e, (Link.fresh c, ())) ∧
      Run (Step c Transport.quiet) e es s ∧ posted es = [first, second] ∧ taken es = [first] ∧
      (taken es).Sublist (posted es) := by
  intro c first second es
  have hc : c.Accepted := Config.accepted_reference
  have hout : c.Consumed c.statusOut := by decide
  have hlog : c.Produced c.logBuffer := by decide
  obtain ⟨hlink, hopen⟩ := (Live.create_linked Surroundings.quiet (u := ())).mpr ⟨hc, rfl, rfl, rfl⟩
  let k0 : Live (Link × Unit) := Live.initial c (Link.fresh c, ())
  let k1 := k0.entered c first
  let k2 := k1.exchanged c ()
  have h0 : k0.Connected c := Live.connected_initial c ()
  have h1 : k1.Connected c := h0.entryStep (.posted rfl)
  have h2 : k2.Connected c := Live.connected_exchanged h1
  have hlen := Live.length_logBuffer hc h0.toSound
  have hv1 := view_entered hc h0.toSound first
  have hv2 := view_exchanged hc hout hlog h1 ()
  have hsent : (view c k2).sent = LogEntry.imprint k0.logSeq first (k0.buffer c c.logBuffer) := by
    rw [hv2, hv1]
  have hfresh : shown c (Link.fresh c) = .first := by
    unfold shown
    rw [Link.consumed_fresh hout, Bytes.flagAt_replicate]
  have hshown : (view c k2).shown = .first := by
    rw [hv2, hv1]
    exact hfresh
  have hreceived : (view c k2).received = .first := by
    rw [hv2, hv1]
    exact hfresh
  have hkept : (view c k2).kept = .first := by
    rw [hv2, hv1]
    exact kept_initial c _
  have hnew : (view c k2).sent.flagAt LogEntry.seqOffset ≠ (view c k2).shown := by
    rw [hsent, hshown, LogEntry.flagAt_imprint hlen]
    exact show SeqNr.second ≠ .first by decide
  obtain ⟨k3, hlate, h3, hfree⟩ := run_takenLate Surroundings.quiet Transport.quiet hc hout hlog h2
    rfl rfl (hkept.trans hreceived.symm) (by rw [hkept]; exact show SeqNr.first ≠ .second by decide)
    hnew (by rw [hsent, LogEntry.read_imprint hlen])
  have hfirst := Live.eval_postLogEntry_of_free Surroundings.quiet.linked hc h0.toSound rfl first
  have hsync := Live.eval_processSync_linked Surroundings.quiet hc h1
    (Op.eval_pure () ()) (Op.eval_pure () ())
  have hsecond :=
    Live.eval_postLogEntry_of_free Surroundings.quiet.linked hc h3.toSound hfree second
  have hrun : Run (Step c Transport.quiet) (k0.endpoint c Surroundings.quiet.linked) es _ :=
    (((Run.one (.call (.post hfirst))).next (.call (.sync hsync))).trans hlate).next
      (.call (.post hsecond))
  exact ⟨_, _, hopen, hrun, rfl, rfl, taken_sublist_posted hlink hopen hout hlog hrun⟩

end Logbook

end SlimInterface
