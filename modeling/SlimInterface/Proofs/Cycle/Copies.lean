import SlimInterface.Proofs.Cycle.Counters

/-!
# Timers and their copies

A timer is handed around as copies, and every copy can start, stop and advance the counter that all
of them share. Which copy did what makes no difference: what any of them shows is decided by the
calls to its timer since the last start (`TimerCall.Shows`).

* `TimerCall.shows_of_replay`: a counter that went through some calls shows what they call for. As
  it stops at its limit and no threshold lies above that, an expired timer stays expired.
* `Copies.Inv`: two copies hold the same counter if they go back to the same timer, and no call to
  another timer reaches it.
* `Copies.shows_of_run`: both together, for every copy of every timer.
-/

namespace SlimInterface

/-- What is done to a counter through a timer. -/
inductive TimerCall
  | start
  | stop
  | increment
  deriving DecidableEq, Repr

namespace TimerCall

variable {cs since : List TimerCall}

/-- What a call does to the counter. -/
def onCounter : TimerCall → Counter → Counter
  | start => Counter.start
  | stop => Counter.stop
  | increment => Counter.increment

/-- The call, made through a timer. -/
def onBank (t : Timer) : TimerCall → CounterBank → CounterBank
  | start => t.start
  | stop => t.stop
  | increment => t.increment

theorem onBank_eq (t : Timer) (c : TimerCall) (bank : CounterBank) :
    c.onBank t bank = bank.modify t.counter c.onCounter := by
  cases c <;> rfl

/-! ## What calls leave in a counter -/

/-- A new counter after the calls. -/
def replay (cs : List TimerCall) : Counter := cs.foldl (fun k c => c.onCounter k) .idle

theorem replay_append (cs : List TimerCall) (c : TimerCall) :
    replay (cs ++ [c]) = c.onCounter (replay cs) := by
  unfold replay
  rw [List.foldl_append]
  rfl

/-- These are the calls since the last start. -/
def SinceStart (cs since : List TimerCall) : Prop :=
  (∃ past, cs = past ++ .start :: since) ∧ .start ∉ since

theorem exists_sinceStart (h : .start ∈ cs) : ∃ since, SinceStart cs since := by
  induction cs with
  | nil => exact absurd h List.not_mem_nil
  | cons c cs ih =>
    by_cases hlater : .start ∈ cs
    · obtain ⟨since, ⟨past, rfl⟩, hsince⟩ := ih hlater
      exact ⟨since, ⟨c :: past, rfl⟩, hsince⟩
    · obtain rfl : .start = c := (List.mem_cons.mp h).resolve_right hlater
      exact ⟨cs, ⟨[], rfl⟩, hlater⟩

/-- Without a start nothing is counted. -/
theorem foldl_idle (h : .start ∉ cs) : cs.foldl (fun k c => c.onCounter k) .idle = .idle := by
  induction cs with
  | nil => rfl
  | cons c cs ih =>
    obtain ⟨hc, hcs⟩ := not_or.mp (mt List.mem_cons.mpr h)
    have hfirst : c.onCounter .idle = .idle := by
      cases c with
      | start => exact absurd rfl hc
      | stop | increment => rfl
    rw [List.foldl_cons, hfirst]
    exact ih hcs

/-- A counter that runs and is neither started again nor stopped counts, up to its limit. -/
theorem foldl_running (hstart : .start ∉ cs) (hstop : .stop ∉ cs) (m : Nat) :
    cs.foldl (fun k c => c.onCounter k) ⟨min m Counter.limit, true⟩ =
      ⟨min (m + cs.count .increment) Counter.limit, true⟩ := by
  induction cs generalizing m with
  | nil => rfl
  | cons c cs ih =>
    obtain ⟨hc, hcs⟩ := not_or.mp (mt List.mem_cons.mpr hstart)
    obtain ⟨hc', hcs'⟩ := not_or.mp (mt List.mem_cons.mpr hstop)
    have hcall : c = .increment := by
      cases c with
      | start => exact absurd rfl hc
      | stop => exact absurd rfl hc'
      | increment => rfl
    have hfirst : c.onCounter ⟨min m Counter.limit, true⟩ = ⟨min (m + 1) Counter.limit, true⟩ := by
      rw [hcall]
      exact Counter.increment_min m
    rw [List.foldl_cons, hfirst, ih hcs hcs', hcall, List.count_cons_self, Nat.add_assoc,
      Nat.add_comm 1]

/-- The counter does not run: it was never started, or it was stopped after the last start. -/
def Stopped (cs : List TimerCall) : Prop :=
  .start ∉ cs ∨ ∃ since, SinceStart cs since ∧ .stop ∈ since

theorem exists_of_not_stopped (h : ¬ Stopped cs) :
    ∃ since, SinceStart cs since ∧ .stop ∉ since := by
  obtain ⟨hstarted, hnever⟩ := not_or.mp h
  obtain ⟨since, hsince⟩ := exists_sinceStart (Decidable.not_not.mp hstarted)
  exact ⟨since, hsince, fun hstop => hnever ⟨since, hsince, hstop⟩⟩

/-- A counter that does not run is what it was in the beginning. -/
theorem replay_of_stopped (h : Stopped cs) : replay cs = .idle := by
  rcases h with hstart | ⟨since, ⟨⟨past, rfl⟩, hsince⟩, hstop⟩
  · exact foldl_idle hstart
  · obtain ⟨before, after, rfl⟩ := List.append_of_mem hstop
    have hafter : .start ∉ after := fun hs =>
      hsince (List.mem_append_right before (List.mem_cons_of_mem _ hs))
    unfold replay
    rw [List.foldl_append, List.foldl_cons, List.foldl_append, List.foldl_cons]
    exact foldl_idle hafter

theorem replay_of_running (h : SinceStart cs since) (hstop : .stop ∉ since) :
    replay cs = ⟨min (since.count .increment) Counter.limit, true⟩ := by
  obtain ⟨⟨past, rfl⟩, hsince⟩ := h
  have hcount := foldl_running hsince hstop 0
  rw [Nat.zero_add] at hcount
  unfold replay
  rw [List.foldl_append, List.foldl_cons]
  exact hcount

/-! ## What a timer shows -/

/-- A timer with this threshold shows what the calls to it ask for. It is stopped if it was never
started, or stopped since. Otherwise the increments since the last start count: as many as the
threshold are enough for ever, and the timer shows how many they were, up to 65535. -/
structure Shows (threshold : Nat) (cs : List TimerCall) (t : Timer) (bank : CounterBank) :
    Prop where
  stopped : t.state bank = .stopped ↔ Stopped cs
  elapsed_of_stopped : t.state bank = .stopped → t.elapsed bank = 0
  expired : ∀ since, SinceStart cs since → .stop ∉ since →
    (t.state bank = .expired ↔ threshold ≤ since.count .increment)
  elapsed : ∀ since, SinceStart cs since → .stop ∉ since →
    t.elapsed bank = min (since.count .increment) 65535

variable {t : Timer} {bank : CounterBank}

theorem shown_of_idle (h : bank[t.counter]? = some .idle) :
    t.state bank = .stopped ∧ t.elapsed bank = 0 := by
  have hread : t.read bank = .idle := by
    unfold Timer.read
    rw [h, Option.getD_some]
  unfold Timer.state Timer.elapsed
  rw [hread]
  exact ⟨rfl, rfl⟩

theorem shown_of_running {m : Nat} (h : bank[t.counter]? = some ⟨min m Counter.limit, true⟩) :
    t.state bank ≠ .stopped ∧ t.elapsed bank = min m Counter.limit := by
  have hread : t.read bank = ⟨min m Counter.limit, true⟩ := by
    unfold Timer.read
    rw [h, Option.getD_some]
  unfold Timer.state Timer.elapsed
  rw [hread, if_pos rfl]
  refine ⟨?_, rfl⟩
  split <;> exact TimerState.noConfusion

/-- A timer shows what its counter went through. -/
theorem shows_of_replay (ht : t.threshold ≤ Counter.limit)
    (h : bank[t.counter]? = some (replay cs)) : Shows t.threshold cs t bank := by
  have hidle : Stopped cs → t.state bank = .stopped ∧ t.elapsed bank = 0 := fun hcs =>
    shown_of_idle (h.trans (congrArg some (replay_of_stopped hcs)))
  have hrunning {since : List TimerCall} (hs : SinceStart cs since) (hstop : .stop ∉ since) :
      bank[t.counter]? = some ⟨min (since.count .increment) Counter.limit, true⟩ :=
    h.trans (congrArg some (replay_of_running hs hstop))
  have hstopped : t.state bank = .stopped → Stopped cs := by
    intro hstate
    apply Classical.byContradiction
    intro hcs
    obtain ⟨since, hs, hstop⟩ := exists_of_not_stopped hcs
    exact (shown_of_running (hrunning hs hstop)).1 hstate
  exact {
    stopped := ⟨hstopped, fun hcs => (hidle hcs).1⟩
    elapsed_of_stopped := fun hstate => (hidle (hstopped hstate)).2
    expired := fun _ hs hstop => Timer.expired_iff (hrunning hs hstop) ht
    elapsed := fun _ hs hstop => (shown_of_running (hrunning hs hstop)).2 }

end TimerCall

/-! ## Copies -/

/-- Timers in use, each copy for itself, and the bank that their counters are in. -/
structure Copies where
  bank : CounterBank
  timers : List Timer

namespace Copies

/-- What happens to timers. A copy is known by its place in the order in which they were made. -/
inductive Event
  | create (threshold : UInt16)
  | copy (i : Nat)
  | call (i : Nat) (c : TimerCall)

inductive Step (s : Copies) : Event → Copies → Prop
  | create (threshold : UInt16) :
      Step s (.create threshold)
        ⟨(Timer.create threshold.toNat s.bank).2,
          s.timers ++ [(Timer.create threshold.toNat s.bank).1]⟩
  | copy {i : Nat} {t : Timer} (h : s.timers[i]? = some t) :
      Step s (.copy i) { s with timers := s.timers ++ [t] }
  | call {i : Nat} {t : Timer} (h : s.timers[i]? = some t) (c : TimerCall) :
      Step s (.call i c) { s with bank := c.onBank t s.bank }

/-! ## Where a copy comes from -/

/-- The copy that was made as a new timer, and the threshold it was made with. -/
structure Origin where
  first : Nat
  threshold : UInt16

/-- The origins of all copies after one more event. -/
def Event.trace (os : List Origin) : Event → List Origin
  | .create threshold => os ++ [⟨os.length, threshold⟩]
  | .copy i => os ++ os[i]?.toList
  | .call _ _ => os

/-- The origins of the copies, in the order in which they were made. -/
def origins (es : List Event) : List Origin := es.foldl Event.trace []

/-- A call to the timer that was made as the copy at `first`. -/
def Event.call? (os : List Origin) (first : Nat) : Event → Option TimerCall
  | .call i c => if os[i]?.map Origin.first = some first then some c else none
  | _ => none

/-- The calls to a timer, through any of its copies. -/
def calls (es : List Event) (first : Nat) : List TimerCall :=
  es.filterMap (Event.call? (origins es) first)

variable {es : List Event} {e : Event} {s s' : Copies} {o : Origin} {first : Nat}

theorem origins_append (es : List Event) (e : Event) :
    origins (es ++ [e]) = e.trace (origins es) := by
  unfold origins
  rw [List.foldl_append]
  rfl

/-- An event adds origins, and takes none away. -/
theorem getElem?_trace (os : List Origin) (e : Event) {i : Nat} (hi : i < os.length) :
    (e.trace os)[i]? = os[i]? := by
  cases e with
  | create | copy => exact List.getElem?_append_left hi
  | call => rfl

/-- What holds of every run. -/
structure Inv (es : List Event) (s : Copies) : Prop where
  length : s.timers.length = (origins es).length
  /-- Calls were made through copies that exist. -/
  called : ∀ i c, .call i c ∈ es → i < (origins es).length
  first_lt : ∀ o ∈ origins es, o.first < (origins es).length
  holds : ∀ p ∈ s.timers.zip (origins es), p.1.threshold = p.2.threshold.toNat ∧
    s.bank[p.1.counter]? = some (TimerCall.replay (calls es p.2.first))
  /-- The counter is the same exactly if the timer is. -/
  shared : ∀ p ∈ s.timers.zip (origins es), ∀ q ∈ s.timers.zip (origins es),
    p.1.counter = q.1.counter ↔ p.2.first = q.2.first

theorem Inv.calls_append (h : Inv es s) (e : Event) (first : Nat) :
    calls (es ++ [e]) first =
      calls es first ++ (e.call? (e.trace (origins es)) first).toList := by
  have hold : es.filterMap (Event.call? (e.trace (origins es)) first) = calls es first := by
    apply List.filterMap_congr
    intro x hx
    cases x with
    | create | copy => rfl
    | call i c =>
      exact congrArg (fun o => if o.map Origin.first = some first then some c else none)
        (getElem?_trace _ e (h.called i c hx))
  unfold calls
  rw [origins_append, filterMap_append_one, hold]
  rfl

/-- A timer that does not exist yet was not called. -/
theorem Inv.calls_eq_nil (h : Inv es s) : calls es (origins es).length = [] := by
  unfold calls
  rw [List.filterMap_eq_nil_iff]
  intro x hx
  cases x with
  | create | copy => rfl
  | call i c =>
    apply if_neg
    intro hfirst
    obtain ⟨o, ho, hlen⟩ := Option.map_eq_some_iff.mp hfirst
    exact Nat.ne_of_lt (h.first_lt o (List.mem_of_getElem? ho)) hlen

theorem inv_initial (bank : CounterBank) : Inv [] ⟨bank, []⟩ :=
  ⟨rfl, fun _ _ h => absurd h List.not_mem_nil, fun _ h => absurd h List.not_mem_nil,
    fun _ h => absurd h List.not_mem_nil, fun _ h => absurd h List.not_mem_nil⟩

/-- A copy has its origin. -/
theorem Inv.exists_origin (h : Inv es s) {i : Nat} {t : Timer} (hi : s.timers[i]? = some t) :
    ∃ o, (origins es)[i]? = some o ∧ (t, o) ∈ s.timers.zip (origins es) := by
  obtain ⟨hlt, -⟩ := List.getElem?_eq_some_iff.mp hi
  rw [h.length] at hlt
  refine ⟨_, List.getElem?_eq_getElem hlt, List.mem_of_getElem? (i := i) ?_⟩
  rw [List.getElem?_zip_eq_some]
  exact ⟨hi, List.getElem?_eq_getElem hlt⟩

/-- The counters of the copies are in the bank. -/
theorem Inv.counter_lt (h : Inv es s) {p : Timer × Origin}
    (hp : p ∈ s.timers.zip (origins es)) : p.1.counter < s.bank.length :=
  (List.getElem?_eq_some_iff.mp (h.holds p hp).2).1

/-- With one more copy nothing that is known of the calls and of the other copies changes. -/
theorem Inv.grow (h : Inv es s) (he : ∀ i c, e ≠ .call i c)
    (horigins : origins (es ++ [e]) = origins es ++ [o])
    (ho : o.first < (origins es).length + 1) :
    (∀ i c, .call i c ∈ es ++ [e] → i < (origins (es ++ [e])).length) ∧
      ∀ x ∈ origins (es ++ [e]), x.first < (origins (es ++ [e])).length := by
  rw [horigins, List.length_append, List.length_singleton]
  constructor
  · intro i c hi
    rcases List.mem_append.mp hi with hi | hi
    · exact Nat.lt_add_right _ (h.called i c hi)
    · exact absurd (List.mem_singleton.mp hi).symm (he i c)
  · intro x hx
    rcases List.mem_append.mp hx with hx | hx
    · exact Nat.lt_add_right _ (h.first_lt x hx)
    · rw [List.mem_singleton.mp hx]
      exact ho

/-- A new timer has a counter that no other one has. -/
theorem Inv.create (h : Inv es s) (threshold : UInt16) :
    Inv (es ++ [.create threshold]) ⟨(Timer.create threshold.toNat s.bank).2,
      s.timers ++ [(Timer.create threshold.toNat s.bank).1]⟩ := by
  have horigins : origins (es ++ [.create threshold]) =
      origins es ++ [⟨(origins es).length, threshold⟩] := origins_append ..
  have hcalls (first : Nat) : calls (es ++ [.create threshold]) first = calls es first :=
    (h.calls_append _ first).trans (List.append_nil _)
  have hpairs : (s.timers ++ [(Timer.create threshold.toNat s.bank).1]).zip
      (origins (es ++ [.create threshold])) = s.timers.zip (origins es) ++
        [(⟨threshold.toNat, s.bank.length⟩, ⟨(origins es).length, threshold⟩)] := by
    rw [horigins, List.zip_append h.length]
    rfl
  have hfirst {p : Timer × Origin} (hp : p ∈ s.timers.zip (origins es)) :
      p.2.first < (origins es).length := h.first_lt _ (List.of_mem_zip hp).2
  obtain ⟨hcalled, hfirst_lt⟩ := h.grow (fun _ _ => Event.noConfusion) horigins (Nat.lt_add_one _)
  refine ⟨?_, hcalled, hfirst_lt, ?_, ?_⟩
  · rw [horigins, List.length_append, List.length_append, h.length]
    rfl
  · rw [hpairs]
    intro p hp
    rw [hcalls]
    show _ ∧ (s.bank ++ [Counter.idle])[p.1.counter]? = _
    rcases List.mem_append.mp hp with hp | hp
    · rw [List.getElem?_append_left (h.counter_lt hp)]
      exact h.holds p hp
    · rw [List.mem_singleton.mp hp]
      dsimp only
      rw [h.calls_eq_nil, List.getElem?_concat_length]
      exact ⟨rfl, rfl⟩
  · rw [hpairs]
    intro p hp q hq
    rcases List.mem_append.mp hp with hp | hp <;> rcases List.mem_append.mp hq with hq | hq
    · exact h.shared p hp q hq
    · rw [List.mem_singleton.mp hq]
      exact iff_of_false (Nat.ne_of_lt (h.counter_lt hp)) (Nat.ne_of_lt (hfirst hp))
    · rw [List.mem_singleton.mp hp]
      exact iff_of_false (Nat.ne_of_gt (h.counter_lt hq)) (Nat.ne_of_gt (hfirst hq))
    · rw [List.mem_singleton.mp hp, List.mem_singleton.mp hq]
      exact iff_of_true rfl rfl

/-- One more copy of a timer. -/
theorem Inv.copy (h : Inv es s) {i : Nat} {t : Timer} (hi : s.timers[i]? = some t) :
    Inv (es ++ [.copy i]) { s with timers := s.timers ++ [t] } := by
  obtain ⟨o, ho, hmem⟩ := h.exists_origin hi
  have horigins : origins (es ++ [.copy i]) = origins es ++ [o] := by
    rw [origins_append, Event.trace, ho]
    rfl
  have hcalls (first : Nat) : calls (es ++ [.copy i]) first = calls es first :=
    (h.calls_append _ first).trans (List.append_nil _)
  -- it is the copy of one that was there
  have hpairs : ∀ p ∈ (s.timers ++ [t]).zip (origins (es ++ [.copy i])),
      p ∈ s.timers.zip (origins es) := by
    intro p hp
    rw [horigins, List.zip_append h.length] at hp
    rcases List.mem_append.mp hp with hp | hp
    · exact hp
    · rw [List.mem_singleton.mp hp]
      exact hmem
  obtain ⟨hcalled, hfirst_lt⟩ := h.grow (fun _ _ => Event.noConfusion) horigins
    (Nat.lt_add_right _ (h.first_lt o (List.mem_of_getElem? ho)))
  refine ⟨?_, hcalled, hfirst_lt, ?_, ?_⟩
  · rw [horigins, List.length_append, List.length_append, h.length]
    rfl
  · intro p hp
    rw [hcalls]
    exact h.holds p (hpairs p hp)
  · intro p hp q hq
    exact h.shared p (hpairs p hp) q (hpairs q hq)

/-- A call through one copy reaches all copies of its timer, and no other. -/
theorem Inv.call (h : Inv es s) {i : Nat} {t : Timer} (hi : s.timers[i]? = some t)
    (c : TimerCall) : Inv (es ++ [.call i c]) { s with bank := c.onBank t s.bank } := by
  obtain ⟨o, ho, hmem⟩ := h.exists_origin hi
  have horigins : origins (es ++ [.call i c]) = origins es := origins_append ..
  have hcalls (first : Nat) : calls (es ++ [.call i c]) first =
      calls es first ++ (if some o.first = some first then some c else none).toList := by
    rw [h.calls_append]
    unfold Event.call? Event.trace
    dsimp only
    rw [ho]
    rfl
  constructor
  · rw [horigins]
    exact h.length
  · intro j d hj
    rw [horigins]
    rcases List.mem_append.mp hj with hj | hj
    · exact h.called j d hj
    · obtain ⟨rfl, -⟩ := Event.call.inj (List.mem_singleton.mp hj)
      exact (List.getElem?_eq_some_iff.mp ho).1
  · rw [horigins]
    exact h.first_lt
  · rw [horigins]
    intro p hp
    obtain ⟨hthreshold, hcounter⟩ := h.holds p hp
    refine ⟨hthreshold, ?_⟩
    rw [hcalls, TimerCall.onBank_eq, List.getElem?_modify, hcounter, Option.map_eq_map,
      Option.map_some]
    by_cases hsame : t.counter = p.1.counter
    · have hfirst : o.first = p.2.first := (h.shared _ hmem p hp).mp hsame
      rw [if_pos hsame, if_pos (congrArg some hfirst)]
      exact congrArg some (TimerCall.replay_append _ c).symm
    · have hfirst : o.first ≠ p.2.first := mt (h.shared _ hmem p hp).mpr hsame
      rw [if_neg hsame, if_neg (mt Option.some.inj hfirst), Option.toList_none, List.append_nil]
  · rw [horigins]
    exact h.shared

theorem Inv.step (h : Inv es s) (hs : Step s e s') : Inv (es ++ [e]) s' := by
  cases hs with
  | create threshold => exact h.create threshold
  | copy hi => exact h.copy hi
  | call hi c => exact h.call hi c

/-- **Timers are exact, and all their copies agree.** However many timers there are, and through
whichever copies they are started, stopped and advanced, each copy has the threshold its timer was
made with and shows what was done to that timer. -/
theorem shows_of_run {bank : CounterBank} (h : Run Step ⟨bank, []⟩ es s) :
    s.timers.length = (origins es).length ∧
    ∀ (i : Nat) (t : Timer), s.timers[i]? = some t → ∃ o : Origin, (origins es)[i]? = some o ∧
      t.threshold = o.threshold.toNat ∧
      TimerCall.Shows o.threshold.toNat (calls es o.first) t s.bank := by
  have hinv : Inv es s := h.invariant (inv_initial bank) fun hI hs => hI.step hs
  refine ⟨hinv.length, fun i t hi => ?_⟩
  obtain ⟨o, ho, hmem⟩ := hinv.exists_origin hi
  obtain ⟨hthreshold, hcounter⟩ := hinv.holds _ hmem
  have hle : t.threshold ≤ Counter.limit := by
    rw [hthreshold]
    exact Nat.le_of_lt_succ o.threshold.toNat_lt
  refine ⟨o, ho, hthreshold, ?_⟩
  rw [← hthreshold]
  exact TimerCall.shows_of_replay hle hcounter

/-- The first timer is started through its second copy and advanced through the first and the third
one, which was made while it ran. The timer made in between is started and stopped. -/
theorem shows_of_run_three_copies :
    let es : List Event := [.create 2, .copy 0, .create 0, .call 1 .start, .call 0 .increment,
      .copy 1, .call 2 .start, .call 3 .increment, .call 2 .stop]
    calls es 0 = [.start, .increment, .increment] ∧ calls es 2 = [.start, .stop] ∧
    ∃ s t u, Run Step ⟨[], []⟩ es s ∧ s.timers[0]? = some t ∧ s.timers[2]? = some u ∧
      t.state s.bank = .expired ∧ t.elapsed s.bank = 2 ∧ u.state s.bank = .stopped := by
  intro es
  have hsteps : Run Step ⟨[], []⟩ es _ :=
    ((((((((Run.one (.create 2)).next (.copy rfl)).next (.create 0)).next
      (.call rfl .start)).next (.call rfl .increment)).next (.copy rfl)).next
      (.call rfl .start)).next (.call rfl .increment)).next (.call rfl .stop)
  have hrun : Run Step ⟨[], []⟩ es
    ⟨[⟨2, true⟩, ⟨0, false⟩], [⟨2, 0⟩, ⟨2, 0⟩, ⟨0, 1⟩, ⟨2, 0⟩]⟩ := hsteps
  have hcalls : calls es 0 = [.start, .increment, .increment] := by decide
  have hcalls' : calls es 2 = [.start, .stop] := by decide
  obtain ⟨-, hshows⟩ := shows_of_run hrun
  obtain ⟨o, ho, -, ht⟩ := hshows 0 _ rfl
  obtain ⟨p, hp, -, hu⟩ := hshows 2 _ rfl
  obtain rfl : (⟨0, 2⟩ : Origin) = o := Option.some.inj ho
  obtain rfl : (⟨2, 0⟩ : Origin) = p := Option.some.inj hp
  dsimp only at ht hu
  rw [hcalls] at ht
  rw [hcalls'] at hu
  have hsince : TimerCall.SinceStart [.start, .increment, .increment] [.increment, .increment] :=
    ⟨⟨[], rfl⟩, by decide⟩
  refine ⟨hcalls, hcalls', _, _, _, hrun, rfl, rfl, ?_, ?_, ?_⟩
  · exact (ht.expired _ hsince (by decide)).mpr (by decide)
  · exact ht.elapsed _ hsince (by decide)
  · exact hu.stopped.mpr (.inr ⟨[.stop], ⟨⟨[], rfl⟩, by decide⟩, by decide⟩)

end Copies

end SlimInterface
