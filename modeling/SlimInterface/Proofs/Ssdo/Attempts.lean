import SlimInterface.Proofs.Ssdo.Handover

/-!
# The attempts of sending a frame

A frame that was captured is sent in attempts. An attempt is one send of the payload. It fails at
once when the network refuses the payload; otherwise the network is asked how far it is, until it
has finished, or gives up because it cannot resolve the destination. Then the channel rests for
`retryCycles` rounds of the stream, and the next attempt begins. `Course` says which calls these
are.

Which call is next can be read off the calls that were made for the frame, the rounds since the last
of them and the steps since those were enough. `Record` keeps these, and `Record.due` says which
call it is. `Phase` says what the record is in each state of the transmitting side, and one lemma
for each thing a step can do carries it on.
-/

namespace SlimInterface

namespace NetCall

/-- The payload is handed to the network. -/
def isSend : NetCall → Bool
  | send _ _ _ => true
  | poll _ _ => false

/-- The network does not take the payload. -/
def isRefusal : NetCall → Bool
  | send _ _ accepted => !accepted
  | poll _ _ => false

/-- The network gives up. -/
def isUnresolved : NetCall → Bool
  | send _ _ _ => false
  | poll _ progress => progress = .arpFailed

end NetCall

namespace Sending

/-! ## Attempts -/

/-- An attempt that failed. -/
inductive Attempt
  | refused
  /-- The network was asked `polls` times before it gave up. -/
  | unresolved (polls : Nat)

/-- The calls for a payload the network has taken and says nothing else about. -/
def taken (id : UInt8) (p : Bytes) (polls : Nat) : List NetCall :=
  .send id p true :: List.replicate polls (.poll id .pending)

/-- The calls for a payload the network has taken and finished. -/
def settled (id : UInt8) (p : Bytes) (polls : Nat) : List NetCall :=
  taken id p polls ++ [.poll id .finished]

def Attempt.calls (id : UInt8) (p : Bytes) : Attempt → List NetCall
  | refused => [.send id p false]
  | unresolved polls => taken id p polls ++ [.poll id .arpFailed]

/-- The calls of some attempts. -/
def attempts (id : UInt8) (p : Bytes) (failed : List Attempt) : List NetCall :=
  failed.flatMap (Attempt.calls id p)

/-- The calls for a payload: attempts that failed, and then at most one that has not. -/
inductive Course (id : UInt8) (p : Bytes) : List NetCall → Prop
  | failed (failed : List Attempt) : Course id p (attempts id p failed)
  | taken (failed : List Attempt) (polls : Nat) :
      Course id p (attempts id p failed ++ taken id p polls)
  | settled (failed : List Attempt) (polls : Nat) :
      Course id p (attempts id p failed ++ settled id p polls)

variable {id : UInt8} {p : Bytes} {failed : List Attempt} {polls : Nat} {calls : List NetCall}

theorem attempts_append_one (failed : List Attempt) (a : Attempt) :
    attempts id p (failed ++ [a]) = attempts id p failed ++ a.calls id p := by
  unfold attempts
  rw [List.flatMap_append, List.flatMap_singleton]

theorem taken_succ (id : UInt8) (p : Bytes) (polls : Nat) :
    taken id p (polls + 1) = taken id p polls ++ [.poll id .pending] := by
  unfold taken
  rw [List.replicate_succ', List.cons_append]

/-- Every attempt that failed has one send, and one refusal or one failure to resolve. -/
theorem countP_attempts (failed : List Attempt) :
    (attempts id p failed).countP NetCall.isSend =
      (attempts id p failed).countP NetCall.isRefusal +
        (attempts id p failed).countP NetCall.isUnresolved := by
  induction failed with
  | nil => rfl
  | cons a rest ih =>
    have hone : (a.calls id p).countP NetCall.isSend =
        (a.calls id p).countP NetCall.isRefusal + (a.calls id p).countP NetCall.isUnresolved := by
      cases a with
      | refused => rfl
      | unresolved polls =>
        simp [Attempt.calls, taken, List.countP_cons, List.countP_replicate, NetCall.isSend,
          NetCall.isRefusal, NetCall.isUnresolved]
    unfold attempts at ih ⊢
    rw [List.flatMap_cons, List.countP_append, List.countP_append, List.countP_append, ih, hone]
    omega

/-- A frame that is finished was sent once more than its attempts failed. -/
theorem countP_settled (failed : List Attempt) (polls : Nat) :
    (attempts id p failed ++ settled id p polls).countP NetCall.isSend =
      1 + (attempts id p failed ++ settled id p polls).countP NetCall.isRefusal +
        (attempts id p failed ++ settled id p polls).countP NetCall.isUnresolved := by
  have hlast : (settled id p polls).countP NetCall.isSend = 1 ∧
      (settled id p polls).countP NetCall.isRefusal = 0 ∧
        (settled id p polls).countP NetCall.isUnresolved = 0 := by
    simp [settled, taken, List.countP_cons, List.countP_replicate, NetCall.isSend,
      NetCall.isRefusal, NetCall.isUnresolved]
  obtain ⟨hsend, hrefusal, hunresolved⟩ := hlast
  rw [List.countP_append, List.countP_append, List.countP_append, countP_attempts, hsend, hrefusal,
    hunresolved]
  omega

/-- Before each question the network took the payload. -/
def Asked (id : UInt8) (p : Bytes) (calls : List NetCall) : Prop :=
  ∀ front i progress back, calls = front ++ .poll i progress :: back → .send id p true ∈ front

theorem Asked.append {calls' : List NetCall} (h : Asked id p calls) (h' : Asked id p calls') :
    Asked id p (calls ++ calls') := by
  intro front i progress back he
  rcases List.append_eq_append_iff.mp he with ⟨mid, rfl, hmid⟩ | ⟨mid, hfront, hmid⟩
  · exact List.mem_append_right _ (h' mid i progress back hmid)
  · cases mid with
    | nil =>
      exact absurd (h' [] i progress back hmid.symm) List.not_mem_nil
    | cons x rest =>
      obtain ⟨rfl, rfl⟩ := List.cons.inj hmid
      exact h front i progress rest hfront

theorem Asked.of_taken (calls : List NetCall) : Asked id p (.send id p true :: calls) := by
  intro front i progress back he
  cases front with
  | nil => cases he
  | cons x rest =>
    obtain ⟨rfl, -⟩ := List.cons.inj he
    exact List.mem_cons_self

theorem Asked.attempts (failed : List Attempt) : Asked id p (attempts id p failed) := by
  induction failed with
  | nil =>
    intro front i progress back he
    exact absurd he (by simp [Sending.attempts])
  | cons a rest ih =>
    refine Asked.append ?_ ih
    cases a with
    | refused =>
      intro front i progress back he
      cases front with
      | nil => cases he
      | cons x rest => exact absurd (List.cons.inj he).2 (by simp)
    | unresolved polls => exact Asked.of_taken _

theorem Course.asked (h : Course id p calls) : Asked id p calls := by
  cases h with
  | failed failed => exact .attempts failed
  | taken failed polls => exact (Asked.attempts failed).append (.of_taken _)
  | settled failed polls => exact (Asked.attempts failed).append (.of_taken _)

/-! ## Steps -/

/-- What can be seen of a step of the transmitting side. -/
structure Call where
  /-- The frame in the buffer. -/
  shown : Option Frame
  before : TransmitState
  after : TransmitState
  /-- The calls of the network. -/
  calls : List NetCall

/-- The step takes a frame from the buffer. -/
def Call.Captures (c : Call) : Prop := c.before = .waitForFrame ∧ c.after = .processFrame

/-- The step acknowledges the frame. -/
def Call.Acknowledges (c : Call) : Prop := c.before = .txFinished ∧ c.after = .waitForFrame

instance (c : Call) : Decidable c.Captures := inferInstanceAs (Decidable (_ ∧ _))

instance (c : Call) : Decidable c.Acknowledges := inferInstanceAs (Decidable (_ ∧ _))

/-- What became of the frame that was captured last. -/
structure Record where
  /-- The frame, until it is acknowledged. -/
  frame : Option Frame
  /-- The calls of the network for it. -/
  calls : List NetCall
  /-- The rounds since the latest of these calls. -/
  rounds : Nat
  /-- The steps since these rounds were enough for a pause. -/
  steps : Nat

def Record.clear : Record := ⟨none, [], 0, 0⟩

/-- The record after another step. -/
def Record.call (r : Record) (c : Call) : Record :=
  if c.Captures then { clear with frame := c.shown }
  else if c.Acknowledges then clear
  else if c.calls ≠ [] then { r with calls := r.calls ++ c.calls, rounds := 0, steps := 0 }
  else if retryCycles ≤ r.rounds then { r with steps := r.steps + 1 }
  else r

/-- What a step calls the network for. -/
inductive Due
  | nothing
  | send (p : Bytes)
  | poll

/-- What is due for a payload after a call. -/
def dueAfter (p : Bytes) (rested : Bool) : Option NetCall → Due
  | none => .send p
  | some (.send _ _ accepted) => if accepted then .poll else .send p
  | some (.poll _ .pending) => .poll
  | some (.poll _ .finished) => .nothing
  | some (.poll _ .arpFailed) => if rested then .send p else .nothing

/-- The rounds since the latest call were enough, and a step has seen it. -/
def Record.rested (r : Record) : Bool := retryCycles ≤ r.rounds ∧ 0 < r.steps

/-- What the next step calls the network for. -/
def Record.due (r : Record) : Due :=
  match r.frame with
  | none => .nothing
  | some f => dueAfter f.payload r.rested r.calls.getLast?

/-- The calls of a step are those that were due. -/
def Due.Met (id : UInt8) (calls : List NetCall) : Due → Prop
  | nothing => calls = []
  | send p => ∃ accepted, calls = [.send id p accepted]
  | poll => ∃ progress, calls = [.poll id progress]

/-! ## The record in each state -/

variable {r : Record} {c : Call} {f : Frame} {x y : Option Counter}

/-- The record is that of the captured frame, with these calls. -/
structure Record.Shows (r : Record) (p : Bytes) (f : Frame) (calls : List NetCall) : Prop where
  frame : r.frame = some f
  payload : p = f.payload
  calls : r.calls = calls

/-- What the record is in a state of the transmitting side, whose payload is `p` and whose timer has
the counter `x`. -/
def Phase (id : UInt8) (r : Record) (p : Bytes) (x : Option Counter) : TransmitState → Prop
  | .waitForFrame => r.frame = none ∧ r.calls = []
  | .processFrame => ∃ f failed, r.Shows p f (attempts id p failed) ∧ r.due = .send p
  | .waitForTxFinished => ∃ f failed polls, r.Shows p f (attempts id p failed ++ taken id p polls)
  | .waitForNextArpRetry => ∃ f failed polls,
      r.Shows p f (attempts id p (failed ++ [.unresolved polls])) ∧ r.steps = 0 ∧
        x = some ⟨min r.rounds Counter.limit, true⟩
  | .txFinished => ∃ f failed polls, r.Shows p f (attempts id p failed ++ settled id p polls)

theorem Record.Shows.due (h : r.Shows p f calls) : r.due = dueAfter p r.rested calls.getLast? := by
  unfold Record.due
  rw [h.frame, h.calls]
  dsimp only
  rw [h.payload]

/-- A payload that is to be sent is still to be sent when the pause went on longer. -/
theorem dueAfter_eq_send {last : Option NetCall} {b b' : Bool} (h : dueAfter p b last = .send p)
    (hb : b = true → b' = true) : dueAfter p b' last = .send p := by
  rcases last with _ | ⟨i, q, accepted⟩ | ⟨i, progress⟩
  · rfl
  · exact h
  · cases progress with
    | pending | finished => exact h
    | arpFailed =>
      cases b with
      | false => cases h
      | true =>
        rw [hb rfl]
        rfl

/-- The step made the calls that were due, and the record is as it is in the state it led to. -/
structure Follows (id : UInt8) (r : Record) (c : Call) (p : Bytes) (y : Option Counter) : Prop where
  met : r.due.Met id c.calls
  phase : Phase id (r.call c) p y c.after

variable {shown : Option Frame}

theorem Record.due_of_none (h : r.frame = none) : r.due = .nothing := by
  unfold Record.due
  rw [h]

/-- A step that calls nothing leaves the frame and its calls. -/
theorem Record.call_silent (shown : Option Frame) (state : TransmitState) (r : Record) :
    (r.call ⟨shown, state, state, []⟩).frame = r.frame ∧
      (r.call ⟨shown, state, state, []⟩).calls = r.calls := by
  have hcaptures : ¬ (Call.mk shown state state []).Captures := by
    rintro ⟨hbefore, hafter⟩
    cases hbefore.symm.trans hafter
  have hacknowledges : ¬ (Call.mk shown state state []).Acknowledges := by
    rintro ⟨hbefore, hafter⟩
    cases hbefore.symm.trans hafter
  unfold Record.call
  rw [if_neg hcaptures, if_neg hacknowledges, if_neg (not_not_intro rfl)]
  by_cases hr : retryCycles ≤ r.rounds
  · rw [if_pos hr]
    exact ⟨rfl, rfl⟩
  · rw [if_neg hr]
    exact ⟨rfl, rfl⟩

/-- Waiting for a frame, the channel calls nothing. -/
theorem Phase.idle (h : Phase id r p x .waitForFrame) :
    Follows id r ⟨shown, .waitForFrame, .waitForFrame, []⟩ p y := by
  obtain ⟨hframe, hcalls⟩ := h
  obtain ⟨hframe', hcalls'⟩ := Record.call_silent shown .waitForFrame r
  refine ⟨?_, hframe'.trans hframe, hcalls'.trans hcalls⟩
  rw [Record.due_of_none hframe]
  rfl

/-- A frame that was captured is to be sent. -/
theorem Phase.captured (h : Phase id r p x .waitForFrame) (f : Frame) :
    Follows id r ⟨some f, .waitForFrame, .processFrame, []⟩ f.payload y := by
  refine ⟨?_, f, [], ⟨rfl, rfl, rfl⟩, rfl⟩
  rw [Record.due_of_none h.1]
  rfl

theorem Phase.sent (h : Phase id r p x .processFrame) :
    Follows id r ⟨shown, .processFrame, .waitForTxFinished, [.send id p true]⟩ p y := by
  obtain ⟨f, failed, hshows, hdue⟩ := h
  refine ⟨?_, f, failed, 0, hshows.frame, hshows.payload, ?_⟩
  · rw [hdue]
    exact ⟨true, rfl⟩
  · exact congrArg (· ++ _) hshows.calls

/-- A payload the network refuses is to be sent again. -/
theorem Phase.refused (h : Phase id r p x .processFrame) :
    Follows id r ⟨shown, .processFrame, .processFrame, [.send id p false]⟩ p y := by
  obtain ⟨f, failed, hshows, hdue⟩ := h
  have hcalls : r.calls ++ [.send id p false] = attempts id p (failed ++ [.refused]) := by
    rw [attempts_append_one, hshows.calls]
    rfl
  have hnext : Record.Shows
      { r with calls := r.calls ++ [.send id p false], rounds := 0, steps := 0 } p f
      (attempts id p (failed ++ [.refused])) := ⟨hshows.frame, hshows.payload, hcalls⟩
  refine ⟨?_, ?_⟩
  · rw [hdue]
    exact ⟨false, rfl⟩
  · show Phase id { r with calls := r.calls ++ [.send id p false], rounds := 0, steps := 0 } p y _
    refine ⟨f, failed ++ [.refused], hnext, ?_⟩
    rw [hnext.due, ← hcalls, List.getLast?_concat]
    rfl

/-- A payload the network has taken is asked about. -/
theorem Phase.due_poll (h : Phase id r p x .waitForTxFinished) : r.due = .poll := by
  obtain ⟨f, failed, polls, hshows⟩ := h
  rw [hshows.due]
  cases polls with
  | zero =>
    rw [taken, List.replicate_zero, List.getLast?_concat]
    rfl
  | succ polls =>
    rw [taken_succ, ← List.append_assoc, List.getLast?_concat]
    rfl

theorem Phase.pending (h : Phase id r p x .waitForTxFinished) :
    Follows id r ⟨shown, .waitForTxFinished, .waitForTxFinished, [.poll id .pending]⟩ p y := by
  refine ⟨?_, ?_⟩
  · rw [h.due_poll]
    exact ⟨.pending, rfl⟩
  obtain ⟨f, failed, polls, hshows⟩ := h
  refine ⟨f, failed, polls + 1, hshows.frame, hshows.payload, ?_⟩
  rw [taken_succ, ← List.append_assoc]
  exact congrArg (· ++ _) hshows.calls

theorem Phase.finished (h : Phase id r p x .waitForTxFinished) :
    Follows id r ⟨shown, .waitForTxFinished, .txFinished, [.poll id .finished]⟩ p y := by
  refine ⟨?_, ?_⟩
  · rw [h.due_poll]
    exact ⟨.finished, rfl⟩
  obtain ⟨f, failed, polls, hshows⟩ := h
  refine ⟨f, failed, polls, hshows.frame, hshows.payload, ?_⟩
  rw [settled, ← List.append_assoc]
  exact congrArg (· ++ _) hshows.calls

/-- A payload that could not be delivered is left alone for a while. -/
theorem Phase.unresolved (h : Phase id r p x .waitForTxFinished) (hy : y = some ⟨0, true⟩) :
    Follows id r ⟨shown, .waitForTxFinished, .waitForNextArpRetry, [.poll id .arpFailed]⟩ p y := by
  refine ⟨?_, ?_⟩
  · rw [h.due_poll]
    exact ⟨.arpFailed, rfl⟩
  obtain ⟨f, failed, polls, hshows⟩ := h
  refine ⟨f, failed, polls, ⟨hshows.frame, hshows.payload, ?_⟩, rfl, hy⟩
  rw [attempts_append_one, Attempt.calls, ← List.append_assoc]
  exact congrArg (· ++ _) hshows.calls

/-- Nothing is due in the pause before a step has seen that it is over. -/
theorem Phase.due_nothing (h : Phase id r p x .waitForNextArpRetry) : r.due = .nothing := by
  obtain ⟨f, failed, polls, hshows, hsteps, -⟩ := h
  have hrested : r.rested = false := by
    unfold Record.rested
    rw [hsteps]
    simp
  rw [hshows.due, hrested, attempts_append_one, Attempt.calls, ← List.append_assoc,
    List.getLast?_concat]
  rfl

theorem Phase.resting (h : Phase id r p x .waitForNextArpRetry) (hr : r.rounds < retryCycles) :
    Follows id r ⟨shown, .waitForNextArpRetry, .waitForNextArpRetry, []⟩ p x := by
  refine ⟨?_, ?_⟩
  · rw [h.due_nothing]
    rfl
  · show Phase id (if retryCycles ≤ r.rounds then { r with steps := r.steps + 1 } else r) p x _
    rw [if_neg (Nat.not_le.mpr hr)]
    exact h

/-- The step that sees that the pause is over calls nothing; the next one sends. -/
theorem Phase.rested (h : Phase id r p x .waitForNextArpRetry) (hr : retryCycles ≤ r.rounds) :
    Follows id r ⟨shown, .waitForNextArpRetry, .processFrame, []⟩ p y := by
  refine ⟨?_, ?_⟩
  · rw [h.due_nothing]
    rfl
  · show Phase id (if retryCycles ≤ r.rounds then { r with steps := r.steps + 1 } else r) p y _
    rw [if_pos hr]
    obtain ⟨f, failed, polls, hshows, -⟩ := h
    have hnext : Record.Shows { r with steps := r.steps + 1 } p f
        (attempts id p (failed ++ [.unresolved polls])) :=
      ⟨hshows.frame, hshows.payload, hshows.calls⟩
    have hrested : Record.rested { r with steps := r.steps + 1 } = true :=
      decide_eq_true ⟨hr, Nat.succ_pos _⟩
    refine ⟨f, failed ++ [.unresolved polls], hnext, ?_⟩
    rw [hnext.due, hrested, attempts_append_one, Attempt.calls, ← List.append_assoc,
      List.getLast?_concat]
    rfl

/-- A frame that is finished is called for no more. -/
theorem Phase.due_nothing_of_finished (h : Phase id r p x .txFinished) : r.due = .nothing := by
  obtain ⟨f, failed, polls, hshows⟩ := h
  rw [hshows.due, settled, ← List.append_assoc, List.getLast?_concat]
  rfl

theorem Phase.acknowledged (h : Phase id r p x .txFinished) :
    Follows id r ⟨shown, .txFinished, .waitForFrame, []⟩ p y := by
  refine ⟨?_, rfl, rfl⟩
  rw [h.due_nothing_of_finished]
  rfl

/-- A channel that cannot acknowledge the frame stays with it. -/
theorem Phase.stuck (h : Phase id r p x .txFinished) :
    Follows id r ⟨shown, .txFinished, .txFinished, []⟩ p y := by
  obtain ⟨hframe, hcalls⟩ := Record.call_silent shown .txFinished r
  refine ⟨?_, ?_⟩
  · rw [h.due_nothing_of_finished]
    rfl
  · obtain ⟨f, failed, polls, hshows⟩ := h
    exact ⟨f, failed, polls, hframe.trans hshows.frame, hshows.payload, hcalls.trans hshows.calls⟩

/-- A round counts for the pause, and for nothing else. -/
theorem Phase.round {st : TransmitState} (h : Phase id r p x st) :
    Phase id { r with rounds := r.rounds + 1 } p (x.map Counter.increment) st := by
  cases st with
  | waitForFrame => exact h
  | processFrame =>
    obtain ⟨f, failed, hshows, hdue⟩ := h
    have hnext : Record.Shows { r with rounds := r.rounds + 1 } p f (attempts id p failed) :=
      ⟨hshows.frame, hshows.payload, hshows.calls⟩
    refine ⟨f, failed, hnext, ?_⟩
    have hrested (h : r.rested = true) :
        Record.rested { r with rounds := r.rounds + 1 } = true := by
      obtain ⟨hrounds, hsteps⟩ := of_decide_eq_true h
      exact decide_eq_true ⟨Nat.le_succ_of_le hrounds, hsteps⟩
    rw [hshows.due] at hdue
    rw [hnext.due]
    exact dueAfter_eq_send hdue hrested
  | waitForTxFinished =>
    obtain ⟨f, failed, polls, hshows⟩ := h
    exact ⟨f, failed, polls, hshows.frame, hshows.payload, hshows.calls⟩
  | waitForNextArpRetry =>
    obtain ⟨f, failed, polls, hshows, hsteps, hx⟩ := h
    refine ⟨f, failed, polls, ⟨hshows.frame, hshows.payload, hshows.calls⟩, hsteps, ?_⟩
    rw [hx, Option.map_some]
    exact congrArg some (Counter.increment_min _)
  | txFinished =>
    obtain ⟨f, failed, polls, hshows⟩ := h
    exact ⟨f, failed, polls, hshows.frame, hshows.payload, hshows.calls⟩

end Sending

end SlimInterface
