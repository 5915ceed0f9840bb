import SlimInterface.Fault
import SlimInterface.Journal

/-!
# Operations

An operation works on a state, may fail with a fault, and logs lines. What it
changed before it failed stays changed: a field written into a shared buffer does
not disappear because the next one did not fit. Its outcome therefore holds the
state beside the result, in both cases.

`Op.run_bind_ok` and `Op.run_bind_error` say how operations follow one another: after
a success the next one starts from the state left behind and its lines are
appended; after a failure nothing else happens.
-/

namespace SlimInterface

/-- What an operation leaves: its result, the state, and the lines it logged. -/
structure Outcome (σ α : Type) where
  result : Except Fault α
  state : σ
  lines : List Line

/-- An operation on a state of type `σ` that answers with an `α`. -/
def Op (σ α : Type) : Type := σ → Outcome σ α

namespace Op

variable {σ τ α β : Type}

/-- Run an operation on a state. -/
def run (op : Op σ α) (state : σ) : Outcome σ α := op state

/-- Do nothing and answer `a`. -/
protected def pure (a : α) : Op σ α := fun s => ⟨.ok a, s, []⟩

/-- Run `op` and, if it succeeds, what follows from its answer. -/
protected def bind (op : Op σ α) (next : α → Op σ β) : Op σ β := fun s =>
  match op s with
  | ⟨.error e, s', lines⟩ => ⟨.error e, s', lines⟩
  | ⟨.ok a, s', lines⟩ =>
    let after := next a s'
    ⟨after.result, after.state, lines ++ after.lines⟩

instance : Monad (Op σ) where
  pure := Op.pure
  bind := Op.bind

/-- Fail with `e`. -/
def fail (e : Fault) : Op σ α := fun s => ⟨.error e, s, []⟩

/-- Answer as `r` does, without touching the state. -/
def ofExcept (r : Except Fault α) : Op σ α := fun s => ⟨r, s, []⟩

/-- Log a line. -/
def log (line : Line) : Op σ Unit := fun s => ⟨.ok (), s, [line]⟩

/-- The current state. -/
def read : Op σ σ := fun s => ⟨.ok s, s, []⟩

/-- Replace the state. -/
def write (s : σ) : Op σ Unit := fun _ => ⟨.ok (), s, []⟩

/-- Change the state. -/
def update (f : σ → σ) : Op σ Unit := fun s => ⟨.ok (), f s, []⟩

/-- Answer with the operation's own result instead of failing with it. -/
def attempt (op : Op σ α) : Op σ (Except Fault α) := fun s =>
  let after := op s
  ⟨.ok after.result, after.state, after.lines⟩

/-- Run an operation on a part of the state: `get` reads the part, `put` places it back. -/
def within (get : τ → σ) (put : σ → τ → τ) (op : Op σ α) : Op τ α := fun t =>
  let after := op (get t)
  ⟨after.result, put after.state t, after.lines⟩

/-- Run an operation on the first half of a pair. -/
def onFirst (op : Op σ α) : Op (σ × τ) α := op.within Prod.fst fun s p => (s, p.2)

/-- Run an operation on the second half of a pair. -/
def onSecond (op : Op τ α) : Op (σ × τ) α := op.within Prod.snd fun t p => (p.1, t)

/-- Run an operation; when it fails, log what `describe` says of the fault and fail
with what `report` makes of it. -/
def reporting (describe : Fault → Line) (report : Fault → Fault) (op : Op σ α) : Op σ α :=
  fun s =>
    let after := op s
    match after.result with
    | .ok a => ⟨.ok a, after.state, after.lines⟩
    | .error e => ⟨.error (report e), after.state, after.lines ++ [describe e]⟩

/-! ## How operations run -/

@[simp] theorem run_pure (a : α) (s : σ) : (pure a : Op σ α).run s = ⟨.ok a, s, []⟩ := rfl

theorem run_bind_ok {op : Op σ α} {next : α → Op σ β} {s s' : σ} {a : α} {lines : List Line}
    (h : op.run s = ⟨.ok a, s', lines⟩) :
    (op >>= next).run s =
      ⟨((next a).run s').result, ((next a).run s').state, lines ++ ((next a).run s').lines⟩ := by
  show Op.bind op next s = _
  unfold Op.bind
  rw [show op s = _ from h]
  rfl

theorem run_bind_error {op : Op σ α} {next : α → Op σ β} {s s' : σ} {e : Fault}
    {lines : List Line} (h : op.run s = ⟨.error e, s', lines⟩) :
    (op >>= next).run s = ⟨.error e, s', lines⟩ := by
  show Op.bind op next s = _
  unfold Op.bind
  rw [show op s = _ from h]

@[simp] theorem run_fail (e : Fault) (s : σ) : (fail e : Op σ α).run s = ⟨.error e, s, []⟩ := rfl

@[simp] theorem run_ofExcept (r : Except Fault α) (s : σ) :
    (ofExcept r : Op σ α).run s = ⟨r, s, []⟩ := rfl

@[simp] theorem run_log (line : Line) (s : σ) : (log line).run s = ⟨.ok (), s, [line]⟩ := rfl

@[simp] theorem run_read (s : σ) : (read : Op σ σ).run s = ⟨.ok s, s, []⟩ := rfl

@[simp] theorem run_write (s t : σ) : (write t).run s = ⟨.ok (), t, []⟩ := rfl

@[simp] theorem run_update (f : σ → σ) (s : σ) : (update f).run s = ⟨.ok (), f s, []⟩ := rfl

end Op

end SlimInterface
