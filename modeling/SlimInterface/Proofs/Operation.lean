import SlimInterface.Incident

/-!
# What an operation does, without what it logs

Most properties of an operation are about its answer and the state it leaves. `Op.eval` is
just these two, and one equation for each way of building an operation says how it is
computed: a run of several operations is then unfolded step by step, and the lines
nobody asks about never appear.

Five things are shown of an operation without computing it: what it keeps, whatever it answers
(`Op.Keeps`), which part of the state it has nothing to do with (`Op.Ignores`), which other
operation does the same on other states (`Op.Mirrors`), which states it does not tell apart
(`Op.Respects`), and what it logs (`Op.Logs`). All go along the way the operation is built.
-/

namespace SlimInterface

namespace Op

variable {σ τ ω α β : Type}

/-- The answer of an operation and the state it leaves. -/
def eval (op : Op σ α) (s : σ) : Except Fault α × σ := ((op.run s).result, (op.run s).state)

theorem eval_of_run {op : Op σ α} {s t : σ} {r : Except Fault α} {lines : List Line}
    (h : op.run s = ⟨r, t, lines⟩) : op.eval s = (r, t) := by
  unfold eval
  rw [h]

@[simp] theorem eval_pure (a : α) (s : σ) : (pure a : Op σ α).eval s = (.ok a, s) := rfl

@[simp] theorem eval_fail (e : Fault) (s : σ) : (fail e : Op σ α).eval s = (.error e, s) := rfl

@[simp] theorem eval_ofExcept (r : Except Fault α) (s : σ) :
    (ofExcept r : Op σ α).eval s = (r, s) := rfl

@[simp] theorem eval_log (line : Line) (s : σ) : (log line).eval s = (.ok (), s) := rfl

@[simp] theorem eval_read (s : σ) : (read : Op σ σ).eval s = (.ok s, s) := rfl

@[simp] theorem eval_write (s t : σ) : (write t).eval s = (.ok (), t) := rfl

@[simp] theorem eval_update (f : σ → σ) (s : σ) : (update f).eval s = (.ok (), f s) := rfl

@[simp] theorem eval_attempt (op : Op σ α) (s : σ) :
    op.attempt.eval s = (.ok (op.eval s).1, (op.eval s).2) := rfl

@[simp] theorem eval_within (get : τ → σ) (put : σ → τ → τ) (op : Op σ α) (t : τ) :
    (op.within get put).eval t = ((op.eval (get t)).1, put (op.eval (get t)).2 t) := rfl

@[simp] theorem eval_onFirst (op : Op σ α) (p : σ × τ) :
    op.onFirst.eval p = ((op.eval p.1).1, (op.eval p.1).2, p.2) := rfl

@[simp] theorem eval_onSecond (op : Op τ α) (p : σ × τ) :
    op.onSecond.eval p = ((op.eval p.2).1, p.1, (op.eval p.2).2) := rfl

theorem eval_within_of {get : τ → σ} {put : σ → τ → τ} {op : Op σ α} {s : σ} {t : τ}
    {r : Except Fault α} (h : op.eval (get t) = (r, s)) :
    (op.within get put).eval t = (r, put s t) := by
  rw [eval_within, h]

theorem eval_onFirst_of {op : Op σ α} {s s' : σ} {r : Except Fault α} (h : op.eval s = (r, s'))
    (t : τ) : op.onFirst.eval (s, t) = (r, s', t) := by
  rw [eval_onFirst, h]

theorem eval_onSecond_of {op : Op τ α} {t t' : τ} {r : Except Fault α} (h : op.eval t = (r, t'))
    (s : σ) : op.onSecond.eval (s, t) = (r, s, t') := by
  rw [eval_onSecond, h]

/-- An operation on the first half of a pair leaves the second half alone. -/
theorem snd_of_onFirst {op : Op σ α} {p q : σ × τ} {r : Except Fault α}
    (h : op.onFirst.eval p = (r, q)) : q.2 = p.2 := by
  rw [eval_onFirst] at h
  cases h
  rfl

/-- An operation on the second half leaves the first half alone. -/
theorem fst_of_onSecond {op : Op τ α} {p q : σ × τ} {r : Except Fault α}
    (h : op.onSecond.eval p = (r, q)) : q.1 = p.1 := by
  rw [eval_onSecond] at h
  cases h
  rfl

/-- What follows an operation starts from the state it left, unless it failed. -/
theorem eval_bind (op : Op σ α) (next : α → Op σ β) (s : σ) :
    (op >>= next).eval s =
      match op.eval s with
      | (.ok a, t) => (next a).eval t
      | (.error e, t) => (.error e, t) := by
  show ((Op.bind op next s).result, (Op.bind op next s).state) = _
  unfold Op.bind eval run
  rcases op s with ⟨_ | _, _, _⟩ <;> rfl

theorem eval_bind_ok {op : Op σ α} {next : α → Op σ β} {s t : σ} {a : α}
    (h : op.eval s = (.ok a, t)) : (op >>= next).eval s = (next a).eval t := by
  rw [eval_bind, h]

theorem eval_bind_error {op : Op σ α} {next : α → Op σ β} {s t : σ} {e : Fault}
    (h : op.eval s = (.error e, t)) : (op >>= next).eval s = (.error e, t) := by
  rw [eval_bind, h]

/-- An operation and what follows it succeed together. -/
theorem eval_bind_eq_ok {op : Op σ α} {next : α → Op σ β} {s u : σ} {b : β} :
    (op >>= next).eval s = (.ok b, u) ↔
      ∃ a t, op.eval s = (.ok a, t) ∧ (next a).eval t = (.ok b, u) := by
  rw [eval_bind]
  rcases op.eval s with ⟨_ | a, t⟩
  · simp
  · constructor
    · intro h
      exact ⟨a, t, rfl, h⟩
    · intro h
      obtain ⟨_, _, h, hn⟩ := h
      cases h
      exact hn

/-- Reporting changes the fault an operation fails with, and nothing else. -/
@[simp] theorem eval_reporting (describe : Fault → Line) (report : Fault → Fault) (op : Op σ α)
    (s : σ) :
    (op.reporting describe report).eval s = ((op.eval s).1.mapError report, (op.eval s).2) := by
  unfold reporting eval run
  rcases h : op s with ⟨_ | _, _, _⟩ <;> simp only [h] <;> rfl

end Op

/-! ## What an operation keeps -/

namespace Op

variable {P : σ → Prop} {Q : τ → Prop} {op : Op σ α} {next : α → Op σ β}

/-- A state with `P` is left with `P`, whatever the answer. -/
def Keeps (P : σ → Prop) (op : Op σ α) : Prop := ∀ s, P s → P (op.eval s).2

theorem keeps_pure (a : α) : Keeps P (pure a : Op σ α) := fun _ h => h

theorem keeps_fail (e : Fault) : Keeps P (fail e : Op σ α) := fun _ h => h

theorem keeps_log (line : Line) : Keeps P (log line) := fun _ h => h

theorem keeps_read : Keeps P (read : Op σ σ) := fun _ h => h

theorem keeps_update {f : σ → σ} (h : ∀ s, P s → P (f s)) : Keeps P (update f) := h

theorem Keeps.bind (h : op.Keeps P) (hn : ∀ a, (next a).Keeps P) : (op >>= next).Keeps P := by
  intro s hs
  have ht := h s hs
  rw [eval_bind]
  rcases hop : op.eval s with ⟨_ | a, t⟩
  · rwa [hop] at ht
  · rw [hop] at ht
    exact hn a t ht

theorem Keeps.attempt (h : op.Keeps P) : op.attempt.Keeps P := h

theorem Keeps.reporting {describe : Fault → Line} {report : Fault → Fault} (h : op.Keeps P) :
    (op.reporting describe report).Keeps P := by
  intro s hs
  rw [eval_reporting]
  exact h s hs

theorem Keeps.within {get : τ → σ} {put : σ → τ → τ} (h : op.Keeps P) (hget : ∀ t, Q t → P (get t))
    (hput : ∀ s t, P s → Q t → Q (put s t)) : (op.within get put).Keeps Q :=
  fun t ht => hput _ t (h _ (hget t ht)) ht

/-! ## What an operation does not see -/

variable {f : σ → σ} {g : τ → τ}

/-- The operation neither sees nor touches what `f` changes. -/
def Ignores (f : σ → σ) (op : Op σ α) : Prop :=
  ∀ s, op.eval (f s) = ((op.eval s).1, f (op.eval s).2)

theorem ignores_pure (a : α) : Ignores f (pure a : Op σ α) := fun _ => rfl

theorem ignores_fail (e : Fault) : Ignores f (fail e : Op σ α) := fun _ => rfl

theorem ignores_log (line : Line) : Ignores f (log line) := fun _ => rfl

theorem ignores_ofExcept (r : Except Fault α) : Ignores f (ofExcept r : Op σ α) := fun _ => rfl

theorem Ignores.bind (h : op.Ignores f) (hn : ∀ a, (next a).Ignores f) :
    (op >>= next).Ignores f := by
  intro s
  rw [eval_bind, eval_bind, h s]
  rcases op.eval s with ⟨_ | a, t⟩
  · rfl
  · exact hn a t

/-- An operation that looks at the state before it goes on, but not at what `f` changes. -/
theorem ignores_read_bind {next : σ → Op σ β} (heq : ∀ s, next (f s) = next s)
    (hn : ∀ s, (next s).Ignores f) : ((read : Op σ σ) >>= next).Ignores f := by
  intro s
  rw [eval_bind_ok (eval_read _), eval_bind_ok (eval_read _), heq]
  exact hn s s

theorem Ignores.attempt (h : op.Ignores f) : op.attempt.Ignores f := by
  intro s
  rw [eval_attempt, eval_attempt, h s]

theorem Ignores.reporting {describe : Fault → Line} {report : Fault → Fault} (h : op.Ignores f) :
    (op.reporting describe report).Ignores f := by
  intro s
  rw [eval_reporting, eval_reporting, h s]

theorem Ignores.within {get : τ → σ} {put : σ → τ → τ} (h : op.Ignores f)
    (hget : ∀ t, get (g t) = f (get t)) (hput : ∀ s t, put (f s) (g t) = g (put s t)) :
    (op.within get put).Ignores g := by
  intro t
  rw [eval_within, eval_within, hget, h, hput]

/-- An operation on a part that `g` leaves alone. -/
theorem ignores_within {get : τ → σ} {put : σ → τ → τ} {op : Op σ α} (hget : ∀ t, get (g t) = get t)
    (hput : ∀ s t, put s (g t) = g (put s t)) : (op.within get put).Ignores g :=
  Ignores.within (f := id) (fun _ => rfl) hget hput

/-! ## Two operations side by side -/

section Mirrors

variable {σ' τ' : Type} {T : σ → τ → Prop} {U : σ' → τ' → Prop} {op' : Op τ α}
  {next' : α → Op τ β}

/-- From states related by `T` the two operations answer alike and leave states that are related
again. -/
def Mirrors (T : σ → τ → Prop) (op : Op σ α) (op' : Op τ α) : Prop :=
  ∀ s t, T s t → (op.eval s).1 = (op'.eval t).1 ∧ T (op.eval s).2 (op'.eval t).2

theorem mirrors_pure (a : α) : Mirrors T (pure a) (pure a) := fun _ _ h => ⟨rfl, h⟩

theorem mirrors_fail (e : Fault) : Mirrors T (fail e : Op σ α) (fail e) := fun _ _ h => ⟨rfl, h⟩

theorem mirrors_log (line line' : Line) : Mirrors T (log line) (log line') :=
  fun _ _ h => ⟨rfl, h⟩

theorem mirrors_ofExcept (r : Except Fault α) : Mirrors T (ofExcept r) (ofExcept r) :=
  fun _ _ h => ⟨rfl, h⟩

theorem mirrors_update {f : σ → σ} {g : τ → τ} (h : ∀ s t, T s t → T (f s) (g t)) :
    Mirrors T (update f) (update g) := fun s t hst => ⟨rfl, h s t hst⟩

theorem Mirrors.bind (h : Mirrors T op op') (hn : ∀ a, Mirrors T (next a) (next' a)) :
    Mirrors T (op >>= next) (op' >>= next') := by
  intro s t hst
  obtain ⟨ha, hst'⟩ := h s t hst
  rw [eval_bind, eval_bind]
  rcases hs : op.eval s with ⟨r, s'⟩
  rcases ht : op'.eval t with ⟨r', t'⟩
  rw [hs, ht] at ha hst'
  obtain rfl : r = r' := ha
  cases r with
  | error e => exact ⟨rfl, hst'⟩
  | ok a => exact hn a s' t' hst'

/-- Operations that look at the state before they go on. -/
theorem mirrors_read_bind {next : σ → Op σ α} {next' : τ → Op τ α}
    (h : ∀ s t, T s t → Mirrors T (next s) (next' t)) :
    Mirrors T ((read : Op σ σ) >>= next) ((read : Op τ τ) >>= next') := by
  intro s t hst
  rw [eval_bind_ok (eval_read _), eval_bind_ok (eval_read _)]
  exact h s t hst s t hst

theorem Mirrors.attempt (h : Mirrors T op op') : Mirrors T op.attempt op'.attempt :=
  fun s t hst => ⟨congrArg Except.ok (h s t hst).1, (h s t hst).2⟩

theorem Mirrors.reporting {describe describe' : Fault → Line} {report : Fault → Fault}
    (h : Mirrors T op op') :
    Mirrors T (op.reporting describe report) (op'.reporting describe' report) := by
  intro s t hst
  rw [eval_reporting, eval_reporting, (h s t hst).1]
  exact ⟨rfl, (h s t hst).2⟩

theorem Mirrors.within {get : σ' → σ} {put : σ → σ' → σ'} {get' : τ' → τ} {put' : τ → τ' → τ'}
    (h : Mirrors T op op') (hget : ∀ s t, U s t → T (get s) (get' t))
    (hput : ∀ x y s t, T x y → U s t → U (put x s) (put' y t)) :
    Mirrors U (op.within get put) (op'.within get' put') := by
  intro s t hst
  obtain ⟨ha, hpart⟩ := h _ _ (hget s t hst)
  exact ⟨ha, hput _ _ s t hpart hst⟩

end Mirrors

/-! ## What an operation does not tell apart -/

variable {R : σ → σ → Prop} {S : τ → τ → Prop}

/-- From states related by `R` the operation answers alike and leaves states that are related
again. -/
def Respects (R : σ → σ → Prop) (op : Op σ α) : Prop :=
  ∀ s t, R s t → (op.eval s).1 = (op.eval t).1 ∧ R (op.eval s).2 (op.eval t).2

theorem respects_pure (a : α) : Respects R (pure a : Op σ α) := fun _ _ h => ⟨rfl, h⟩

theorem respects_fail (e : Fault) : Respects R (fail e : Op σ α) := fun _ _ h => ⟨rfl, h⟩

theorem respects_log (line : Line) : Respects R (log line) := fun _ _ h => ⟨rfl, h⟩

theorem respects_update (h : ∀ s t, R s t → R (f s) (f t)) : Respects R (update f) :=
  fun s t hst => ⟨rfl, h s t hst⟩

theorem Respects.bind (h : op.Respects R) (hn : ∀ a, (next a).Respects R) :
    (op >>= next).Respects R := Mirrors.bind h hn

theorem Respects.attempt (h : op.Respects R) : op.attempt.Respects R := Mirrors.attempt h

/-- An operation on a part in which related states agree. -/
theorem respects_within {get : τ → σ} {put : σ → τ → τ} (op : Op σ α)
    (hget : ∀ s t, S s t → get s = get t) (hput : ∀ x s t, S s t → S (put x s) (put x t)) :
    (op.within get put).Respects S := by
  intro s t hst
  rw [eval_within, eval_within, hget s t hst]
  exact ⟨rfl, hput _ s t hst⟩

/-! ## What an operation logs -/

variable {L : Line → Prop}

/-- Every line the operation logs has `L`. -/
def Logs (L : Line → Prop) (op : Op σ α) : Prop := ∀ s, ∀ l ∈ (op.run s).lines, L l

theorem logs_pure (a : α) : Logs L (pure a : Op σ α) := fun _ _ hl => absurd hl List.not_mem_nil

theorem logs_fail (e : Fault) : Logs L (fail e : Op σ α) := fun _ _ hl => absurd hl List.not_mem_nil

theorem logs_update (f : σ → σ) : Logs L (update f) := fun _ _ hl => absurd hl List.not_mem_nil

theorem logs_log {line : Line} (h : L line) : Logs L (log line : Op σ Unit) := by
  intro s l hl
  rw [List.mem_singleton.mp hl]
  exact h

theorem Logs.bind (h : op.Logs L) (hn : ∀ a, (next a).Logs L) : (op >>= next).Logs L := by
  intro s l hl
  rcases hop : op.run s with ⟨_ | a, t, lines⟩
  · rw [run_bind_error hop] at hl
    exact h s l (hop ▸ hl)
  · rw [run_bind_ok hop] at hl
    rcases List.mem_append.mp hl with hl | hl
    · exact h s l (hop ▸ hl)
    · exact hn a t l hl

/-- An operation that looks at the state before it goes on. -/
theorem logs_read_bind {next : σ → Op σ β} (hn : ∀ s, (next s).Logs L) :
    ((read : Op σ σ) >>= next).Logs L := by
  intro s l hl
  rw [run_bind_ok (run_read s)] at hl
  exact hn s s l hl

theorem Logs.attempt (h : op.Logs L) : op.attempt.Logs L := h

theorem Logs.within {get : τ → σ} {put : σ → τ → τ} (h : op.Logs L) : (op.within get put).Logs L :=
  fun t => h (get t)

end Op

/-! ## Posting -/

namespace Tally

@[simp] theorem eval_post (handler : IncidentHandler ω) (i : Incident) (s : Tally × ω) :
    (post handler i).eval s = (.ok (), s.1.record i, (handler i s.2).1) := rfl

@[simp] theorem eval_check_ok (handler : IncidentHandler ω) (source : Source) (a : α)
    (s : Tally × ω) : (check handler source (.ok a)).eval s = (.ok a, s) := rfl

@[simp] theorem eval_check_error (handler : IncidentHandler ω) (source : Source) (e : Fault)
    (s : Tally × ω) :
    (check handler source (.error e : Except Fault α)).eval s =
      (.error e, s.1.record ⟨source, e⟩, (handler ⟨source, e⟩ s.2).1) := by
  rw [check, Op.eval_bind_ok (eval_post ..), Op.eval_fail]

theorem check_eq_ok {handler : IncidentHandler ω} {source : Source} {r : Except Fault α}
    {s t : Tally × ω} {a : α} :
    (check handler source r).eval s = (.ok a, t) ↔ r = .ok a ∧ t = s := by
  cases r <;> simp [eq_comm]

end Tally

end SlimInterface
