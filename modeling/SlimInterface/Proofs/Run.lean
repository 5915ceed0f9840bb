import Mathlib.Data.List.Forall2

/-!
# Runs

A run is a chain of labelled steps; the labels are its trace, oldest first. A property of
the trace and the state that every step preserves holds at the end of every run
(`Run.invariant`), and what such a property says about the next step holds of all of them
(`Run.invariant_forall`). Two runs whose events correspond keep what two corresponding steps
preserve (`Run.invariant₂`).
-/

namespace SlimInterface

variable {σ ε : Type}

/-- The steps of a system, one after the other, and what they were. -/
inductive Run (step : σ → ε → σ → Prop) : σ → List ε → σ → Prop
  | start (s : σ) : Run step s [] s
  | next {s t u : σ} {es : List ε} {e : ε} (h : Run step s es t) (hs : step t e u) :
      Run step s (es ++ [e]) u

/-- The last event of a trace comes last in every part of it. -/
theorem filterMap_append_one {α : Type} (part : ε → Option α) (es : List ε) (e : ε) :
    (es ++ [e]).filterMap part = es.filterMap part ++ (part e).toList := by
  rw [List.filterMap_append]
  cases he : part e with
  | none => rw [List.filterMap_cons_none he, List.filterMap_nil, Option.toList_none]
  | some a => rw [List.filterMap_cons_some he, List.filterMap_nil, Option.toList_some]

/-- What corresponds to a trace ends with what corresponds to its last event. -/
theorem forall₂_append_one {ε' : Type} {A : ε → ε' → Prop} {es : List ε} {e : ε} {fs : List ε'}
    (h : List.Forall₂ A (es ++ [e]) fs) :
    ∃ front x, fs = front ++ [x] ∧ List.Forall₂ A es front ∧ A e x := by
  induction es generalizing fs with
  | nil =>
    obtain ⟨x, rest, hx, hrest, rfl⟩ := List.forall₂_cons_left_iff.mp h
    cases hrest
    exact ⟨[], x, rfl, .nil, hx⟩
  | cons y es ih =>
    obtain ⟨x, rest, hx, hrest, rfl⟩ := List.forall₂_cons_left_iff.mp h
    obtain ⟨front, z, rfl, hfront, hz⟩ := ih hrest
    exact ⟨x :: front, z, rfl, .cons hx hfront, hz⟩

namespace Run

variable {step : σ → ε → σ → Prop} {s t u : σ} {es fs : List ε}

theorem one {e : ε} (h : step s e t) : Run step s [e] t := .next (.start s) h

theorem trans (h : Run step s es t) (h' : Run step t fs u) : Run step s (es ++ fs) u := by
  induction h' with
  | start =>
    rw [List.append_nil]
    exact h
  | next _ hs ih =>
    rw [← List.append_assoc]
    exact .next ih hs

/-- What one step preserves, a run preserves. -/
theorem invariant {I : List ε → σ → Prop} (h : Run step s es t) (h0 : I [] s)
    (hstep : ∀ {es t e u}, I es t → step t e u → I (es ++ [e]) u) : I es t := by
  induction h with
  | start => exact h0
  | next _ hs ih => exact hstep ih hs

/-- What every step says about the trace before it holds at every place of a run. -/
theorem invariant_forall {I : List ε → σ → Prop} {P : List ε → ε → Prop} (h : Run step s es t)
    (h0 : I [] s) (hstep : ∀ {es t e u}, I es t → step t e u → I (es ++ [e]) u ∧ P es e) :
    I es t ∧ ∀ past e rest, es = past ++ e :: rest → P past e := by
  refine h.invariant (I := fun es t => I es t ∧ ∀ past e rest, es = past ++ e :: rest → P past e)
    ⟨h0, fun past e rest he => absurd he.symm (by simp)⟩ ?_
  intro es t e u h hs
  obtain ⟨ht, hpast⟩ := h
  obtain ⟨hu, he⟩ := hstep ht hs
  refine ⟨hu, ?_⟩
  intro past x rest hx
  -- the place is the last one, or it lies in the run before
  rcases List.eq_nil_or_concat rest with rfl | ⟨front, y, rfl⟩
  · obtain ⟨rfl, hlast⟩ := List.append_inj' hx rfl
    cases hlast
    exact he
  · rw [List.concat_eq_append, ← List.cons_append, ← List.append_assoc] at hx
    exact hpast past x front (List.append_inj' hx rfl).1

theorem of_append_one {e : ε} (h : Run step s (es ++ [e]) u) :
    ∃ t, Run step s es t ∧ step t e u := by
  generalize hfs : es ++ [e] = fs at h
  cases h with
  | start => exact absurd hfs (by simp)
  | @next t _ front x hrun hs =>
    obtain ⟨rfl, hx⟩ := List.append_inj' hfs rfl
    cases hx
    exact ⟨t, hrun, hs⟩

variable {σ' ε' : Type} {step' : σ' → ε' → σ' → Prop} {s' t' : σ'} {es' : List ε'}

/-- What two corresponding steps preserve, two runs preserve whose events correspond by `A`; and
what the steps say about the events holds at every place. -/
theorem invariant₂ {R : σ → σ' → Prop} {A B : ε → ε' → Prop} (h : Run step s es t)
    (h' : Run step' s' es' t') (hes : List.Forall₂ A es es') (h0 : R s s')
    (hstep : ∀ {t e u t' e' u'}, R t t' → step t e u → step' t' e' u' → A e e' →
      R u u' ∧ B e e') : R t t' ∧ List.Forall₂ B es es' := by
  induction h generalizing es' t' with
  | start =>
    cases hes
    generalize hfs : ([] : List ε') = fs at h'
    cases h' with
    | start => exact ⟨h0, .nil⟩
    | next => exact absurd hfs (by simp)
  | @next t u es e hrun hs ih =>
    obtain ⟨front, x, rfl, hfront, hx⟩ := forall₂_append_one hes
    obtain ⟨v, hrun', hs'⟩ := h'.of_append_one
    obtain ⟨hR, hB⟩ := ih hrun' hfront
    obtain ⟨hu, hlast⟩ := hstep hR hs hs' hx
    exact ⟨hu, List.rel_append hB (.cons hlast .nil)⟩

end Run

end SlimInterface
