import Mathlib.Data.List.DropRight
import Mathlib.Data.List.ReduceOption
import SlimInterface.Proofs.Cycle.Course

/-!
# The slots of the action lists

The actions of a kind are a list that stops growing once it has as many members as the stream has
buffers. `Slots` is how such a list is kept in memory: a table with a fixed number of slots, where
a new action takes the first free slot and the actions are found by going over all of them. As long
as nothing frees a single slot, the taken slots are the first ones (`Slots.put?_front`), and going
over them gives the actions in the order in which they came.

`Course.slots_of_run` follows both through any use of a stream. The table is fed with the
registrations of one kind and the resets only; so what is registered for one kind has no influence
on the other.
-/

namespace SlimInterface

/-! ## Tables -/

/-- A table with a fixed number of slots, each of which is free or taken. -/
abbrev Slots (α : Type) := List (Option α)

namespace Slots

variable {α : Type} {as : List α} {n : Nat}

/-- A table of which every slot is free. -/
def fresh (n : Nat) : Slots α := List.replicate n none

/-- Take the first free slot, if there is one. -/
def put? (a : α) : Slots α → Option (Slots α)
  | [] => none
  | none :: rest => some (some a :: rest)
  | some b :: rest => (put? a rest).map (some b :: ·)

/-- Free every slot. -/
def clear (table : Slots α) : Slots α := table.map fun _ => none

/-- What is in the taken slots, in their order. -/
def filled (table : Slots α) : List α := table.reduceOption

/-- A table of which the first slots are taken. -/
def front (n : Nat) (as : List α) : Slots α := as.map some ++ fresh (n - as.length)

theorem front_nil (n : Nat) : front n ([] : List α) = fresh n := rfl

theorem front_cons (n : Nat) (a : α) (as : List α) :
    front (n + 1) (a :: as) = some a :: front n as := by
  unfold front
  rw [List.map_cons, List.cons_append, List.length_cons, Nat.add_sub_add_right]

theorem length_front (h : as.length ≤ n) : (front n as).length = n := by
  unfold front fresh
  rw [List.length_append, List.length_map, List.length_replicate, Nat.add_sub_cancel' h]

theorem filled_front (n : Nat) (as : List α) : (front n as).filled = as := by
  unfold filled front fresh
  rw [List.reduceOption_append, List.reduceOption_replicate_none, List.append_nil]
  induction as with
  | nil => rfl
  | cons a as ih => rw [List.map_cons, List.reduceOption_cons_of_some, ih]

/-- The first free slot comes right behind the taken ones. -/
theorem put?_front (h : as.length ≤ n) (a : α) :
    (front n as).put? a = if as.length = n then none else some (front n (as ++ [a])) := by
  -- over the taken slots, each of which the search passes
  induction as generalizing n with
  | nil =>
    cases n with
    | zero => rfl
    | succ n => rfl
  | cons b as ih =>
    cases n with
    | zero => exact absurd h (Nat.not_succ_le_zero _)
    | succ n =>
      rw [front_cons, put?, ih (Nat.le_of_succ_le_succ h), List.length_cons, List.cons_append,
        front_cons]
      by_cases hfull : as.length = n
      · rw [if_pos hfull, if_pos (congrArg Nat.succ hfull)]
        rfl
      · rw [if_neg hfull, if_neg (mt Nat.succ.inj hfull)]
        rfl

theorem clear_front (h : as.length ≤ n) : (front n as).clear = fresh n := by
  unfold clear
  rw [List.map_const', length_front h]
  rfl

end Slots

/-! ## The lists of a stream -/

namespace Stream

variable {σ : Type} {s : Stream σ} {kind other : ActionKind} {r : Registration σ}

theorem actions_append_self : (s.append kind r).actions kind = s.actions kind ++ [r] := by
  cases kind <;> rfl

theorem actions_append_ne (h : kind ≠ other) :
    (s.append kind r).actions other = s.actions other := by
  cases kind with
  | pre =>
    cases other with
    | pre => exact absurd rfl h
    | post => rfl
  | post =>
    cases other with
    | pre => rfl
    | post => exact absurd rfl h

theorem descriptors_append : (s.append kind r).descriptors = s.descriptors := by
  cases kind <;> rfl

/-- An action is attached if its buffer exists and its list has room. -/
theorem eval_register_index (kind : ActionKind) (r : Registration σ) (s : Stream σ) :
    (register kind r.buffer r.act).eval s =
      if s.descriptors.length ≤ r.buffer.index then (.error .invalidParameter, s)
      else if s.descriptors.length ≤ (s.actions kind).length then (.error .noFreeActionSlot, s)
      else (.ok (), s.append kind r) := by
  rw [eval_register]
  unfold descriptor?
  simp only [List.getElem?_eq_none_iff]

end Stream

namespace Site

variable {σ : Type} {c : Stream σ} {s t : Site σ}

/-- A registration is refused and changes nothing, or the action comes last in its list. -/
theorem register_cases {kind : ActionKind} {r : Registration σ} {a : Except Fault Unit}
    (h : (onStream (Stream.register kind r.buffer r.act)).eval s = (a, t)) :
    (∃ f, a = .error f ∧ t = s ∧
      (s.stream.descriptors.length ≤ r.buffer.index ∨
        s.stream.descriptors.length ≤ (s.stream.actions kind).length)) ∨
    a = .ok () ∧ t.stream = s.stream.append kind r ∧
      r.buffer.index < s.stream.descriptors.length ∧
      (s.stream.actions kind).length < s.stream.descriptors.length := by
  rw [onStream, Op.eval_within, Stream.eval_register_index] at h
  by_cases hr : s.stream.descriptors.length ≤ r.buffer.index
  · rw [if_pos hr] at h
    cases h
    exact .inl ⟨_, rfl, rfl, .inl hr⟩
  rw [if_neg hr] at h
  by_cases hfull : s.stream.descriptors.length ≤ (s.stream.actions kind).length
  · rw [if_pos hfull] at h
    cases h
    exact .inl ⟨_, rfl, rfl, .inr hfull⟩
  · rw [if_neg hfull] at h
    cases h
    exact .inr ⟨rfl, rfl, Nat.not_le.mp hr, Nat.not_le.mp hfull⟩

/-- The buffers and the actions are those of `c`. -/
def Holds (c : Stream σ) (s : Site σ) : Prop :=
  s.stream.descriptors = c.descriptors ∧ s.stream.actions = c.actions

theorem keeps_holds_onImage (op : Op (Bytes × σ) Unit) : (onImage op).Keeps (Holds c) :=
  fun _ h => h

theorem keeps_holds_processSync : (processSync : Op (Site σ) Unit).Keeps (Holds c) :=
  Op.keeps_read.bind fun _ => (keeps_holds_onImage _).bind fun _ =>
    Op.keeps_read.bind fun _ => keeps_holds_onImage _

theorem keeps_holds_processPost : (processPost : Op (Site σ) Unit).Keeps (Holds c) := by
  refine Op.keeps_read.bind fun s => (keeps_holds_onImage _).bind fun _ => ?_
  cases s.stream.onSync with
  | none => exact Op.keeps_pure _
  | some callback => exact fun _ h => h

/-- The half of a cycle that goes over the actions of a kind. -/
def half : ActionKind → Op (Site σ) Unit
  | .pre => processSync
  | .post => processPost

/-- What is left of that half once the actions have run. -/
def rest (s : Stream σ) : ActionKind → Op (Site σ) Unit
  | .pre => move
  | .post =>
    match s.onSync with
    | none => pure ()
    | some callback =>
      onAround <| Op.reporting
        (fun e => .tagged .error "Stream" ("Synchronous callback failed: " ++ e.message))
        (fun _ => .syncCallbackFailed)
        callback

theorem eval_half (kind : ActionKind) (s : Site σ) :
    (half kind).eval s =
      (onImage (Stream.runActions kind s.stream.descriptors (s.stream.actions kind)) >>= fun _ =>
        rest s.stream kind).eval s := by
  cases kind with
  | pre => exact Op.eval_bind_ok (Op.eval_read s)
  | post => exact Op.eval_bind_ok (Op.eval_read s)

end Site

namespace Course

variable {σ τ : Type} {n : Nat} {ds : List Descriptor} {kind : ActionKind} {s t : Site σ}
  {e : Event σ} {es : List (Event σ)} {as : List (Registration σ)}

/-! ## What is asked for one kind -/

/-- A registration that was accepted for a kind. -/
def Event.accepted? (kind : ActionKind) : Event σ → Option (Registration σ)
  | .register k r (.ok ()) => if k = kind then some r else none
  | _ => none

/-- The event is not a reset. -/
def Event.noReset : Event σ → Bool
  | .reset => false
  | _ => true

/-- What was accepted for a kind since the last reset, oldest first. -/
def accepted (kind : ActionKind) (es : List (Event σ)) : List (Registration σ) :=
  (es.rtakeWhile Event.noReset).filterMap (Event.accepted? kind)

/-- What a table is asked for. -/
inductive Request (σ : Type)
  | register (r : Registration σ)
  | clear

/-- What is asked of the table of a kind. -/
def Event.request? (kind : ActionKind) : Event σ → Option (Request σ)
  | .register k r _ => if k = kind then some (.register r) else none
  | .reset => some .clear
  | _ => none

/-- What is asked of the table of a kind, oldest first. -/
def requests (kind : ActionKind) (es : List (Event σ)) : List (Request σ) :=
  es.filterMap (Event.request? kind)

/-- What a request leaves in a table with a slot for each buffer. -/
def Request.fill (table : Slots (Registration σ)) : Request σ → Slots (Registration σ)
  | .register r => if table.length ≤ r.buffer.index then table else (table.put? r).getD table
  | .clear => table.clear

/-- What all of the requests leave in the table of a stream with `n` buffers. -/
def table (n : Nat) (qs : List (Request σ)) : Slots (Registration σ) :=
  qs.foldl Request.fill (Slots.fresh n)

/-- How such a table answers a registration. -/
def answer (table : Slots (Registration σ)) (r : Registration σ) : Except Fault Unit :=
  if table.length ≤ r.buffer.index then .error .invalidParameter
  else if (table.put? r).isNone then .error .noFreeActionSlot
  else .ok ()

theorem accepted_reset (kind : ActionKind) (es : List (Event σ)) :
    accepted kind (es ++ [.reset]) = [] := by
  unfold accepted
  rw [List.rtakeWhile_concat_neg Event.noReset es .reset Bool.false_ne_true]
  rfl

theorem accepted_append (h : e.noReset = true) :
    accepted kind (es ++ [e]) = accepted kind es ++ (e.accepted? kind).toList := by
  unfold accepted
  rw [List.rtakeWhile_concat_pos Event.noReset es e h, filterMap_append_one]

theorem table_append (n : Nat) (kind : ActionKind) (es : List (Event σ)) (e : Event σ) :
    table n (requests kind (es ++ [e])) =
      (e.request? kind).elim (table n (requests kind es))
        (Request.fill (table n (requests kind es))) := by
  unfold table requests
  rw [filterMap_append_one, List.foldl_append]
  cases e.request? kind <;> rfl

theorem fill_front (h : as.length ≤ n) (r : Registration σ) :
    Request.fill (Slots.front n as) (.register r) =
      if n ≤ r.buffer.index ∨ as.length = n then Slots.front n as
      else Slots.front n (as ++ [r]) := by
  rw [Request.fill, Slots.length_front h, Slots.put?_front h]
  by_cases hr : n ≤ r.buffer.index
  · rw [if_pos hr, if_pos (.inl hr)]
  by_cases hfull : as.length = n
  · rw [if_neg hr, if_pos hfull, if_pos (.inr hfull), Option.getD_none]
  · rw [if_neg hr, if_neg hfull, if_neg (not_or.mpr ⟨hr, hfull⟩), Option.getD_some]

theorem answer_front (h : as.length ≤ n) (r : Registration σ) :
    answer (Slots.front n as) r =
      if n ≤ r.buffer.index then .error .invalidParameter
      else if as.length = n then .error .noFreeActionSlot
      else .ok () := by
  rw [answer, Slots.length_front h, Slots.put?_front h]
  by_cases hfull : as.length = n
  · rw [if_pos hfull, if_pos hfull]
    rfl
  · rw [if_neg hfull, if_neg hfull]
    rfl

/-! ## What one event does to the actions of one kind -/

/-- What an event can do to the actions of a kind in a stream with `n` buffers. -/
inductive Turn (n : Nat) (kind : ActionKind) (as : List (Registration σ)) :
    Event σ → List (Registration σ) → Prop
  | refused {r : Registration σ} {f : Fault} (h : n ≤ r.buffer.index ∨ n ≤ as.length) :
      Turn n kind as (.register kind r (.error f)) as
  | taken {r : Registration σ} (hr : r.buffer.index < n) (hfree : as.length < n) :
      Turn n kind as (.register kind r (.ok ())) (as ++ [r])
  | dropped : Turn n kind as .reset []
  | other {e : Event σ} (hkeep : e.noReset = true) (hquiet : e.request? kind = none)
      (hnone : e.accepted? kind = none) : Turn n kind as e as

theorem Step.turn (h : Step s e t) (kind : ActionKind) :
    t.stream.descriptors = s.stream.descriptors ∧
      Turn s.stream.descriptors.length kind (s.stream.actions kind) e (t.stream.actions kind) := by
  have hother {e : Event σ} {t : Site σ} (hkeep : e.noReset = true)
      (hquiet : e.request? kind = none) (hnone : e.accepted? kind = none)
      (hds : t.stream.descriptors = s.stream.descriptors)
      (hacts : t.stream.actions kind = s.stream.actions kind) :
      t.stream.descriptors = s.stream.descriptors ∧
        Turn s.stream.descriptors.length kind (s.stream.actions kind) e (t.stream.actions kind) :=
    ⟨hds, hacts ▸ .other hkeep hquiet hnone⟩
  cases h with
  | @register k r a _ hk h =>
    obtain ⟨f, rfl, rfl, hfull⟩ | ⟨rfl, ht, hr, hfree⟩ := Site.register_cases h
    · by_cases hkind : k = kind
      · subst hkind
        exact ⟨rfl, .refused hfull⟩
      · exact hother rfl (if_neg hkind) rfl rfl rfl
    · have hds : t.stream.descriptors = s.stream.descriptors := by
        rw [ht, Stream.descriptors_append]
      by_cases hkind : k = kind
      · subst hkind
        refine ⟨hds, ?_⟩
        rw [ht, Stream.actions_append_self]
        exact .taken hr hfree
      · refine hother rfl (if_neg hkind) (if_neg hkind) hds ?_
        rw [ht, Stream.actions_append_ne hkind]
  | reset h =>
    cases h
    cases kind <;> exact ⟨rfl, .dropped⟩
  | callback op => exact hother rfl rfl rfl rfl rfl
  | elsewhere w => exact hother rfl rfl rfl rfl rfl
  | sync h =>
    have hkept := Site.keeps_holds_processSync (c := s.stream) s ⟨rfl, rfl⟩
    rw [h] at hkept
    exact hother rfl rfl rfl hkept.1 (congrFun hkept.2 kind)
  | post h =>
    have hkept := Site.keeps_holds_processPost (c := s.stream) s ⟨rfl, rfl⟩
    rw [h] at hkept
    exact hother rfl rfl rfl hkept.1 (congrFun hkept.2 kind)
  | @edit id op _ _ h =>
    obtain ⟨a, image, hedit, -⟩ := Stream.eval_editBuffer_image id op s.stream
    rw [Site.onStream, Op.eval_within, hedit] at h
    cases h
    exact hother rfl rfl rfl rfl rfl

/-! ## What a run leaves -/

/-- What holds of the actions of a kind after every event. -/
structure Inv (ds : List Descriptor) (kind : ActionKind) (es : List (Event σ)) (s : Site σ) :
    Prop where
  descriptors : s.stream.descriptors = ds
  actions : s.stream.actions kind = accepted kind es
  length_le : (accepted kind es).length ≤ ds.length
  table : table ds.length (requests kind es) = Slots.front ds.length (accepted kind es)

/-- The list and the table take the same turn. -/
theorem Inv.step (h : Inv ds kind es s) (hs : Step s e t) : Inv ds kind (es ++ [e]) t := by
  obtain ⟨rfl, hacts, hle, htable⟩ := h
  obtain ⟨hds, hturn⟩ := hs.turn kind
  rw [hacts] at hturn
  have happend := table_append s.stream.descriptors.length kind es e
  rw [htable] at happend
  generalize hnew : t.stream.actions kind = new at hturn
  cases hturn with
  | @refused r f h =>
    have hsame : accepted kind (es ++ [.register kind r (.error f)]) = accepted kind es :=
      (accepted_append rfl).trans (List.append_nil _)
    refine ⟨hds, hnew.trans hsame.symm, hsame ▸ hle, ?_⟩
    rw [happend, hsame, Event.request?, if_pos rfl, Option.elim_some, fill_front hle]
    rw [if_pos (h.imp_right fun h => Nat.le_antisymm hle h)]
  | @taken r hr hfree =>
    have hlast : accepted kind (es ++ [.register kind r (.ok ())]) = accepted kind es ++ [r] := by
      rw [accepted_append rfl, Event.accepted?, if_pos rfl, Option.toList_some]
    refine ⟨hds, hnew.trans hlast.symm, ?_, ?_⟩
    · rw [hlast, List.length_append]
      exact hfree
    · rw [happend, hlast, Event.request?, if_pos rfl, Option.elim_some, fill_front hle]
      rw [if_neg (not_or.mpr ⟨Nat.not_le.mpr hr, Nat.ne_of_lt hfree⟩)]
  | dropped =>
    have hnil := accepted_reset kind es
    refine ⟨hds, hnew.trans hnil.symm, hnil ▸ Nat.zero_le _, ?_⟩
    rw [happend, hnil, Slots.front_nil]
    exact Slots.clear_front hle
  | other hkeep hquiet hnone =>
    have hsame : accepted kind (es ++ [e]) = accepted kind es := by
      rw [accepted_append hkeep, hnone, Option.toList_none, List.append_nil]
    refine ⟨hds, hnew.trans hsame.symm, hsame ▸ hle, ?_⟩
    rw [happend, hsame, hquiet, Option.elim_none]

theorem inv_of_run {transfer : Transfer σ} {consAck prodAck : BufferId} {first : Stream σ}
    {u v : τ} {w : σ}
    (hcreate : (Stream.create ds transfer consAck prodAck).eval u = (.ok first, v))
    (h : Run Step ⟨first, w⟩ es s) (kind : ActionKind) : Inv ds kind es s := by
  obtain ⟨-, -, -, rfl, -⟩ := Stream.create_eq_ok.mp hcreate
  refine h.invariant (I := Inv ds kind) ⟨rfl, ?_, Nat.zero_le _, rfl⟩ Inv.step
  cases kind <;> rfl

/-- **The action lists.** However a stream was used since it was opened, the actions of a kind are
those that were accepted since the last reset, in this order, and a half of the cycle goes over
them. The next registration is refused if there is no such buffer, and otherwise if as many actions
as there are buffers were accepted, and then nothing changes. A table of slots that knows of the
registrations of this kind and the resets, and of nothing else, has the same actions in it and
gives the same answers. -/
theorem slots_of_run {transfer : Transfer σ} {consAck prodAck : BufferId} {first : Stream σ}
    {u v : τ} {w : σ}
    (hcreate : (Stream.create ds transfer consAck prodAck).eval u = (.ok first, v))
    (h : Run Step ⟨first, w⟩ es s) (kind : ActionKind) :
    s.stream.actions kind = accepted kind es ∧
    (∀ r : Registration σ, (Stream.register kind r.buffer r.act).eval s.stream =
      if ds.length ≤ r.buffer.index then (.error .invalidParameter, s.stream)
      else if (accepted kind es).length = ds.length then (.error .noFreeActionSlot, s.stream)
      else (.ok (), s.stream.append kind r)) ∧
    ((table ds.length (requests kind es)).filled = accepted kind es ∧
      ∀ r : Registration σ, ((Stream.register kind r.buffer r.act).eval s.stream).1 =
        answer (table ds.length (requests kind es)) r) ∧
    (Site.half kind).eval s =
      (Site.onImage (Stream.runActions kind ds (accepted kind es)) >>= fun _ =>
        Site.rest s.stream kind).eval s := by
  obtain ⟨hds, hacts, hle, htable⟩ := inv_of_run hcreate h kind
  have hfull : ds.length ≤ (accepted kind es).length ↔ (accepted kind es).length = ds.length :=
    ⟨fun h => Nat.le_antisymm hle h, fun h => Nat.le_of_eq h.symm⟩
  have hregister (r : Registration σ) := Stream.eval_register_index kind r s.stream
  simp only [hds, hacts, hfull] at hregister
  refine ⟨hacts, hregister, ⟨?_, ?_⟩, ?_⟩
  · rw [htable, Slots.filled_front]
  · intro r
    rw [hregister, htable, answer_front hle]
    split
    · rfl
    split <;> rfl
  · rw [Site.eval_half, hds, hacts]

/-- Four buffers. After a reset the pre-actions are full with four registrations, which does not
stop a post-action; a buffer that does not exist is refused before anything else. -/
theorem slots_of_run_gated :
    let r (n : UInt8) : Registration Nat := ⟨⟨n⟩, bump⟩
    let es : List (Event Nat) := [.register .pre (r 2) (.ok ()), .reset,
      .register .pre (r 3) (.ok ()), .register .pre (r 0) (.ok ()), .register .pre (r 0) (.ok ()),
      .register .pre (r 1) (.ok ()), .register .post (r 4) (.error .invalidParameter),
      .register .post (r 2) (.ok ())]
    ∃ s, Run Step ⟨gated.bare, 0⟩ es s ∧
      s.stream.actions .pre = [r 3, r 0, r 0, r 1] ∧ s.stream.actions .post = [r 2] ∧
      (Stream.register .pre ⟨0⟩ bump).eval s.stream = (.error .noFreeActionSlot, s.stream) ∧
      (Stream.register .pre ⟨4⟩ bump).eval s.stream = (.error .invalidParameter, s.stream) := by
  intro r es
  have hcreate : (Stream.create gated.descriptors gated.transfer gated.consAck
      gated.prodAck).eval () = (.ok gated.bare, ()) := rfl
  have hkeep : bump.KeepsLength := fun _ _ => List.length_map _
  let site (pre post : List (Registration Nat)) : Site Nat :=
    gated.laden ⟨pre, post, none⟩ (gated.bare.image, 0)
  have hreset : Run Step ⟨gated.bare, 0⟩ (es.take 2) (site [] []) :=
    (Run.one (.register hkeep rfl)).next (.reset rfl)
  have htwo : Run Step (site [] []) ((es.drop 2).take 2) (site [r 3, r 0] []) :=
    (Run.one (.register hkeep rfl)).next (.register hkeep rfl)
  have hfour : Run Step (site [r 3, r 0] []) ((es.drop 4).take 2) (site [r 3, r 0, r 0, r 1] []) :=
    (Run.one (.register hkeep rfl)).next (.register hkeep rfl)
  have hposted : Run Step (site [r 3, r 0, r 0, r 1] []) (es.drop 6)
      (site [r 3, r 0, r 0, r 1] [r 2]) :=
    (Run.one (.register hkeep rfl)).next (.register hkeep rfl)
  have hrun : Run Step ⟨gated.bare, 0⟩ es (site [r 3, r 0, r 0, r 1] [r 2]) :=
    ((hreset.trans htwo).trans hfour).trans hposted
  obtain ⟨hpre, hnext, -⟩ := slots_of_run hcreate hrun .pre
  obtain ⟨hpost, -⟩ := slots_of_run hcreate hrun .post
  exact ⟨_, hrun, hpre, hpost, hnext (r 0), hnext (r 4)⟩

end Course

end SlimInterface
