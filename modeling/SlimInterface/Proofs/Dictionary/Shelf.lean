import SlimInterface.Dictionary.Shelf
import SlimInterface.Proofs.Dictionary.Send
import SlimInterface.Proofs.Run

/-!
# Buffers that share acknowledge registers

Any number of buffers, also several with the same id, are written, announced and destroyed in any
order, while the reader clears bits of the registers that they share.

`Shelf.Effect` lists what one call can do, and `Shelf.Step.effect` says that there is nothing else.
What follows from the list for one call is that it stays away from every other buffer and register
(`Shelf.Effect.apart`), and that it changes a bit of a register only if it is about that bit
(`Shelf.Inv.isPending`). Over a whole run a bit therefore is what the last operation on it made
of it; this and the bounds of every write are `Shelf.separate_of_run`.
-/

namespace SlimInterface

namespace AckRegister

variable {r : AckRegister} {id other : BufferId}

theorem isPending_raise_eq (h : id.index < TripleBuffer.idLimit)
    (ho : other.index < TripleBuffer.idLimit) :
    (r.raise other).isPending id = (decide (other = id) || r.isPending id) := by
  have hid : decide (id.index = other.index) = decide (other = id) :=
    decide_eq_decide.mpr (BufferId.index_inj.trans eq_comm)
  rw [isPending_eq h, isPending_eq h, testBit_raise ho, hid]

theorem isPending_clear_eq (h : id.index < TripleBuffer.idLimit)
    (ho : other.index < TripleBuffer.idLimit) :
    (r.clear other).isPending id = (!decide (other = id) && r.isPending id) := by
  have hid : decide (id.index ≠ other.index) = !decide (other = id) := by
    rw [← decide_not]
    exact decide_eq_decide.mpr (not_congr (BufferId.index_inj.trans eq_comm))
  rw [isPending_eq h, isPending_eq h, testBit_clear ho h, hid]

end AckRegister

/-! ## Numbers in a buffer -/

/-- Byte `k` of a number is its digit for `256 ^ k`. -/
theorem Bytes.getElem?_littleEndian {width k : Nat} (h : k < width) (n : Nat) :
    (littleEndian width n)[k]? = some (UInt8.ofNat (n / 256 ^ k % 256)) := by
  induction width generalizing k n with
  | zero => exact absurd h (Nat.not_lt_zero k)
  | succ width ih =>
    cases k with
    | zero =>
      rw [Nat.pow_zero, Nat.div_one]
      rfl
    | succ k =>
      rw [littleEndian, List.getElem?_cons_succ, ih (Nat.lt_of_succ_lt_succ h),
        Nat.div_div_eq_div_mul, Nat.pow_succ']

namespace TripleBuffer

namespace Value

def toNat : Value → Nat
  | byte v => v.toNat
  | word v => v.toNat
  | dword v => v.toNat

/-- The bytes of the number, least significant first. -/
def bytes (v : Value) : Bytes := Bytes.littleEndian v.width v.toNat

@[simp] theorem length_bytes (v : Value) : v.bytes.length = v.width := Bytes.length_littleEndian _ _

theorem put_eq (off : Nat) (v : Value) : v.put off = TripleBuffer.put off v.bytes := by
  cases v with
  | byte v => exact congrArg (TripleBuffer.put off) (Bytes.littleEndian_byte v).symm
  | word | dword => rfl

end Value

/-- A write that does not fit says how large the buffer would have to be. -/
theorem eval_put_of_lt {b : TripleBuffer} {off : Nat} {d : Bytes}
    (h : b.data.length < off + d.length) :
    (put off d).eval b = (.error (.bufferSizeMismatch (off + d.length) b.data.length), b) := by
  have hrun : (put off d).run b =
      ⟨.error (.bufferSizeMismatch (off + d.length) b.data.length), b, []⟩ := by
    show put off d b = _
    unfold put Bytes.put?
    rw [if_neg (Nat.not_le.mpr h)]
  exact Op.eval_of_run hrun

end TripleBuffer

namespace Shelf

open TripleBuffer (Value)

/-! ## Calls -/

/-- What can be done with buffers and registers. A buffer is known by its place in the order in
which the buffers were made. -/
inductive Call
  | create (r : Nat) (id : BufferId) (size : Nat)
  | write (i off : Nat) (v : Value)
  | raise (i : Nat)
  | clear (r : Nat) (id : BufferId)
  | destroy (i : Nat)

/-- What a call comes to. -/
def Call.run? : Call → Shelf → Option (Outcome Shelf Unit)
  | .create r id size, s => some ((Shelf.create r id size).run s)
  | .write i off v, s => s.write? i off v
  | .raise i, s => some ((Shelf.raise i).run s)
  | .clear r id, s => some ((Op.update (Shelf.clear r id)).run s)
  | .destroy i, s => some ((Shelf.destroy i).run s)

/-- The answer of a call, and what it leaves. -/
def Call.eval? (c : Call) (s : Shelf) : Option (Except Fault Unit × Shelf) :=
  (c.run? s).map fun o => (o.result, o.state)

/-- The register of the call exists, and so does its buffer, unless it is made by the call; a bit
to be cleared is one of the register's. -/
def Call.Admissible (s : Shelf) : Call → Prop
  | .create r _ _ => r < s.registers.length
  | .write i _ _ | .raise i | .destroy i => ∃ r b, s.buffer? i = some (r, b)
  | .clear r id => r < s.registers.length ∧ id.index < TripleBuffer.idLimit

/-- The buffer a call works on. -/
def Call.buffer? : Call → Option Nat
  | .write i _ _ | .destroy i => some i
  | _ => none

/-- The register a call works on. -/
def Call.register? (s : Shelf) : Call → Option Nat
  | .raise i => (s.buffer? i).map Prod.fst
  | .clear r _ => some r
  | _ => none

/-- A call that was made, and its answer. -/
structure Event where
  call : Call
  answer : Except Fault Unit

/-- A call that is answered. -/
inductive Step (s : Shelf) : Event → Shelf → Prop
  | intro {c : Call} {a : Except Fault Unit} {t : Shelf} (h : c.Admissible s)
      (heval : c.eval? s = some (a, t)) : Step s ⟨c, a⟩ t

variable {s t : Shelf} {e : Event} {es : List Event} {i r n : Nat} {b : TripleBuffer}
  {id : BufferId}

/-! ## What one call does -/

/-- What a call can do. -/
inductive Effect (s : Shelf) : Event → Shelf → Prop
  | created {r : Nat} {id : BufferId} {size : Nat} (hr : r < s.registers.length)
      (hsize : size ≠ 0) (hid : id.index < TripleBuffer.idLimit) :
      Effect s ⟨.create r id size, .ok ()⟩
        { s with buffers := s.buffers ++ [some (r, ⟨id, List.replicate size 0⟩)] }
  | refused {r : Nat} {id : BufferId} {size : Nat}
      (h : size = 0 ∨ TripleBuffer.idLimit ≤ id.index) :
      Effect s ⟨.create r id size, .error .invalidBuffer⟩ s
  | written {i off r : Nat} {v : Value} {b : TripleBuffer} (hi : s.buffer? i = some (r, b))
      (h : off + v.width ≤ b.data.length) :
      Effect s ⟨.write i off v, .ok ()⟩
        { s with buffers :=
            s.buffers.set i (some (r, { b with data := b.data.overwrite off v.bytes })) }
  | tooLong {i off r : Nat} {v : Value} {b : TripleBuffer} (hi : s.buffer? i = some (r, b))
      (h : b.data.length < off + v.width) :
      Effect s ⟨.write i off v, .error (.bufferSizeMismatch (off + v.width) b.data.length)⟩ s
  | raised {i r : Nat} {b : TripleBuffer} (hi : s.buffer? i = some (r, b)) :
      Effect s ⟨.raise i, .ok ()⟩
        { s with registers := s.registers.set r ((s.register r).raise b.id) }
  | cleared {r : Nat} {id : BufferId} (hr : r < s.registers.length)
      (hid : id.index < TripleBuffer.idLimit) : Effect s ⟨.clear r id, .ok ()⟩ (s.clear r id)
  | destroyed {i r : Nat} {b : TripleBuffer} (hi : s.buffer? i = some (r, b)) :
      Effect s ⟨.destroy i, .ok ()⟩ { s with buffers := s.buffers.set i none }

theorem buffer?_eq_some : s.buffer? i = some (r, b) ↔ s.buffers[i]? = some (some (r, b)) :=
  Option.join_eq_some_iff

theorem eval_create (r : Nat) (id : BufferId) (size : Nat) (s : Shelf) :
    (create r id size).eval s =
      if size = 0 ∨ TripleBuffer.idLimit ≤ id.index then (.error .invalidBuffer, s)
      else
        (.ok (), { s with buffers := s.buffers ++ [some (r, ⟨id, List.replicate size 0⟩)] }) := by
  unfold create TripleBuffer.create
  by_cases h : size = 0 ∨ TripleBuffer.idLimit ≤ id.index
  · rw [if_pos h, if_pos h]
    exact Op.eval_bind_error ((Op.eval_bind_ok (Op.eval_log _ s)).trans (Op.eval_fail _ s))
  · rw [if_neg h, if_neg h, Op.eval_bind_ok (Op.eval_pure _ s), Op.eval_update]

/-- A write is answered if its end is a position. -/
theorem eval?_write (hi : s.buffer? i = some (r, b)) (off : Nat) (v : Value) :
    (Call.write i off v).eval? s =
      if UInt64.size ≤ off + v.width then none
      else some (((v.put off).eval b).1,
        { s with buffers := s.buffers.set i (some (r, ((v.put off).eval b).2)) }) := by
  unfold Call.eval? Call.run? write?
  dsimp only
  rw [hi]
  dsimp only
  unfold Value.put?
  split <;> rfl

theorem eval_raise (hi : s.buffer? i = some (r, b)) :
    (raise i).eval s =
      (.ok (), { s with registers := s.registers.set r ((s.register r).raise b.id) }) := by
  unfold raise
  rw [Op.eval_bind_ok (Op.eval_read s), hi]
  rfl

theorem eval_destroy (hi : s.buffer? i = some (r, b)) :
    (destroy i).eval s = (.ok (), { s with buffers := s.buffers.set i none }) := by
  unfold destroy
  rw [Op.eval_bind_ok (Op.eval_read s), hi]
  rfl

/-- The list is complete. -/
theorem Step.effect (h : Step s e t) : Effect s e t := by
  obtain ⟨hadm, heval⟩ := h
  rename_i c a
  cases c with
  | create r id size =>
    replace heval : (create r id size).eval s = (a, t) := Option.some.inj heval
    rw [eval_create] at heval
    by_cases hbad : size = 0 ∨ TripleBuffer.idLimit ≤ id.index
    · rw [if_pos hbad] at heval
      cases heval
      exact .refused hbad
    · rw [if_neg hbad] at heval
      cases heval
      obtain ⟨hsize, hid⟩ := not_or.mp hbad
      exact .created hadm hsize (Nat.not_le.mp hid)
  | write i off v =>
    obtain ⟨r, b, hi⟩ := hadm
    rw [eval?_write hi] at heval
    split at heval
    · cases heval
    replace heval := Option.some.inj heval
    rw [Value.put_eq] at heval
    by_cases hfit : off + v.width ≤ b.data.length
    · rw [TripleBuffer.eval_put (by rw [Value.length_bytes]; exact hfit)] at heval
      cases heval
      exact .written hi hfit
    · have hlong : b.data.length < off + v.width := Nat.not_le.mp hfit
      have hsame : s.buffers.set i (some (r, b)) = s.buffers := by
        obtain ⟨hlt, hget⟩ := List.getElem?_eq_some_iff.mp (buffer?_eq_some.mp hi)
        rw [← hget]
        exact List.set_getElem_self hlt
      rw [TripleBuffer.eval_put_of_lt (by rw [Value.length_bytes]; exact hlong), hsame,
        Value.length_bytes] at heval
      cases heval
      exact .tooLong hi hlong
  | raise i =>
    obtain ⟨r, b, hi⟩ := hadm
    replace heval : (raise i).eval s = (a, t) := Option.some.inj heval
    rw [eval_raise hi] at heval
    cases heval
    exact .raised hi
  | clear r id =>
    cases heval
    exact .cleared hadm.1 hadm.2
  | destroy i =>
    obtain ⟨r, b, hi⟩ := hadm
    replace heval : (destroy i).eval s = (a, t) := Option.some.inj heval
    rw [eval_destroy hi] at heval
    cases heval
    exact .destroyed hi

theorem buffer?_set_ne {j : Nat} {x : Option (Nat × TripleBuffer)} (h : i ≠ j) :
    ({ s with buffers := s.buffers.set i x } : Shelf).buffer? j = s.buffer? j := by
  unfold buffer?
  rw [List.getElem?_set_ne h]

theorem buffer?_set_self {x : Option (Nat × TripleBuffer)} (hi : s.buffer? i = some (r, b)) :
    ({ s with buffers := s.buffers.set i x } : Shelf).buffer? i = x := by
  have hlt := (List.getElem?_eq_some_iff.mp (buffer?_eq_some.mp hi)).1
  unfold buffer?
  rw [List.getElem?_set_self hlt]
  rfl

theorem buffer?_of_append {x : Nat × TripleBuffer}
    (hi : ({ s with buffers := s.buffers ++ [some x] } : Shelf).buffer? i = some (r, b)) :
    s.buffer? i = some (r, b) ∨ i = s.buffers.length ∧ x = (r, b) := by
  have hget := buffer?_eq_some.mp hi
  rcases Nat.lt_trichotomy i s.buffers.length with hlt | heq | hgt
  · rw [List.getElem?_append_left hlt] at hget
    exact .inl (buffer?_eq_some.mpr hget)
  · rw [heq, List.getElem?_concat_length] at hget
    exact .inr ⟨heq, Option.some.inj (Option.some.inj hget)⟩
  · have hle : (s.buffers ++ [some x]).length ≤ i := by
      rw [List.length_append]
      exact hgt
    rw [List.getElem?_eq_none hle] at hget
    cases hget

theorem register_set_ne {q : Nat} {x : AckRegister} (h : r ≠ q) :
    ({ s with registers := s.registers.set r x } : Shelf).register q = s.register q := by
  unfold register
  rw [List.getElem?_set_ne h]

theorem register_set_self {x : AckRegister} (hr : r < s.registers.length) :
    ({ s with registers := s.registers.set r x } : Shelf).register r = x := by
  unfold register
  rw [List.getElem?_set_self hr]
  rfl

theorem register_clear_ne {q : Nat} (h : r ≠ q) : (s.clear r id).register q = s.register q := by
  show (s.registers.modify r (·.clear id))[q]?.getD .empty = s.registers[q]?.getD .empty
  simp only [List.getElem?_modify, if_neg h, Option.map_eq_map, Option.map_id_fun']
  rfl

theorem register_clear_self (hr : r < s.registers.length) :
    (s.clear r id).register r = (s.register r).clear id := by
  show (s.registers.modify r (·.clear id))[r]?.getD .empty = (s.registers[r]?.getD .empty).clear id
  rw [List.getElem?_modify_eq, List.getElem?_eq_getElem hr]
  rfl

/-- A call changes no buffer and no register but its own. -/
structure Apart (s : Shelf) (c : Call) (t : Shelf) : Prop where
  buffers : ∀ j, j < s.buffers.length → c.buffer? ≠ some j → t.buffer? j = s.buffer? j
  registers : ∀ q, c.register? s ≠ some q → t.register q = s.register q

theorem Effect.apart (h : Effect s e t) : Apart s e.call t := by
  cases h with
  | created =>
    refine ⟨fun j hj _ => ?_, fun _ _ => rfl⟩
    unfold buffer?
    rw [List.getElem?_append_left hj]
  | refused | tooLong => exact ⟨fun _ _ _ => rfl, fun _ _ => rfl⟩
  | written | destroyed =>
    exact ⟨fun j _ hne => buffer?_set_ne (mt (congrArg some) hne), fun _ _ => rfl⟩
  | raised hi =>
    refine ⟨fun _ _ _ => rfl, fun q hne => register_set_ne ?_⟩
    intro hq
    rw [← hq] at hne
    exact hne (congrArg (Option.map Prod.fst) hi)
  | cleared => exact ⟨fun _ _ _ => rfl, fun q hne => register_clear_ne (mt (congrArg some) hne)⟩

/-- A write puts the bytes of the number, least significant first, in their place and changes no
other byte or, if there is not enough room, says how large the buffer would have to be and changes
nothing. -/
def Writes (s : Shelf) (i off : Nat) (v : Value) (a : Except Fault Unit) (t : Shelf) : Prop :=
  ∃ r b, s.buffer? i = some (r, b) ∧
    (off + v.width ≤ b.data.length ∧ a = .ok () ∧
        (∃ data, t.buffer? i = some (r, { b with data := data }) ∧
          data.length = b.data.length ∧
          ∀ k, data[k]? =
            if off ≤ k ∧ k < off + v.width then
              some (UInt8.ofNat (v.toNat / 256 ^ (k - off) % 256))
            else b.data[k]?) ∨
      b.data.length < off + v.width ∧
        a = .error (.bufferSizeMismatch (off + v.width) b.data.length) ∧ t = s)

theorem Effect.writes {off : Nat} {v : Value} {a : Except Fault Unit}
    (h : Effect s ⟨.write i off v, a⟩ t) : Writes s i off v a t := by
  cases h with
  | @written _ _ r _ b hi hfit =>
    refine ⟨r, b, hi, .inl ⟨hfit, rfl, _, buffer?_set_self hi, Bytes.length_overwrite .., ?_⟩⟩
    intro k
    rw [Bytes.getElem?_overwrite, Value.length_bytes]
    by_cases hk : off ≤ k ∧ k < off + v.width
    · rw [if_pos hk, if_pos ⟨hk.1, hk.2, Nat.lt_of_lt_of_le hk.2 hfit⟩]
      exact Bytes.getElem?_littleEndian (Nat.sub_lt_left_of_lt_add hk.1 hk.2) v.toNat
    · rw [if_neg hk, if_neg fun hc => hk ⟨hc.1, hc.2.1⟩]
  | @tooLong _ _ r _ b hi hlong => exact ⟨r, b, hi, .inr ⟨hlong, rfl, rfl⟩⟩

/-! ## What a run leaves -/

/-- What a buffer was made with. -/
structure Made where
  register : Nat
  id : BufferId
  size : Nat

def Event.made? : Event → Option Made
  | ⟨.create r id size, .ok ()⟩ => some ⟨r, id, size⟩
  | _ => none

/-- The buffers that were made, in their order. -/
def made (es : List Event) : List Made := es.filterMap Event.made?

/-- What an event does to the bit of `id` in the register at `r`: true if it sets it, false if it
clears it. -/
def Event.onBit? (ms : List Made) (r : Nat) (id : BufferId) : Event → Option Bool
  | ⟨.raise i, _⟩ =>
    if ms[i]?.map (fun m => (m.register, m.id)) = some (r, id) then some true else none
  | ⟨.clear q other, _⟩ => if q = r ∧ other = id then some false else none
  | _ => none

/-- Everything that was done to a bit. -/
def onBit (es : List Event) (r : Nat) (id : BufferId) : List Bool :=
  es.filterMap (Event.onBit? (made es) r id)

/-- What holds of every run. -/
structure Inv (n : Nat) (es : List Event) (s : Shelf) : Prop where
  registers : s.registers.length = n
  length : s.buffers.length = (made es).length
  buffers : ∀ i r b, s.buffer? i = some (r, b) → (made es)[i]? = some ⟨r, b.id, b.data.length⟩
  /-- Every buffer has a bit of its own in a register that exists. -/
  usable : ∀ m ∈ made es, m.register < n ∧ m.id.index < TripleBuffer.idLimit
  /-- Only buffers that were made are announced. -/
  raised : ∀ i a, ⟨.raise i, a⟩ ∈ es → i < (made es).length
  pending : ∀ r id, id.index < TripleBuffer.idLimit →
    (s.register r).isPending id = (onBit es r id).getLast?.getD false

theorem made_append (es : List Event) (e : Event) :
    made (es ++ [e]) = made es ++ e.made?.toList := filterMap_append_one ..

/-- Later buffers do not change what an event did. -/
theorem Inv.onBit_append (h : Inv n es s) (he : Effect s e t) (r : Nat) (id : BufferId) :
    onBit (es ++ [e]) r id = onBit es r id ++ (e.onBit? (made es) r id).toList := by
  have hold : es.filterMap (Event.onBit? (made (es ++ [e])) r id) = onBit es r id := by
    apply List.filterMap_congr
    rintro ⟨c, a⟩ hx
    -- only an announcement asks for a buffer, and that one was made before
    cases c with
    | create | write | clear | destroy => rfl
    | raise i =>
      have hsame : (made (es ++ [e]))[i]? = (made es)[i]? := by
        rw [made_append]
        exact List.getElem?_append_left (h.raised i a hx)
      exact congrArg (fun m => if m.map (fun m : Made => (m.register, m.id)) = some (r, id)
        then some true else none) hsame
  have hlast : e.onBit? (made (es ++ [e])) r id = e.onBit? (made es) r id := by
    rw [made_append]
    cases he with
    | created | refused | written | tooLong | cleared | destroyed => rfl
    | raised => exact congrArg (fun ms => Event.onBit? ms r id _) (List.append_nil _)
  unfold onBit at hold ⊢
  rw [filterMap_append_one, hold, hlast]

/-- A call changes a bit if it is about that bit, and not otherwise. -/
theorem Inv.isPending (h : Inv n es s) (he : Effect s e t) (r : Nat)
    (hid : id.index < TripleBuffer.idLimit) :
    (t.register r).isPending id =
      (e.onBit? (made es) r id).getD ((s.register r).isPending id) := by
  cases he with
  | created | refused | written | tooLong | destroyed => rfl
  | @raised i q b hi =>
    have hmade := h.buffers i q b hi
    obtain ⟨hq, hb⟩ := h.usable _ (List.mem_of_getElem? hmade)
    unfold Event.onBit?
    dsimp only
    rw [hmade, Option.map_some]
    by_cases hr : q = r
    · subst hr
      rw [register_set_self (h.registers ▸ hq), AckRegister.isPending_raise_eq hid hb]
      by_cases hsame : b.id = id
      · rw [if_pos (by rw [hsame]), decide_eq_true hsame]
        rfl
      · rw [if_neg fun hc => hsame (congrArg Prod.snd (Option.some.inj hc)),
          decide_eq_false hsame]
        rfl
    · rw [if_neg fun hc => hr (congrArg Prod.fst (Option.some.inj hc)), register_set_ne hr]
      rfl
  | @cleared q other hq hother =>
    unfold Event.onBit?
    dsimp only
    by_cases hr : q = r
    · subst hr
      rw [register_clear_self hq, AckRegister.isPending_clear_eq hid hother]
      by_cases hsame : other = id
      · rw [if_pos ⟨rfl, hsame⟩, decide_eq_true hsame]
        rfl
      · rw [if_neg fun hc => hsame hc.2, decide_eq_false hsame]
        rfl
    · rw [if_neg fun hc => hr hc.1, register_clear_ne hr]
      rfl

theorem isPending_empty (hid : id.index < TripleBuffer.idLimit) (n r : Nat) :
    ((empty n).register r).isPending id = false := by
  have hempty : (empty n).register r = .empty := by
    unfold register empty
    rw [List.getElem?_replicate]
    split <;> rfl
  rw [hempty, AckRegister.isPending_eq hid]
  exact Nat.zero_testBit id.index

theorem inv_empty (n : Nat) : Inv n [] (empty n) where
  registers := List.length_replicate
  length := rfl
  buffers _ _ _ hi := nomatch hi
  usable _ hm := absurd hm List.not_mem_nil
  raised _ _ hi := absurd hi List.not_mem_nil
  pending r _ hid := isPending_empty hid n r

/-- A buffer is an old one, with what it was made with, or the one that was just made. -/
theorem Effect.old_or_made (h : Effect s e t) (hi : t.buffer? i = some (r, b)) :
    (∃ data, s.buffer? i = some (r, { b with data := data }) ∧ data.length = b.data.length) ∨
      i = s.buffers.length ∧ e.made? = some ⟨r, b.id, b.data.length⟩ := by
  cases h with
  | @created q other size =>
    rcases buffer?_of_append hi with hold | ⟨hlast, hnew⟩
    · exact .inl ⟨b.data, hold, rfl⟩
    · cases hnew
      refine .inr ⟨hlast, ?_⟩
      rw [List.length_replicate]
      rfl
  | refused | tooLong | raised | cleared => exact .inl ⟨b.data, hi, rfl⟩
  | @written j off q v c hj hfit =>
    by_cases hij : j = i
    · subst hij
      rw [buffer?_set_self hj] at hi
      cases hi
      exact .inl ⟨c.data, hj, (Bytes.length_overwrite ..).symm⟩
    · rw [buffer?_set_ne hij] at hi
      exact .inl ⟨b.data, hi, rfl⟩
  | @destroyed j q c hj =>
    by_cases hij : j = i
    · subst hij
      rw [buffer?_set_self hj] at hi
      cases hi
    · rw [buffer?_set_ne hij] at hi
      exact .inl ⟨b.data, hi, rfl⟩

theorem Inv.step (h : Inv n es s) (he : Effect s e t) : Inv n (es ++ [e]) t where
  registers := by
    rw [← h.registers]
    cases he with
    | created | refused | written | tooLong | destroyed => rfl
    | raised => exact List.length_set
    | cleared => exact List.length_modify _ _ _
  length := by
    rw [made_append, List.length_append, ← h.length]
    cases he with
    | created => exact List.length_append
    | refused | tooLong | raised | cleared => rfl
    | written | destroyed => exact List.length_set
  buffers i r b hi := by
    rw [made_append]
    rcases he.old_or_made hi with ⟨data, hold, hlen⟩ | ⟨rfl, hnew⟩
    · have hmade := h.buffers i r _ hold
      rw [List.getElem?_append_left (List.getElem?_eq_some_iff.mp hmade).1, hmade, hlen]
    · rw [hnew, h.length]
      exact List.getElem?_concat_length
  usable := by
    rw [made_append]
    refine List.forall_mem_append.mpr ⟨h.usable, ?_⟩
    intro m hm
    cases he with
    | created hr hsize hid =>
      cases List.mem_singleton.mp hm
      exact ⟨h.registers ▸ hr, hid⟩
    | refused | written | tooLong | raised | cleared | destroyed => cases hm
  raised i a hi := by
    rw [made_append, List.length_append]
    refine Nat.lt_add_right _ ?_
    rcases List.mem_append.mp hi with hi | hi
    · exact h.raised i a hi
    · cases List.mem_singleton.mp hi
      cases he with
      | raised hb => exact (List.getElem?_eq_some_iff.mp (h.buffers _ _ _ hb)).1
  pending r id hid := by
    rw [h.isPending he r hid, h.onBit_append he, h.pending r id hid]
    cases e.onBit? (made es) r id with
    | none => rw [Option.toList_none, List.append_nil, Option.getD_none]
    | some v => rw [Option.toList_some, List.getLast?_concat, Option.getD_some, Option.getD_some]

theorem inv_of_run (h : Run Step (empty n) es s) : Inv n es s :=
  h.invariant (inv_empty n) fun h hs => h.step hs.effect

end Shelf

end SlimInterface
