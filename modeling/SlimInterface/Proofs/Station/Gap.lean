import Mathlib.Data.List.Forall2
import Mathlib.Data.Option.Basic
import SlimInterface.Channel.Status
import SlimInterface.Proofs.Cycle.Opening

/-!
# Positions nobody holds

The registers and counters of a bench are known by their positions and by nothing else. A bench may
have a gap, positions that nobody holds; whoever comes after the gap holds a position further back
than it would without. `Stream.Apart` relates a stream to the one with such a gap beside it: every
action has to do the same on either side, with its own positions moved. The actions the channels
attach do (`Bench.mirrors_tick`, `Status.mirrors_timeSyncAction` and the two after it).

Then nothing that can be done with the two stations tells them apart. Each call answers alike and
leaves stations related as before (`Later.Apart.mirrors`), so any sequence of calls has the same
answers on both, and moves the same bytes (`mirrors_play`).
-/

namespace SlimInterface

variable {ω α : Type}

/-! ## Holes in a list -/

/-- Positions of a list. -/
structure Hole where
  start : Nat
  size : Nat

namespace Hole

/-- Where an entry lies once the hole is there. -/
def past (h : Hole) (i : Nat) : Nat := if i < h.start then i else i + h.size

variable {h : Hole} {i j : Nat} {xs ys : List α}

theorem past_of_lt (hi : i < h.start) : h.past i = i := if_pos hi

theorem past_of_le (hi : h.start ≤ i) : h.past i = i + h.size := if_neg (Nat.not_lt.mpr hi)

theorem past_inj : h.past i = h.past j ↔ i = j := by
  unfold past
  split <;> split <;> omega

/-- The second list is the first one with the hole in it. -/
structure Parts (h : Hole) (xs ys : List α) : Prop where
  start_le : h.start ≤ xs.length
  length : ys.length = xs.length + h.size
  getElem? : ∀ i, ys[h.past i]? = xs[i]?

theorem parts_append (xs gap : List α) : Parts ⟨xs.length, gap.length⟩ xs (xs ++ gap) := by
  refine ⟨Nat.le_refl _, List.length_append, fun i => ?_⟩
  by_cases hi : i < xs.length
  · rw [past_of_lt hi, List.getElem?_append_left hi]
  · have hle : xs.length ≤ i := Nat.le_of_not_lt hi
    rw [past_of_le hle, List.getElem?_eq_none hle, List.getElem?_eq_none]
    rw [List.length_append]
    exact Nat.add_le_add_right hle _

theorem Parts.modify (hp : h.Parts xs ys) (i : Nat) (f : α → α) :
    h.Parts (xs.modify i f) (ys.modify (h.past i) f) := by
  refine ⟨?_, ?_, fun j => ?_⟩
  · rw [List.length_modify]
    exact hp.start_le
  · rw [List.length_modify, List.length_modify]
    exact hp.length
  · simp only [List.getElem?_modify, hp.getElem?, past_inj]

/-- A new entry comes last on both sides. -/
theorem Parts.append (hp : h.Parts xs ys) (a : α) : h.Parts (xs ++ [a]) (ys ++ [a]) := by
  refine ⟨?_, ?_, fun i => ?_⟩
  · rw [List.length_append]
    exact Nat.le_add_right_of_le hp.start_le
  · rw [List.length_append, List.length_append, hp.length]
    omega
  by_cases hi : i < xs.length
  · rw [List.getElem?_append_left hi, ← hp.getElem?, List.getElem?_append_left]
    rw [hp.length]
    unfold past
    split <;> omega
  · have hle : xs.length ≤ i := Nat.le_of_not_lt hi
    have hpast := past_of_le (Nat.le_trans hp.start_le hle)
    have hright : ys.length ≤ i + h.size := by
      rw [hp.length]
      exact Nat.add_le_add_right hle _
    rw [List.getElem?_append_right hle, hpast, List.getElem?_append_right hright, hp.length,
      Nat.add_sub_add_right]

end Hole

/-- Positions of a bench that nobody holds. -/
structure Gap where
  registers : Hole
  counters : Hole

namespace Gap

/-- The timer whose counter lies past the gap. -/
def timer (g : Gap) (t : Timer) : Timer := { t with counter := g.counters.past t.counter }

end Gap

/-! ## What happens on a bench -/

namespace Bench

open Op (Mirrors)

variable {g : Gap} {b b' : Bench ω}

/-- The second bench is the first one with the gap in it, and the same world. -/
structure Apart (g : Gap) (b b' : Bench ω) : Prop where
  registers : g.registers.Parts b.registers b'.registers
  counters : g.counters.Parts b.counters b'.counters
  world : b'.world = b.world

/-- The same bytes, beside two benches of which the second has the gap. -/
def ApartBeside (g : Gap) (p q : Bytes × Bench ω) : Prop := q.1 = p.1 ∧ Apart g p.2 q.2

theorem Apart.registersAt (h : Apart g b b') (i : Nat) :
    b'.registersAt (g.registers.past i) = b.registersAt i := by
  unfold Bench.registersAt
  rw [h.registers.getElem?]

theorem mirrors_setRegisters (g : Gap) (i : Nat) (f : Registers → Registers) :
    Mirrors (Apart (ω := ω) g) (Op.update (setRegisters i f))
      (Op.update (setRegisters (g.registers.past i) f)) :=
  Op.mirrors_update fun _ _ h => ⟨h.registers.modify i f, h.counters, h.world⟩

theorem mirrors_onWorld (g : Gap) (op : Op ω α) : Mirrors (Apart g) (onWorld op) (onWorld op) := by
  refine Mirrors.within (T := Eq) ?_ (fun _ _ h => h.world.symm) ?_
  · rintro w _ rfl
    exact ⟨rfl, rfl⟩
  · rintro w _ b b' rfl h
    exact ⟨h.registers, h.counters, rfl⟩

/-- New registers come last on either bench. -/
theorem mirrors_addRegisters (g : Gap) :
    Mirrors (Apart (ω := ω) g) (addRegisters >>= fun _ => pure ())
      (addRegisters >>= fun _ => pure ()) :=
  fun _ _ h => ⟨rfl, h.registers.append .clear, h.counters, h.world⟩

/-- A new timer comes last on either bench. -/
theorem mirrors_addTimer (g : Gap) (threshold : Nat) :
    Mirrors (Apart (ω := ω) g) (addTimer threshold >>= fun _ => pure ())
      (addTimer threshold >>= fun _ => pure ()) :=
  fun _ _ h => ⟨rfl, h.registers, h.counters.append .idle, h.world⟩

theorem mirrors_onFirst (g : Gap) (op : Op Bytes α) :
    Mirrors (ApartBeside (ω := ω) g) op.onFirst op.onFirst := by
  rintro ⟨bytes, b⟩ ⟨_, b'⟩ ⟨rfl, h⟩
  exact ⟨rfl, rfl, h⟩

theorem mirrors_onSecond {op op' : Op (Bench ω) α} (h : Mirrors (Apart g) op op') :
    Mirrors (ApartBeside g) op.onSecond op'.onSecond :=
  h.within (fun _ _ hp => hp.2) fun _ _ _ _ hb hp => ⟨hp.1, hb⟩

theorem mirrors_tick (g : Gap) (t : Timer) :
    Mirrors (ApartBeside (ω := ω) g) (tick t) (tick (g.timer t)) :=
  mirrors_onSecond <| Op.mirrors_update fun _ _ h =>
    ⟨h.registers, h.counters.modify t.counter Counter.increment, h.world⟩

end Bench

namespace Status

open Op (Mirrors)
open Bench (ApartBeside mirrors_onSecond mirrors_setRegisters)

theorem mirrors_timeSyncAction (g : Gap) (i : Nat) (notify : TimeSync ω) :
    Mirrors (ApartBeside g) (timeSyncAction i notify)
      (timeSyncAction (g.registers.past i) notify) := by
  refine Op.mirrors_read_bind ?_
  rintro ⟨bytes, b⟩ ⟨_, b'⟩ ⟨rfl, -⟩
  refine (Op.mirrors_ofExcept _).bind fun low => (Op.mirrors_ofExcept _).bind fun high => ?_
  refine (mirrors_onSecond (mirrors_setRegisters g i _)).bind fun _ => ?_
  exact mirrors_onSecond (Bench.mirrors_onWorld g _).reporting

theorem mirrors_cacheAction (g : Gap) (i : Nat) :
    Mirrors (ApartBeside (ω := ω) g) (cacheAction i) (cacheAction (g.registers.past i)) := by
  refine Op.mirrors_read_bind ?_
  rintro ⟨bytes, b⟩ ⟨_, b'⟩ ⟨rfl, -⟩
  refine (Op.mirrors_ofExcept _).bind fun icc => (Op.mirrors_ofExcept _).bind fun logTx => ?_
  refine (Op.mirrors_ofExcept _).bind fun ssdoTx => ?_
  exact mirrors_onSecond (mirrors_setRegisters g i _)

theorem mirrors_publishAction (g : Gap) (i : Nat) :
    Mirrors (ApartBeside (ω := ω) g) (publishAction i) (publishAction (g.registers.past i)) := by
  refine Op.mirrors_read_bind fun p q h => ?_
  rw [h.2.registersAt]
  exact Bench.mirrors_onFirst g _

end Status

/-! ## What is attached to a stream -/

open Bench (ApartBeside)

/-- Actions on the same buffer that do the same on either side of a gap. -/
structure Registration.Apart (g : Gap) (r r' : Registration (Bench ω)) : Prop where
  buffer : r'.buffer = r.buffer
  act : Op.Mirrors (ApartBeside g) r.act r'.act

/-- The same stream beside two benches, of which the second has the gap. -/
structure Stream.Apart (g : Gap) (s t : Stream (Bench ω)) : Prop where
  descriptors : t.descriptors = s.descriptors
  image : t.image = s.image
  consumer : t.consumer = s.consumer
  producer : t.producer = s.producer
  transfer : ∀ sent, Op.Mirrors (ApartBeside g) (s.transfer sent) (t.transfer sent)
  pre : List.Forall₂ (Registration.Apart g) s.pre t.pre
  post : List.Forall₂ (Registration.Apart g) s.post t.post
  onSync : Option.Rel (Op.Mirrors (Bench.Apart g)) s.onSync t.onSync

/-- Two stations, of which the second has the gap on its bench. -/
structure Station.Apart (g : Gap) (s t : Station ω) : Prop where
  stream : s.stream.Apart g t.stream
  around : s.around.Apart g t.around

namespace Stream

open Op (Mirrors)

variable {g : Gap} {s t : Stream (Bench ω)} {r r' : Registration (Bench ω)}

theorem Apart.actions (h : s.Apart g t) (kind : ActionKind) :
    List.Forall₂ (Registration.Apart g) (s.actions kind) (t.actions kind) := by
  cases kind with
  | pre => exact h.pre
  | post => exact h.post

theorem Apart.withImage (h : s.Apart g t) (image : Bytes) :
    Apart g { s with image } { t with image } :=
  ⟨h.descriptors, rfl, h.consumer, h.producer, h.transfer, h.pre, h.post, h.onSync⟩

theorem Apart.append (h : s.Apart g t) (hr : r.Apart g r') (kind : ActionKind) :
    (s.append kind r).Apart g (t.append kind r') := by
  cases kind with
  | pre =>
    exact ⟨h.descriptors, h.image, h.consumer, h.producer, h.transfer,
      List.rel_append h.pre (.cons hr .nil), h.post, h.onSync⟩
  | post =>
    exact ⟨h.descriptors, h.image, h.consumer, h.producer, h.transfer, h.pre,
      List.rel_append h.post (.cons hr .nil), h.onSync⟩

/-- An action finds a slot on both sides or on neither. -/
theorem mirrors_register (hr : r.Apart g r') (kind : ActionKind) :
    Mirrors (Apart g) (register kind r.buffer r.act) (register kind r'.buffer r'.act) := by
  intro s t h
  have hslots := (h.actions kind).length_eq
  rw [eval_register, eval_register, descriptor?, descriptor?, h.descriptors, ← hslots, hr.buffer]
  split
  · exact ⟨rfl, h⟩
  · split
    · exact ⟨rfl, h⟩
    · have hsame : Registration.Apart g ⟨r.buffer, r.act⟩ ⟨r.buffer, r'.act⟩ := ⟨rfl, hr.act⟩
      exact ⟨rfl, h.append hsame kind⟩

theorem mirrors_reset (g : Gap) : Mirrors (Apart (ω := ω) g) reset reset :=
  (Op.mirrors_update fun _ _ h =>
    ⟨h.descriptors, h.image, h.consumer, h.producer, h.transfer, .nil, .nil, .none⟩).bind
      fun _ => Op.mirrors_log _ _

theorem mirrors_editBuffer (g : Gap) (id : BufferId) (op : Op Bytes Unit) :
    Mirrors (Apart (ω := ω) g) (editBuffer id op) (editBuffer id op) := by
  refine Op.mirrors_read_bind fun s t h => ?_
  rw [descriptor?, descriptor?, h.descriptors]
  cases s.descriptors[id.index]? with
  | none => exact Op.mirrors_fail _
  | some d =>
    refine Mirrors.within (T := Eq) ?_ (fun s t h => congrArg d.span.read h.image.symm) ?_
    · rintro b _ rfl
      exact ⟨rfl, rfl⟩
    · rintro b _ s t rfl h
      rw [h.image]
      exact h.withImage _

theorem mirrors_invoke (hr : r.Apart g r') (kind : ActionKind) (d : Descriptor) :
    Mirrors (ApartBeside g) (invoke kind d r) (invoke kind d r') := by
  refine (hr.act.within ?_ ?_).reporting
  · rintro p q ⟨hbytes, h⟩
    exact ⟨congrArg d.span.read hbytes, h⟩
  · rintro x y p q ⟨hplaced, h⟩ ⟨hbytes, -⟩
    exact ⟨by rw [hplaced, hbytes], h⟩

theorem mirrors_runActions {rs rs' : List (Registration (Bench ω))}
    (h : List.Forall₂ (Registration.Apart g) rs rs') (kind : ActionKind) (ds : List Descriptor) :
    Mirrors (ApartBeside g) (runActions kind ds rs) (runActions kind ds rs') := by
  induction h with
  | nil => exact Op.mirrors_pure ()
  | cons hr _ ih =>
    unfold runActions
    rw [hr.buffer]
    split
    · exact (mirrors_invoke hr kind _).bind fun _ => ih
    · exact (Op.mirrors_pure ()).bind fun _ => ih

end Stream

/-! ## What is done with a station -/

namespace Station

open Op (Mirrors)

variable {g : Gap}

theorem mirrors_onStream {op op' : Op (Stream (Bench ω)) α} (h : Mirrors (Stream.Apart g) op op') :
    Mirrors (Apart g) (Site.onStream op) (Site.onStream op') :=
  h.within (fun _ _ hs => hs.stream) fun _ _ _ _ hstream hs => ⟨hstream, hs.around⟩

theorem mirrors_onBench {op op' : Op (Bench ω) α} (h : Mirrors (Bench.Apart g) op op') :
    Mirrors (Apart g) (onBench op) (onBench op') :=
  h.within (fun _ _ hs => hs.around) fun _ _ _ _ haround hs => ⟨hs.stream, haround⟩

theorem mirrors_onImage {op op' : Op (Bytes × Bench ω) α} (h : Mirrors (ApartBeside g) op op') :
    Mirrors (Apart g) (Site.onImage op) (Site.onImage op') := by
  refine h.within (fun s t hs => ⟨hs.stream.image, hs.around⟩) ?_
  rintro ⟨image, b⟩ ⟨_, b'⟩ s t ⟨rfl, hb⟩ hs
  exact ⟨hs.stream.withImage _, hb⟩

theorem mirrors_move (g : Gap) : Mirrors (Apart (ω := ω) g) Site.move Site.move := by
  refine Op.mirrors_read_bind fun s t hs => ?_
  dsimp only
  rw [hs.stream.consumer, hs.stream.producer, hs.stream.image]
  refine mirrors_onImage (Mirrors.within (hs.stream.transfer _) ?_ ?_).reporting
  · rintro p q ⟨hbytes, h⟩
    exact ⟨congrArg s.stream.consumer.read hbytes, h⟩
  · rintro x y p q ⟨hplaced, h⟩ ⟨hbytes, -⟩
    exact ⟨by rw [hplaced, hbytes], h⟩

theorem mirrors_processSync (g : Gap) :
    Mirrors (Apart (ω := ω) g) Site.processSync Site.processSync := by
  refine Op.mirrors_read_bind fun s t hs => ?_
  rw [hs.stream.descriptors]
  exact (mirrors_onImage (Stream.mirrors_runActions hs.stream.pre .pre _)).bind fun _ =>
    mirrors_move g

theorem mirrors_processPost (g : Gap) :
    Mirrors (Apart (ω := ω) g) Site.processPost Site.processPost := by
  refine Op.mirrors_read_bind fun s t hs => ?_
  rw [hs.stream.descriptors]
  refine (mirrors_onImage (Stream.mirrors_runActions hs.stream.post .post _)).bind fun _ => ?_
  have hcallback := hs.stream.onSync
  generalize s.stream.onSync = mine, t.stream.onSync = other at hcallback
  cases hcallback with
  | none => exact Op.mirrors_pure ()
  | some h => exact mirrors_onBench h.reporting

end Station

/-- What can be done with a station. -/
inductive Later (ω : Type)
  | register (kind : ActionKind) (r : Registration (Bench ω))
  | callback (op : Op (Bench ω) Unit)
  | reset
  /-- Something happens on the bench: registers and timers are put down, a channel is used. -/
  | bench (op : Op (Bench ω) Unit)
  | edit (id : BufferId) (op : Op Bytes Unit)
  | sync
  | post

namespace Later

open Op (Mirrors)

/-- The call. -/
def op : Later ω → Op (Station ω) Unit
  | .register kind r => Site.onStream (Stream.register kind r.buffer r.act)
  | .callback op => Site.onStream (Op.update (Stream.setSyncCallback op))
  | .reset => Site.onStream Stream.reset
  | .bench op => Station.onBench op
  | .edit id op => Site.onStream (Stream.editBuffer id op)
  | .sync => Site.processSync
  | .post => Site.processPost

/-- The same call on either side of a gap. -/
inductive Apart (g : Gap) : Later ω → Later ω → Prop
  | register {kind : ActionKind} {r r' : Registration (Bench ω)} (h : r.Apart g r') :
      Apart g (.register kind r) (.register kind r')
  | callback {op op' : Op (Bench ω) Unit} (h : Mirrors (Bench.Apart g) op op') :
      Apart g (.callback op) (.callback op')
  | reset : Apart g .reset .reset
  | bench {op op' : Op (Bench ω) Unit} (h : Mirrors (Bench.Apart g) op op') :
      Apart g (.bench op) (.bench op')
  | edit (id : BufferId) (op : Op Bytes Unit) : Apart g (.edit id op) (.edit id op)
  | sync : Apart g .sync .sync
  | post : Apart g .post .post

variable {g : Gap} {e e' : Later ω} {es es' : List (Later ω)}

theorem Apart.mirrors (h : Apart g e e') : Mirrors (Station.Apart g) e.op e'.op := by
  cases h with
  | @register kind r r' hr => exact Station.mirrors_onStream (Stream.mirrors_register hr kind)
  | callback hop =>
    refine Station.mirrors_onStream (Op.mirrors_update fun s t h => ?_)
    exact ⟨h.descriptors, h.image, h.consumer, h.producer, h.transfer, h.pre, h.post, .some hop⟩
  | reset => exact Station.mirrors_onStream (Stream.mirrors_reset g)
  | bench hop => exact Station.mirrors_onBench hop
  | edit id op => exact Station.mirrors_onStream (Stream.mirrors_editBuffer g id op)
  | sync => exact Station.mirrors_processSync g
  | post => exact Station.mirrors_processPost g

/-- Make calls one after the other, whatever they answer, and collect the answers. -/
def play : List (Later ω) → Op (Station ω) (List (Except Fault Unit))
  | [] => pure []
  | e :: rest => do
    let a ← Op.attempt e.op
    let answers ← play rest
    pure (a :: answers)

/-- The same calls are answered alike on either side of a gap. -/
theorem mirrors_play (h : List.Forall₂ (Apart g) es es') :
    Mirrors (Station.Apart g) (play es) (play es') := by
  induction h with
  | nil => exact Op.mirrors_pure []
  | cons he _ ih => exact he.mirrors.attempt.bind fun _ => ih.bind fun _ => Op.mirrors_pure _

end Later

end SlimInterface
