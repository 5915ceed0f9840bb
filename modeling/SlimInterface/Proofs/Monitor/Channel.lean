import Mathlib.Data.List.Forall2
import SlimInterface.Monitor.MessageQueue
import SlimInterface.Proofs.Operation

/-!
# Lawful channels

`LawfulChannel` says what both sides rely on: a channel carries its messages first in, first out,
has room for a fixed number of them, refuses one only when it is full or nobody is there to
receive it, and tells the receiver when nobody is there to send. Nothing is said about the
messages of a channel whose receiving end was closed, nor about a channel without any room.
A message queue keeps to this.

On such a channel a snapshot is on its way exactly if there is room for it (`publish?_eq_some`),
and the monitor makes a document of one message after the other (`serve?_append`) until the
publisher is gone (`ends_of_documents`) or the serializer refuses (`ends_of_refused`).
-/

namespace SlimInterface

open BoundedChannel

/-- A channel that is first in, first out, and of a fixed capacity. -/
class LawfulChannel (σ : Type) {α : outParam Type} [BoundedChannel σ α] where
  /-- The messages on their way, and the ends that are there. -/
  queue : σ → MessageQueue α
  queue_bounded {capacity : UInt64} (h : 0 < capacity) :
    queue (bounded capacity) = ⟨capacity.toNat, [], true, true⟩
  trySend_disconnected {c : σ} (x : α) (hr : (queue c).receiver = false) :
    ∃ d, trySend x c = (.disconnected, d) ∧ queue d = queue c
  trySend_full {c : σ} (x : α) (hr : (queue c).receiver = true)
    (hfull : (queue c).capacity ≤ (queue c).waiting.length) :
    ∃ d, trySend x c = (.full, d) ∧ queue d = queue c
  trySend_taken {c : σ} (x : α) (hr : (queue c).receiver = true)
    (hroom : (queue c).waiting.length < (queue c).capacity) :
    ∃ d, trySend x c = (.taken, d) ∧
      queue d = { queue c with waiting := (queue c).waiting ++ [x] }
  receive_message {c : σ} {x : α} {rest : List α} (hr : (queue c).receiver = true)
    (hw : (queue c).waiting = x :: rest) :
    ∃ d, receive c = some (.message x, d) ∧ queue d = { queue c with waiting := rest }
  receive_disconnected {c : σ} (hr : (queue c).receiver = true) (hw : (queue c).waiting = [])
    (hs : (queue c).sender = false) :
    ∃ d, receive c = some (.disconnected, d) ∧ queue d = queue c
  receive_blocked {c : σ} (hr : (queue c).receiver = true) (hw : (queue c).waiting = [])
    (hs : (queue c).sender = true) : receive c = none
  queue_dropSender (c : σ) : queue (dropSender c) = { queue c with sender := false }
  /-- What becomes of the messages that nobody can receive any more is left open. -/
  queue_dropReceiver (c : σ) : ∃ messages,
    queue (dropReceiver c) = { queue c with receiver := false, waiting := messages }

instance {α : Type} : LawfulChannel (MessageQueue α) where
  queue q := q
  queue_bounded _ := rfl
  trySend_disconnected {q} x hr := by
    refine ⟨q, ?_, rfl⟩
    show q.trySend x = _
    unfold MessageQueue.trySend
    rw [hr, if_pos Bool.false_ne_true]
  trySend_full {q} x hr hfull := by
    refine ⟨q, ?_, rfl⟩
    show q.trySend x = _
    unfold MessageQueue.trySend
    rw [if_neg (not_not_intro hr), if_pos hfull]
  trySend_taken {q} x hr hroom := by
    refine ⟨{ q with waiting := q.waiting ++ [x] }, ?_, rfl⟩
    show q.trySend x = _
    unfold MessageQueue.trySend
    rw [if_neg (not_not_intro hr), if_neg (Nat.not_le_of_lt hroom)]
  receive_message {q x rest} _ hw := by
    refine ⟨{ q with waiting := rest }, ?_, rfl⟩
    show q.receive = _
    unfold MessageQueue.receive
    rw [hw]
  receive_disconnected {q} _ hw hs := by
    refine ⟨q, ?_, rfl⟩
    show q.receive = _
    unfold MessageQueue.receive
    rw [hw, hs]
    rfl
  receive_blocked {q} _ hw hs := by
    show q.receive = _
    unfold MessageQueue.receive
    rw [hw, hs]
    rfl
  queue_dropSender _ := rfl
  queue_dropReceiver _ := ⟨[], rfl⟩

namespace MonitorChannel

variable {σ ω ε : Type} [BoundedChannel σ Diagnosis]

/-! ## Counting -/

/-- One more is less only behind the last word. -/
theorem add_one_lt_iff (n : UInt64) : n + 1 < n ↔ n.toNat + 1 = UInt64.size := by
  have hn := n.toNat_lt
  rw [UInt64.lt_iff_toNat_lt, UInt64.toNat_add, UInt64.toNat_one]
  show _ ↔ _ = 2 ^ 64
  omega

theorem toNat_add_one {n : UInt64} (h : n.toNat + 1 ≠ UInt64.size) :
    (n + 1).toNat = n.toNat + 1 := by
  have hn := n.toNat_lt
  have hsize : n.toNat + 1 ≠ 2 ^ 64 := h
  rw [UInt64.toNat_add, UInt64.toNat_one]
  omega

theorem publish?_eq (s : Snapshot) (m : MonitorChannel σ) :
    publish? s m = if ((publish s).eval m).2.dropped < m.dropped then none
      else some ((publish s).run m) := rfl

/-! ## Turns -/

section Turns

variable {serializer : Serializer ε} {sink : String → ω → ω} {duty : Duty σ ω}

theorem serve?_of_goes_on {next : Duty σ ω} (h : turn? serializer sink duty = some (.inl next)) :
    serve? serializer sink duty = serve? serializer sink next := by
  have : Nonempty (Except ε UInt64 × σ × ω) := ⟨.ok duty.1, duty.2⟩
  unfold serve?
  rw [repeatM_eq_of_monadTail, repeatM.body, h]
  rfl

theorem serve?_of_ends {last : Except ε UInt64 × σ × ω}
    (h : turn? serializer sink duty = some (.inr last)) :
    serve? serializer sink duty = some last := by
  have : Nonempty (Except ε UInt64 × σ × ω) := ⟨last⟩
  unfold serve?
  rw [repeatM_eq_of_monadTail, repeatM.body, h]
  rfl

end Turns

/-! ## Messages -/

variable [LawfulChannel σ] {m : MonitorChannel σ}

/-- The messages of a monitor channel, and its ends. -/
def queue (m : MonitorChannel σ) : MessageQueue Diagnosis := LawfulChannel.queue m.channel

/-- The diagnoses that can still be received, oldest first. -/
def waiting (m : MonitorChannel σ) : List Diagnosis :=
  if m.queue.receiver then m.queue.waiting else []

/-- There is room for a message, and somebody to receive it. -/
def Open (m : MonitorChannel σ) : Prop :=
  m.queue.receiver = true ∧ m.queue.waiting.length < m.queue.capacity

instance (m : MonitorChannel σ) : Decidable m.Open := inferInstanceAs (Decidable (_ ∧ _))

theorem waiting_of_receiver (hr : m.queue.receiver = true) : m.waiting = m.queue.waiting :=
  if_pos hr

theorem waiting_of_closed (hr : m.queue.receiver = false) : m.waiting = [] :=
  if_neg (by rw [hr]; exact Bool.false_ne_true)

/-! ## Publishing -/

theorem eval_publish_of_open (s : Snapshot) (h : m.Open) :
    ∃ c, (publish s).eval m = (.ok true, { m with channel := c }) ∧
      LawfulChannel.queue c = { m.queue with waiting := m.queue.waiting ++ [s.diagnosis] } := by
  obtain ⟨c, hsend, hc⟩ := LawfulChannel.trySend_taken s.diagnosis h.1 h.2
  refine ⟨c, ?_, hc⟩
  unfold publish
  rw [Op.eval_bind_ok (Op.eval_read _), hsend]
  rfl

theorem eval_publish_of_not_open (s : Snapshot) (h : ¬ m.Open) :
    ∃ c, (publish s).eval m = (.ok false, ⟨c, m.dropped + 1⟩) ∧
      LawfulChannel.queue c = m.queue := by
  cases hr : m.queue.receiver with
  | false =>
    obtain ⟨c, hsend, hc⟩ := LawfulChannel.trySend_disconnected s.diagnosis hr
    refine ⟨c, ?_, hc⟩
    unfold publish
    rw [Op.eval_bind_ok (Op.eval_read _), hsend]
    rfl
  | true =>
    obtain ⟨c, hsend, hc⟩ := LawfulChannel.trySend_full s.diagnosis hr
      (Nat.le_of_not_lt fun hroom => h ⟨hr, hroom⟩)
    refine ⟨c, ?_, hc⟩
    unfold publish
    rw [Op.eval_bind_ok (Op.eval_read _), hsend]
    rfl

/-- Publishing gives no answer only if a snapshot is dropped that cannot be counted. -/
theorem publish?_eq_none_iff (s : Snapshot) :
    publish? s m = none ↔ ¬ m.Open ∧ m.dropped.toNat + 1 = UInt64.size := by
  rw [publish?_eq, ite_eq_left_iff, imp_iff_not_or, not_not, or_iff_left (Option.some_ne_none _)]
  by_cases hopen : m.Open
  · obtain ⟨c, hc, -⟩ := eval_publish_of_open s hopen
    rw [hc]
    exact ⟨fun h => absurd h (UInt64.lt_irrefl _), fun h => absurd hopen h.1⟩
  · obtain ⟨c, hc, -⟩ := eval_publish_of_not_open s hopen
    rw [hc, ← add_one_lt_iff]
    exact ⟨fun h => ⟨hopen, h⟩, fun h => h.2⟩

/-- What an answer says, and what it leaves. -/
theorem publish?_eq_some {s : Snapshot} {o : Outcome (MonitorChannel σ) Bool}
    (h : publish? s m = some o) :
    (m.Open ∧ o.result = .ok true ∧ o.state.dropped = m.dropped ∧
      o.state.queue = { m.queue with waiting := m.queue.waiting ++ [s.diagnosis] }) ∨
    (¬ m.Open ∧ o.result = .ok false ∧ o.state.dropped.toNat = m.dropped.toNat + 1 ∧
      o.state.queue = m.queue) := by
  have hlast : ¬ (¬ m.Open ∧ m.dropped.toNat + 1 = UInt64.size) := by
    rw [← publish?_eq_none_iff s, h]
    exact fun he => by cases he
  have ho : (publish s).eval m = (o.result, o.state) := by
    rw [publish?_eq] at h
    split at h
    · cases h
    · cases h
      rfl
  by_cases hopen : m.Open
  · obtain ⟨c, hc, hqueue⟩ := eval_publish_of_open s hopen
    obtain ⟨hresult, hstate⟩ := Prod.mk.inj (ho.symm.trans hc)
    rw [hresult, hstate]
    exact .inl ⟨hopen, rfl, rfl, hqueue⟩
  · obtain ⟨c, hc, hqueue⟩ := eval_publish_of_not_open s hopen
    obtain ⟨hresult, hstate⟩ := Prod.mk.inj (ho.symm.trans hc)
    rw [hresult, hstate]
    exact .inr ⟨hopen, rfl, toNat_add_one fun hsize => hlast ⟨hopen, hsize⟩, hqueue⟩

/-! ## Receiving -/

/-- Receiving waits for a message as long as somebody is there to send one. -/
theorem receive_eq_none_iff (hr : m.queue.receiver = true) :
    receive m.channel = none ↔ m.waiting = [] ∧ m.queue.sender = true := by
  rw [waiting_of_receiver hr]
  cases hw : m.queue.waiting with
  | cons d rest =>
    obtain ⟨c, hmessage, -⟩ := LawfulChannel.receive_message hr hw
    rw [hmessage]
    exact ⟨fun he => (nomatch he), fun he => (nomatch he.1)⟩
  | nil =>
    cases hs : m.queue.sender with
    | false =>
      obtain ⟨c, hend, -⟩ := LawfulChannel.receive_disconnected hr hw hs
      rw [hend]
      exact ⟨fun he => (nomatch he), fun he => (nomatch he.2)⟩
    | true => exact ⟨fun _ => ⟨rfl, rfl⟩, fun _ => LawfulChannel.receive_blocked hr hw hs⟩

/-! ## The monitor -/

variable {serializer : Serializer ε} {ds rest : List Diagnosis} {docs : List String} {c : σ}

/-- The documents that the serializer makes of diagnoses. -/
def Documents (serializer : Serializer ε) (ds : List Diagnosis) (docs : List String) : Prop :=
  List.Forall₂ (fun d doc => d.document serializer = .ok doc) ds docs

theorem exists_documents (h : ∀ d ∈ ds, ∃ doc, d.document serializer = .ok doc) :
    ∃ docs, Documents serializer ds docs := by
  induction ds with
  | nil => exact ⟨[], .nil⟩
  | cons d ds ih =>
    obtain ⟨doc, hdoc⟩ := h d List.mem_cons_self
    obtain ⟨docs, hdocs⟩ := ih fun d hd => h d (List.mem_cons_of_mem _ hd)
    exact ⟨doc :: docs, .cons hdoc hdocs⟩

/-- The monitor hands on the documents of the first messages, and goes on behind them. -/
theorem serve?_append (hdocs : Documents serializer ds docs) (sink : String → ω → ω)
    {handled : UInt64} (w : ω) (hr : (LawfulChannel.queue c).receiver = true)
    (hw : (LawfulChannel.queue c).waiting = ds ++ rest)
    (hfit : handled.toNat + docs.length < UInt64.size) :
    ∃ d handled', LawfulChannel.queue d = { LawfulChannel.queue c with waiting := rest } ∧
      handled'.toNat = handled.toNat + docs.length ∧
      serve? serializer sink (handled, c, w) =
        serve? serializer sink (handled', d, docs.foldl (fun w doc => sink doc w) w) := by
  induction hdocs generalizing c handled w with
  | nil => exact ⟨c, handled, by rw [← show _ = rest from hw], rfl, rfl⟩
  | @cons x doc ds docs hdoc _ ih =>
    rw [List.length_cons] at hfit
    obtain ⟨d, hreceive, hd⟩ := LawfulChannel.receive_message hr hw
    have hmore : handled.toNat + 1 ≠ UInt64.size := by omega
    have hnext := toNat_add_one hmore
    obtain ⟨e, handled', he, hhandled, hserve⟩ :=
      @ih d (handled + 1) (sink doc w) (by rw [hd]; exact hr) (by rw [hd]; rfl) (by omega)
    refine ⟨e, handled', by rw [he, hd], ?_, ?_⟩
    · rw [hhandled, hnext, List.length_cons]
      omega
    · have hturn : turn? serializer sink (handled, c, w) =
          some (.inl (handled + 1, d, sink doc w)) := by
        unfold turn?
        dsimp only
        rw [hreceive]
        dsimp only
        rw [hdoc]
        dsimp only
        rw [if_neg fun hlt => hmore ((add_one_lt_iff _).mp hlt)]
      rw [serve?_of_goes_on hturn, hserve]
      rfl

/-- From the beginning, it has counted these documents by then. -/
theorem serve?_documents (hdocs : Documents serializer ds docs) (sink : String → ω → ω) (w : ω)
    (hr : (LawfulChannel.queue c).receiver = true)
    (hw : (LawfulChannel.queue c).waiting = ds ++ rest) (hfit : ds.length < UInt64.size) :
    ∃ d, LawfulChannel.queue d = { LawfulChannel.queue c with waiting := rest } ∧
      serve? serializer sink (0, c, w) = serve? serializer sink
        (UInt64.ofNat docs.length, d, docs.foldl (fun w doc => sink doc w) w) := by
  rw [hdocs.length_eq] at hfit
  have hnone : (0 : UInt64).toNat + docs.length < UInt64.size := by
    rw [UInt64.toNat_zero, Nat.zero_add]
    exact hfit
  obtain ⟨d, handled, hd, hhandled, hserve⟩ := serve?_append hdocs sink w hr hw hnone
  have hcount : handled = UInt64.ofNat docs.length := by
    rw [← UInt64.toNat_inj, hhandled, UInt64.toNat_zero, Nat.zero_add,
      UInt64.toNat_ofNat_of_lt' hfit]
  rw [hcount] at hserve
  exact ⟨d, hd, hserve⟩

/-- The monitor hands on these documents, each once and in order, answers so, and closes the
receiving end. -/
def Ends (serializer : Serializer ε) (c : σ) (docs : List String) (answer : Except ε UInt64) :
    Prop :=
  ∀ {ω : Type} (sink : String → ω → ω) (w : ω), ∃ o, monitor? serializer sink c w = some o ∧
    o.result = .ok answer ∧ o.state.2 = docs.foldl (fun w doc => sink doc w) w ∧
      (LawfulChannel.queue o.state.1).receiver = false

theorem ends_of_serve? {answer : Except ε UInt64}
    (h : ∀ {ω : Type} (sink : String → ω → ω) (w : ω), ∃ d,
      serve? serializer sink (0, c, w) =
        some (answer, d, docs.foldl (fun w doc => sink doc w) w)) :
    Ends serializer c docs answer := by
  intro ω sink w
  obtain ⟨d, hserve⟩ := h sink w
  obtain ⟨messages, hclosed⟩ := LawfulChannel.queue_dropReceiver d
  refine ⟨_, by rw [monitor?, hserve]; rfl, rfl, rfl, ?_⟩
  rw [hclosed]

/-- If the serializer refuses no diagnosis, the monitor counts them all. -/
theorem ends_of_documents (hdocs : Documents serializer ds docs)
    (hr : (LawfulChannel.queue c).receiver = true) (hs : (LawfulChannel.queue c).sender = false)
    (hw : (LawfulChannel.queue c).waiting = ds) (hfit : ds.length < UInt64.size) :
    ∃ handled : UInt64, handled.toNat = docs.length ∧ Ends serializer c docs (.ok handled) := by
  have hlen : docs.length < UInt64.size := hdocs.length_eq ▸ hfit
  refine ⟨UInt64.ofNat docs.length, UInt64.toNat_ofNat_of_lt' hlen, ends_of_serve? ?_⟩
  intro ω sink w
  have hall : (LawfulChannel.queue c).waiting = ds ++ [] := by rw [hw, List.append_nil]
  obtain ⟨d, hd, hserve⟩ := serve?_documents hdocs sink w hr hall hfit
  obtain ⟨e, hreceive, -⟩ := LawfulChannel.receive_disconnected (c := d) (by rw [hd]; exact hr)
    (by rw [hd]) (by rw [hd]; exact hs)
  refine ⟨e, hserve.trans (serve?_of_ends ?_)⟩
  unfold turn?
  dsimp only
  rw [hreceive]

/-- Otherwise it ends with the first one that is refused. -/
theorem ends_of_refused {d : Diagnosis} {error : ε} (hdocs : Documents serializer ds docs)
    (hd : d.document serializer = .error error)
    (hr : (LawfulChannel.queue c).receiver = true)
    (hw : (LawfulChannel.queue c).waiting = ds ++ d :: rest) (hfit : ds.length < UInt64.size) :
    Ends serializer c docs (.error error) := by
  refine ends_of_serve? ?_
  intro ω sink w
  obtain ⟨e, he, hserve⟩ := serve?_documents hdocs sink w hr hw hfit
  obtain ⟨f, hreceive, -⟩ := LawfulChannel.receive_message (c := e) (by rw [he]; exact hr)
    (by rw [he])
  refine ⟨f, hserve.trans (serve?_of_ends ?_)⟩
  unfold turn?
  dsimp only
  rw [hreceive]
  dsimp only
  rw [hd]

end MonitorChannel

end SlimInterface
