import SlimInterface.Monitor.Json
import SlimInterface.Proofs.Monitor.Channel
import SlimInterface.Proofs.Run

/-!
# The balance of a monitor channel

A snapshot that is published is either put on its way or dropped and counted. What is on its way
leaves in the order it came: the receiving end takes it, or it is lost when that end is closed.
`Balanced` says so of the channel after any events, and every step keeps it.

Once the publisher is gone, the monitor makes a document of every snapshot that was put on its way
and not yet received, and of no other. `Accounted` is what both sides see of that, on any channel
that is first in, first out, and `balanced_of_run` says that it holds after any events.
-/

namespace SlimInterface

namespace MonitorChannel

variable {σ : Type} [BoundedChannel σ Diagnosis] [LawfulChannel σ] {m n : MonitorChannel σ}

/-! ## Runs -/

/-- What happens to a monitor channel. -/
inductive Event
  /-- A snapshot is published; it is on its way, or it was dropped. -/
  | publish (s : Snapshot) (onItsWay : Bool)
  | receive (answer : Receipt Diagnosis)
  /-- The receiving end is closed, and with it what was still waiting is lost. -/
  | dropReceiver (waiting : List Diagnosis)
  | dropPublisher

/-- The steps of both ends. An end that was dropped takes no more, and a call that gives no answer
is no step. -/
inductive Step (m : MonitorChannel σ) : Event → MonitorChannel σ → Prop
  | publish {s : Snapshot} {onItsWay : Bool} {o : Outcome (MonitorChannel σ) Bool}
      (hp : m.queue.sender = true) (h : publish? s m = some o) (hr : o.result = .ok onItsWay) :
      Step m (.publish s onItsWay) o.state
  | receive {answer : Receipt Diagnosis} {c : σ} (hr : m.queue.receiver = true)
      (h : BoundedChannel.receive m.channel = some (answer, c)) :
      Step m (.receive answer) { m with channel := c }
  | dropReceiver (hr : m.queue.receiver = true) :
      Step m (.dropReceiver m.waiting) { m with channel := BoundedChannel.dropReceiver m.channel }
  | dropPublisher (hp : m.queue.sender = true) :
      Step m .dropPublisher { m with channel := BoundedChannel.dropSender m.channel }

namespace Event

/-- A snapshot that was put on its way. -/
def accepted? : Event → Option Snapshot
  | publish s true => some s
  | _ => none

/-- A snapshot that was dropped instead. -/
def dropped? : Event → Option Snapshot
  | publish s false => some s
  | _ => none

/-- A diagnosis that was received. -/
def received? : Event → Option Diagnosis
  | receive (.message d) => some d
  | _ => none

/-- The diagnoses that were lost on their way. -/
def lost : Event → List Diagnosis
  | dropReceiver waiting => waiting
  | _ => []

end Event

/-- The snapshots that were put on their way, oldest first. -/
def accepted (es : List Event) : List Snapshot := es.filterMap Event.accepted?

/-- The snapshots that were dropped instead, oldest first. -/
def refused (es : List Event) : List Snapshot := es.filterMap Event.dropped?

/-- The diagnoses that were received, oldest first. -/
def received (es : List Event) : List Diagnosis := es.filterMap Event.received?

/-- The diagnoses that were on their way when the receiving end was closed. -/
def lost (es : List Event) : List Diagnosis := es.flatMap Event.lost

theorem accepted_append (es : List Event) (e : Event) :
    accepted (es ++ [e]) = accepted es ++ e.accepted?.toList :=
  filterMap_append_one _ es e

theorem refused_append (es : List Event) (e : Event) :
    refused (es ++ [e]) = refused es ++ e.dropped?.toList :=
  filterMap_append_one _ es e

theorem received_append (es : List Event) (e : Event) :
    received (es ++ [e]) = received es ++ e.received?.toList :=
  filterMap_append_one _ es e

theorem lost_append (es : List Event) (e : Event) : lost (es ++ [e]) = lost es ++ e.lost := by
  unfold lost
  rw [List.flatMap_append, List.flatMap_singleton]

/-! ## The balance -/

/-- What holds of a channel that was created with a capacity, after the events `es`. -/
structure Balanced (capacity : UInt64) (es : List Event) (m : MonitorChannel σ) : Prop where
  capacity_eq : m.queue.capacity = (max capacity 1).toNat
  accounted : (accepted es).map Snapshot.diagnosis = received es ++ (lost es ++ m.waiting)
  dropped_eq : m.dropped.toNat = (refused es).length
  /-- As long as the receiving end is open nothing is lost. -/
  kept : m.queue.receiver = true → lost es = []
  bounded : (lost es ++ m.waiting).length ≤ (max capacity 1).toNat

variable {capacity : UInt64} {es : List Event} {e : Event}

/-- There is room for one snapshot at least. -/
theorem max_one_pos (capacity : UInt64) : 0 < max capacity 1 := by
  show 0 < if capacity ≤ 1 then 1 else capacity
  split
  next => decide
  next h => exact UInt64.lt_trans (by decide) (UInt64.not_le.mp h)

theorem balanced_create (capacity : UInt64) :
    Balanced capacity [] (create capacity : MonitorChannel σ) := by
  have hqueue : (create capacity : MonitorChannel σ).queue =
      ⟨(max capacity 1).toNat, [], true, true⟩ :=
    LawfulChannel.queue_bounded (max_one_pos capacity)
  have hwaiting : (create capacity : MonitorChannel σ).waiting = [] := by
    rw [waiting_of_receiver (by rw [hqueue]), hqueue]
  refine ⟨by rw [hqueue], ?_, rfl, fun _ => rfl, ?_⟩
  · rw [hwaiting]
    rfl
  · rw [hwaiting]
    exact Nat.zero_le _

/-- An event that puts nothing on its way and takes nothing from it changes none of the lists. -/
theorem Balanced.quiet (h : Balanced capacity es m) (ha : e.accepted? = none)
    (hr : e.received? = none) (hl : e.lost = []) (hcapacity : n.queue.capacity = m.queue.capacity)
    (hwaiting : n.queue.waiting = m.queue.waiting)
    (hreceiver : n.queue.receiver = m.queue.receiver)
    (hdropped : n.dropped.toNat = m.dropped.toNat + e.dropped?.toList.length) :
    Balanced capacity (es ++ [e]) n := by
  obtain ⟨hcap, haccounted, hcount, hkept, hbounded⟩ := h
  have hlost : lost (es ++ [e]) = lost es := by rw [lost_append, hl, List.append_nil]
  have hsame : n.waiting = m.waiting := by
    unfold waiting
    rw [hwaiting, hreceiver]
  refine ⟨hcapacity.trans hcap, ?_, ?_, ?_, ?_⟩
  · rw [accepted_append, received_append, ha, hr, hlost, hsame, Option.toList_none,
      List.append_nil, Option.toList_none, List.append_nil]
    exact haccounted
  · rw [refused_append, List.length_append, hdropped, hcount]
  · rw [hreceiver, hlost]
    exact hkept
  · rw [hlost, hsame]
    exact hbounded

/-- A snapshot that is put on its way waits behind the others. -/
theorem Balanced.put (h : Balanced capacity es m) (hopen : m.Open) (s : Snapshot)
    (hqueue : n.queue = { m.queue with waiting := m.queue.waiting ++ [s.diagnosis] })
    (hdropped : n.dropped = m.dropped) : Balanced capacity (es ++ [.publish s true]) n := by
  obtain ⟨hr, hroom⟩ := hopen
  have hlost : lost (es ++ [.publish s true]) = [] := by
    rw [lost_append, h.kept hr]
    rfl
  have hwaiting : n.waiting = m.waiting ++ [s.diagnosis] := by
    rw [waiting_of_receiver (m := n) (by rw [hqueue]; exact hr), waiting_of_receiver hr, hqueue]
  refine ⟨by rw [hqueue]; exact h.capacity_eq, ?_, ?_, fun _ => hlost, ?_⟩
  · rw [accepted_append, received_append, hlost, List.map_append, h.accounted, h.kept hr, hwaiting]
    show received es ++ m.waiting ++ [s.diagnosis] =
      received es ++ [] ++ (m.waiting ++ [s.diagnosis])
    rw [List.append_nil, List.append_assoc]
  · rw [refused_append, hdropped, h.dropped_eq]
    exact congrArg List.length (List.append_nil _).symm
  · rw [hlost, hwaiting, List.nil_append, List.length_append, waiting_of_receiver hr,
      ← h.capacity_eq]
    exact hroom

/-- The oldest one is received, and the others still wait. -/
theorem Balanced.receive {d : Diagnosis} {rest : List Diagnosis} (h : Balanced capacity es m)
    (hr : m.queue.receiver = true) (hw : m.queue.waiting = d :: rest)
    (hqueue : n.queue = { m.queue with waiting := rest }) (hdropped : n.dropped = m.dropped) :
    Balanced capacity (es ++ [.receive (.message d)]) n := by
  have hlost : lost (es ++ [.receive (.message d)]) = [] := by
    rw [lost_append, h.kept hr]
    rfl
  have hwaiting : n.waiting = rest := by
    rw [waiting_of_receiver (m := n) (by rw [hqueue]; exact hr), hqueue]
  have hbefore : m.waiting = d :: n.waiting := by rw [waiting_of_receiver hr, hw, hwaiting]
  refine ⟨by rw [hqueue]; exact h.capacity_eq, ?_, ?_, fun _ => hlost, ?_⟩
  · rw [accepted_append, received_append, hlost, List.map_append, h.accounted, h.kept hr, hbefore]
    show received es ++ d :: n.waiting ++ [] = received es ++ [d] ++ n.waiting
    rw [List.append_nil, List.append_assoc, List.singleton_append]
  · rw [refused_append, hdropped, h.dropped_eq]
    exact congrArg List.length (List.append_nil _).symm
  · have hbounded := h.bounded
    rw [h.kept hr, List.nil_append, hbefore, List.length_cons] at hbounded
    rw [hlost, List.nil_append]
    exact Nat.le_of_succ_le hbounded

/-- With the receiving end what was waiting is lost. -/
theorem Balanced.close (h : Balanced capacity es m) (hr : m.queue.receiver = true)
    (hcapacity : n.queue.capacity = m.queue.capacity) (hclosed : n.queue.receiver = false)
    (hdropped : n.dropped = m.dropped) :
    Balanced capacity (es ++ [.dropReceiver m.waiting]) n := by
  have hlost : lost (es ++ [.dropReceiver m.waiting]) = m.waiting := by
    rw [lost_append, h.kept hr]
    rfl
  have hwaiting : n.waiting = [] := waiting_of_closed hclosed
  refine ⟨hcapacity.trans h.capacity_eq, ?_, ?_, fun hopen => ?_, ?_⟩
  · rw [accepted_append, received_append, hlost, List.map_append, h.accounted, h.kept hr, hwaiting]
    show received es ++ m.waiting ++ [] = received es ++ [] ++ (m.waiting ++ [])
    rw [List.append_nil, List.append_nil, List.append_nil]
  · rw [refused_append, hdropped, h.dropped_eq]
    exact congrArg List.length (List.append_nil _).symm
  · exact absurd (hopen.symm.trans hclosed) (by decide)
  · have hbounded := h.bounded
    rw [h.kept hr, List.nil_append] at hbounded
    rw [hlost, hwaiting, List.append_nil]
    exact hbounded

/-- Every event keeps the balance. -/
theorem Balanced.step (h : Balanced capacity es m) (hs : Step m e n) :
    Balanced capacity (es ++ [e]) n := by
  cases hs with
  | @publish s onItsWay o hp hpublish hresult =>
    rcases publish?_eq_some hpublish with ⟨hopen, hok, hdropped, hqueue⟩ |
      ⟨-, hok, hdropped, hqueue⟩
    · cases hok.symm.trans hresult
      exact h.put hopen s hqueue hdropped
    · cases hok.symm.trans hresult
      exact h.quiet rfl rfl rfl (by rw [hqueue]) (by rw [hqueue]) (by rw [hqueue]) hdropped
  | @receive answer c hr hreceive =>
    cases hw : m.queue.waiting with
    | cons d rest =>
      obtain ⟨c', hmessage, hc⟩ := LawfulChannel.receive_message hr hw
      cases hmessage.symm.trans hreceive
      exact h.receive hr hw hc rfl
    | nil =>
      cases hp : m.queue.sender with
      | false =>
        obtain ⟨c', hend, hc⟩ := LawfulChannel.receive_disconnected hr hw hp
        cases hend.symm.trans hreceive
        have hqueue : ({ m with channel := c } : MonitorChannel σ).queue = m.queue := hc
        exact h.quiet rfl rfl rfl (by rw [hqueue]) (by rw [hqueue]) (by rw [hqueue]) rfl
      | true => cases (LawfulChannel.receive_blocked hr hw hp).symm.trans hreceive
  | dropReceiver hr =>
    obtain ⟨messages, hqueue⟩ := LawfulChannel.queue_dropReceiver m.channel
    exact h.close hr (by unfold queue; rw [hqueue]) (by unfold queue; rw [hqueue]) rfl
  | dropPublisher hp =>
    have hqueue := LawfulChannel.queue_dropSender m.channel
    exact h.quiet rfl rfl rfl (by unfold queue; rw [hqueue]) (by unfold queue; rw [hqueue])
      (by unfold queue; rw [hqueue]) rfl

/-! ## The accounts -/

/-- What both sides find after the events `es`. -/
structure Accounted (capacity : UInt64) (es : List Event) (m : MonitorChannel σ) : Prop where
  /-- A snapshot is on its way if somebody can receive it and fewer wait than the channel holds. -/
  offered : ∀ s o, publish? s m = some o → o.result = .ok (decide
    (m.queue.receiver = true ∧ m.waiting.length < (max capacity 1).toNat))
  /-- Publishing never waits. It has no answer only when the count would be no word any more. -/
  unanswered : ∀ s, publish? s m = none ↔
    ¬ (m.queue.receiver = true ∧ m.waiting.length < (max capacity 1).toNat) ∧
      m.dropped.toNat + 1 = UInt64.size
  dropped_eq : m.dropped.toNat = (refused es).length
  /-- Those that were put on their way were received, or lost when the receiving end was closed,
  or still wait, in this order. -/
  accounted : (accepted es).map Snapshot.diagnosis = received es ++ (lost es ++ m.waiting)
  kept : m.queue.receiver = true → lost es = []
  waiting_le : m.waiting.length ≤ (max capacity 1).toNat
  /-- Receiving waits only for a publisher that is there. -/
  received : m.queue.receiver = true →
    (BoundedChannel.receive m.channel = none ↔ m.waiting = [] ∧ m.queue.sender = true)
  /-- When the publisher is gone, the monitor hands on a document of each of those that wait, and
  answers with their number, if the serializer refuses none. -/
  drained : m.queue.receiver = true → m.queue.sender = false →
    ∀ {ε : Type} (serializer : Serializer ε),
      (∀ d ∈ m.waiting, ∃ doc, d.document serializer = .ok doc) →
      ∃ (docs : List String) (handled : UInt64), Documents serializer m.waiting docs ∧
        handled.toNat = docs.length ∧ Ends serializer m.channel docs (.ok handled)
  /-- If the serializer refuses one of them, it hands on those before it, and answers with the
  error. -/
  stopped : m.queue.receiver = true → ∀ {ε : Type} (serializer : Serializer ε)
    {ds rest : List Diagnosis} {d : Diagnosis} {docs : List String} {error : ε},
      m.waiting = ds ++ d :: rest → Documents serializer ds docs →
      d.document serializer = .error error → Ends serializer m.channel docs (.error error)

theorem Balanced.open_iff (h : Balanced capacity es m) :
    m.Open ↔ m.queue.receiver = true ∧ m.waiting.length < (max capacity 1).toNat := by
  unfold Open
  rw [h.capacity_eq]
  refine and_congr_right fun hr => ?_
  rw [waiting_of_receiver hr]

theorem Balanced.offered {s : Snapshot} {o : Outcome (MonitorChannel σ) Bool}
    (h : Balanced capacity es m) (ho : publish? s m = some o) : o.result = .ok (decide
      (m.queue.receiver = true ∧ m.waiting.length < (max capacity 1).toNat)) := by
  rcases publish?_eq_some ho with ⟨hopen, hok, -, -⟩ | ⟨hclosed, hok, -, -⟩
  · rw [hok, decide_eq_true (h.open_iff.mp hopen)]
  · rw [hok, decide_eq_false fun hopen => hclosed (h.open_iff.mpr hopen)]

/-- **The balance of a monitor channel.** Whatever both ends do, and whatever channel is between
them, as long as it is first in, first out, and of a fixed capacity. -/
theorem balanced_of_run (hrun : Run Step (create capacity) es m) : Accounted capacity es m := by
  have h : Balanced capacity es m := hrun.invariant (I := Balanced capacity)
    (balanced_create capacity) fun h hs => h.step hs
  have hle : m.waiting.length ≤ (max capacity 1).toNat := by
    have hbounded := h.bounded
    rw [List.length_append] at hbounded
    omega
  have hfit : m.waiting.length < UInt64.size := Nat.lt_of_le_of_lt hle (UInt64.toNat_lt_size _)
  refine ⟨fun s o => h.offered, fun s => ?_, h.dropped_eq, h.accounted, h.kept, hle,
    receive_eq_none_iff, fun hr hs ε serializer hall => ?_,
    fun hr ε serializer ds rest d docs error hw hdocs hd => ?_⟩
  · rw [publish?_eq_none_iff, h.open_iff]
  · obtain ⟨docs, hdocs⟩ := exists_documents hall
    obtain ⟨handled, hhandled, hends⟩ :=
      ends_of_documents hdocs hr hs (waiting_of_receiver hr).symm hfit
    exact ⟨docs, handled, hdocs, hhandled, hends⟩
  · rw [hw, List.length_append] at hfit
    exact ends_of_refused hdocs hd hr ((waiting_of_receiver hr).symm.trans hw) (by omega)

/-- A channel without capacity holds one snapshot. The second of three is dropped, the third is what
the monitor finds. -/
theorem balanced_of_run_single :
    let snapshot (errors : Nat) : Snapshot := ⟨.zero, .first, [], [], errors, none⟩
    let es : List Event := [.publish (snapshot 1) true, .publish (snapshot 2) false,
      .receive (.message (snapshot 1).diagnosis), .publish (snapshot 3) true, .dropPublisher]
    let m : MonitorChannel (MessageQueue Diagnosis) :=
      ⟨⟨1, [(snapshot 3).diagnosis], false, true⟩, 1⟩
    Run Step (create 0) es m ∧ Accounted 0 es m ∧
      ∃ document, (snapshot 3).diagnosis.document Json.serializer = .ok document ∧
        Ends Json.serializer m.channel [document] (.ok 1) := by
  intro snapshot es m
  have hrun : Run Step (create 0) es m :=
    ((((Run.one (.publish rfl rfl rfl)).next (.publish rfl rfl rfl)).next (.receive rfl rfl)).next
      (.publish rfl rfl rfl)).next (.dropPublisher rfl)
  have h : Accounted 0 es m := balanced_of_run hrun
  obtain ⟨docs, handled, hdocs, hhandled, hends⟩ :=
    h.drained rfl rfl Json.serializer fun d _ => ⟨_, rfl⟩
  have hsingle : Documents Json.serializer [(snapshot 3).diagnosis] docs := hdocs
  obtain ⟨document, rest, hdocument, hrest, rfl⟩ := List.forall₂_cons_left_iff.mp hsingle
  obtain rfl := List.forall₂_nil_left_iff.mp hrest
  obtain rfl : handled = 1 := UInt64.toNat_inj.mp hhandled
  exact ⟨hrun, h, document, hdocument, hends⟩

end MonitorChannel

end SlimInterface
