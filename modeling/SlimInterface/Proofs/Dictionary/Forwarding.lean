import SlimInterface.Proofs.Dictionary.Send
import SlimInterface.Proofs.Run
import SlimInterface.Proofs.Wire

/-!
# Objects on their way through the channel

Objects come into the queue from the dictionary or one by one, and they leave it when they are
sent or dropped. A run is any sequence of such calls, mixed with acknowledges that the remote side
takes. `Inv` holds of every run: what was queued is what has left the queue, followed by what is
in it, and the number of the channel counts the calls that found an object, whether it could be
sent or not.

`serialises_of_run` puts this together with what a single call does after such a run.
-/

namespace SlimInterface

/-- The sending end on a new buffer. -/
def ConfigOutput.opened (id : BufferId) : ConfigOutput :=
  ⟨⟨id, List.replicate bufferSize 0⟩, .first⟩

/-- A channel opens on any buffer its register has a bit for. -/
theorem ConfigOutput.eval_create {σ : Type} {id : BufferId} (h : id.index < TripleBuffer.idLimit)
    (s : σ) : (create id bufferSize).eval s = (.ok (opened id), s) := by
  have hbuffer : (TripleBuffer.create id bufferSize : Op σ TripleBuffer).eval s =
      (.ok ⟨id, List.replicate bufferSize 0⟩, s) := by
    unfold TripleBuffer.create
    rw [if_neg]
    · rfl
    · rintro (hs | hi)
      · cases hs
      · omega
  unfold create
  rw [if_neg (by simp), Op.eval_bind_ok hbuffer]
  rfl

theorem ConfigOutput.eq_opened {id : BufferId} {output : ConfigOutput}
    (h : id.index < TripleBuffer.idLimit)
    (hcreate : (create id bufferSize).eval () = (.ok output, ())) : output = opened id := by
  rw [eval_create h] at hcreate
  cases hcreate
  rfl

namespace Forwarding

/-! ## Runs -/

/-- What happens to a channel. -/
inductive Event
  /-- The dictionary is accessed. -/
  | access (event : DictionaryEvent) (index : UInt16) (subIndex : UInt8) (data : Bytes)
      (answer : Except Fault Unit)
  /-- An object is queued as it is. -/
  | write (object : ConfigObject)
  /-- The next object is dropped, if there is one. -/
  | advance (dropped : Option ConfigObject)
  /-- The acknowledge of some buffer is taken. -/
  | clear (id : BufferId)
  /-- The remote side reads the buffer of the channel, and then takes its acknowledge. -/
  | look (seen : Bytes)
  /-- A call that sends finds `head` at the head of the queue, and leaves `buffer`. -/
  | send (head : Option ConfigObject) (answer : Except Fault Unit) (buffer : Bytes)

/-- The calls of a channel and of its queue, and the steps of the remote side. It only reads the
buffer while an acknowledge is pending. -/
inductive Step (c : ConfigChannel) : Event → ConfigChannel → Prop
  | access {event : DictionaryEvent} {index : UInt16} {subIndex : UInt8} {data : Bytes}
      {r : Except Fault Unit} {c' : ConfigChannel}
      (h : (ConfigChannel.access event index subIndex data).eval c = (r, c')) :
      Step c (.access event index subIndex data r) c'
  | write (object : ConfigObject) :
      Step c (.write object) { c with queue := c.queue.push object }
  | advance : Step c (.advance c.queue.head?) { c with queue := c.queue.advance }
  | clear {id : BufferId} (h : id.index < TripleBuffer.idLimit) :
      Step c (.clear id) { c with ack := c.ack.clear id }
  | look (h : c.ack.isPending c.output.buffer.id = true) :
      Step c (.look c.output.buffer.data) { c with ack := c.ack.clear c.output.buffer.id }
  | send {r : Except Fault Unit} {c' : ConfigChannel} (h : ConfigChannel.send.eval c = (r, c')) :
      Step c (.send c.queue.head? r c'.output.buffer.data) c'

namespace Event

/-- An object that comes into the queue: one that is queued as it is, and the one of a value that
was written, unless it is too wide. -/
def queued? : Event → Option ConfigObject
  | .access .postWrite index subIndex data _ =>
    (ConfigObject.ofValue index subIndex data).toOption
  | .write object => some object
  | _ => none

theorem queued?_access (event : DictionaryEvent) (index : UInt16) (subIndex : UInt8) (data : Bytes)
    (r : Except Fault Unit) :
    (access event index subIndex data r).queued? =
      if event = .postWrite then (ConfigObject.ofValue index subIndex data).toOption else none := by
  cases event <;> rfl

/-- An object that leaves the queue. -/
def removed? : Event → Option ConfigObject
  | .advance dropped => dropped
  | .send head (.ok ()) _ => head
  | _ => none

/-- An object that a call tries to send. -/
def tried? : Event → Option ConfigObject
  | .send head _ _ => head
  | _ => none

/-- An object that is sent. -/
def posted? : Event → Option ConfigObject
  | .send head (.ok ()) _ => head
  | _ => none

/-- An object that a call tries to send and cannot. -/
def refused? : Event → Option ConfigObject
  | .send head (.error _) _ => head
  | _ => none

/-- An attempt either sends its object or does not. -/
theorem length_tried? (e : Event) :
    e.tried?.toList.length = e.posted?.toList.length + e.refused?.toList.length := by
  cases e with
  | send head answer buffer =>
    cases answer with
    | error => exact (Nat.zero_add _).symm
    | ok => rfl
  | _ => rfl

theorem of_not_tried {e : Event} (h : e.tried? = none) :
    e.posted? = none ∧ e.refused? = none := by
  cases e with
  | send head answer buffer =>
    cases answer with
    | error => exact ⟨rfl, h⟩
    | ok => exact ⟨h, rfl⟩
  | _ => exact ⟨rfl, rfl⟩

end Event

/-- The objects that came into the queue, oldest first. -/
def queued (es : List Event) : List ConfigObject := es.filterMap Event.queued?

/-- The objects that left it, oldest first. -/
def removed (es : List Event) : List ConfigObject := es.filterMap Event.removed?

/-- The objects calls tried to send, oldest first. -/
def tried (es : List Event) : List ConfigObject := es.filterMap Event.tried?

/-- The objects that were sent, oldest first. -/
def posted (es : List Event) : List ConfigObject := es.filterMap Event.posted?

/-- The objects calls could not send, oldest first. -/
def refused (es : List Event) : List ConfigObject := es.filterMap Event.refused?

theorem queued_append (es : List Event) (e : Event) :
    queued (es ++ [e]) = queued es ++ e.queued?.toList :=
  filterMap_append_one _ es e

theorem removed_append (es : List Event) (e : Event) :
    removed (es ++ [e]) = removed es ++ e.removed?.toList :=
  filterMap_append_one _ es e

theorem tried_append (es : List Event) (e : Event) :
    tried (es ++ [e]) = tried es ++ e.tried?.toList :=
  filterMap_append_one _ es e

theorem posted_append (es : List Event) (e : Event) :
    posted (es ++ [e]) = posted es ++ e.posted?.toList :=
  filterMap_append_one _ es e

theorem refused_append (es : List Event) (e : Event) :
    refused (es ++ [e]) = refused es ++ e.refused?.toList :=
  filterMap_append_one _ es e

theorem length_tried (es : List Event) :
    (tried es).length = (posted es).length + (refused es).length := by
  induction es with
  | nil => rfl
  | cons e es ih =>
    have he := e.length_tried?
    have hcons (part : Event → Option ConfigObject) :
        ((e :: es).filterMap part).length =
          (part e).toList.length + (es.filterMap part).length := by
      rw [List.filterMap_cons]
      cases part e with
      | none => exact (Nat.zero_add _).symm
      | some => exact Nat.add_comm _ 1
    unfold tried posted refused at ih ⊢
    rw [hcons, hcons, hcons]
    omega

/-- `o` was sent, `left` was the buffer then, and nothing else was sent in `since`, the events from
there on. -/
structure LastPosted (past : List Event) (o : ConfigObject) (left : Bytes) (since : List Event) :
    Prop where
  past_eq : ∃ before, past = before ++ .send (some o) (.ok ()) left :: since
  posted_eq : posted since = []

theorem LastPosted.now (es : List Event) (o : ConfigObject) (left : Bytes) :
    LastPosted (es ++ [.send (some o) (.ok ()) left]) o left [] :=
  ⟨⟨es, rfl⟩, rfl⟩

theorem LastPosted.next {past since : List Event} {o : ConfigObject} {left : Bytes} {e : Event}
    (h : LastPosted past o left since) (he : e.posted? = none) :
    LastPosted (past ++ [e]) o left (since ++ [e]) := by
  obtain ⟨⟨before, hpast⟩, hposted⟩ := h
  refine ⟨⟨before, by rw [hpast, List.append_assoc, List.cons_append]⟩, ?_⟩
  rw [posted_append, hposted, he]
  rfl

/-! ## What holds of every run -/

variable {id : BufferId} {es : List Event} {e : Event} {c c' : ConfigChannel}

/-- What holds of a channel on the buffer `id` after the events `es`. -/
structure Inv (id : BufferId) (es : List Event) (c : ConfigChannel) : Prop where
  id_eq : c.output.buffer.id = id
  length_eq : c.output.buffer.data.length = ConfigOutput.bufferSize
  queued_eq : queued es = removed es ++ c.queue
  seq_eq : c.output.seq = .ofCount (tried es).length
  /-- The buffer begins with the number of the latest attempt. -/
  number_eq : c.output.buffer.data[0]? = some c.output.seq.toByte

/-- What one step takes from the queue and brings into it. -/
theorem Inv.queued_next (h : Inv id es c)
    (hq : c.queue ++ e.queued?.toList = e.removed?.toList ++ c'.queue) :
    queued (es ++ [e]) = removed (es ++ [e]) ++ c'.queue := by
  rw [queued_append, removed_append, h.queued_eq, List.append_assoc, List.append_assoc, hq]

/-- A step that has nothing to do with the buffer. -/
theorem Inv.of_output (h : Inv id es c) (ho : c'.output = c.output)
    (hq : c.queue ++ e.queued?.toList = e.removed?.toList ++ c'.queue) (ht : e.tried? = none) :
    Inv id (es ++ [e]) c' := by
  refine ⟨by rw [ho, h.id_eq], by rw [ho, h.length_eq], h.queued_next hq, ?_,
    by rw [ho, h.number_eq]⟩
  rw [ho, h.seq_eq, tried_append, ht, Option.toList_none, List.append_nil]

theorem Inv.access {event : DictionaryEvent} {index : UInt16} {subIndex : UInt8} {data : Bytes}
    {r : Except Fault Unit} (h : Inv id es c)
    (hr : (ConfigChannel.access event index subIndex data).eval c = (r, c')) :
    Inv id (es ++ [.access event index subIndex data r]) c' := by
  by_cases hdata : data.length ≤ ConfigObject.maxSize
  · obtain ⟨o, ho, -⟩ := ConfigObject.ofValue_eq index subIndex hdata
    rw [ConfigChannel.eval_access hdata ho] at hr
    by_cases he : event = .postWrite
    · rw [if_pos he] at hr
      cases hr
      refine h.of_output rfl ?_ rfl
      rw [Event.queued?_access, if_pos he, ho]
      rfl
    · rw [if_neg he] at hr
      cases hr
      refine h.of_output rfl ?_ rfl
      rw [Event.queued?_access, if_neg he]
      exact List.append_nil _
  · have hwide : ConfigObject.maxSize < data.length := Nat.lt_of_not_le hdata
    have hnone : ConfigObject.ofValue index subIndex data =
        .error (.objectLengthError data.length) := if_pos hwide
    rw [ConfigChannel.eval_access_wide hwide] at hr
    cases hr
    refine h.of_output rfl ?_ rfl
    rw [Event.queued?_access, hnone]
    exact (congrArg (c.queue ++ Option.toList ·) (ite_self none)).trans (List.append_nil _)

/-- An attempt, whether it succeeds or not, writes the next number into the buffer. -/
theorem Inv.attempt {o : ConfigObject} (h : Inv id es c) (he : e.tried? = some o)
    (hid : c'.output.buffer.id = c.output.buffer.id)
    (hlen : c'.output.buffer.data.length = ConfigOutput.bufferSize)
    (hq : c.queue ++ e.queued?.toList = e.removed?.toList ++ c'.queue)
    (hseq : c'.output.seq = c.output.seq.flip)
    (hnumber : c'.output.buffer.data[0]? = some c.output.seq.flip.toByte) :
    Inv id (es ++ [e]) c' := by
  refine ⟨hid.trans h.id_eq, hlen, h.queued_next hq, ?_, ?_⟩
  · rw [hseq, h.seq_eq, tried_append, he, Option.toList_some, List.length_append,
      List.length_singleton, SeqNr.ofCount_succ]
  · rw [hnumber, hseq]

theorem Inv.send {r : Except Fault Unit} (h : Inv id es c)
    (hr : ConfigChannel.send.eval c = (r, c')) :
    Inv id (es ++ [.send c.queue.head? r c'.output.buffer.data]) c' := by
  have hlen : c.output.buffer.data.length = 12 := h.length_eq
  obtain ⟨r', d, heval, hstep⟩ := ConfigChannel.eval_send h.length_eq
  rw [heval] at hr
  cases hr
  cases hstep with
  | idle hq =>
    rw [hq]
    exact h.of_output rfl (by rw [hq]; rfl) rfl
  | @sent o rest hq ho =>
    have hsize := ho.size_le
    rw [show c.queue.head? = some o by rw [hq]; rfl]
    refine h.attempt rfl rfl ?_ ?_ rfl rfl
    · show (o.header c.output.seq.flip ++ o.field ++
        c.output.buffer.data.drop (4 + o.size.toNat)).length = 12
      simp
      omega
    · show c.queue ++ [] = [o] ++ c.queue.tail
      rw [hq, List.append_nil]
      rfl
  | @refused o rest hq ho =>
    rw [show c.queue.head? = some o by rw [hq]; rfl]
    refine h.attempt rfl rfl ?_ (List.append_nil _) rfl rfl
    show (o.header c.output.seq.flip ++ c.output.buffer.data.drop 4).length = 12
    simp
    omega

theorem Inv.step (h : Inv id es c) (hs : Step c e c') : Inv id (es ++ [e]) c' := by
  cases hs with
  | access hr => exact h.access hr
  | write object => exact h.of_output rfl rfl rfl
  | advance =>
    refine h.of_output rfl ?_ rfl
    show c.queue ++ [] = c.queue.head?.toList ++ c.queue.tail
    rw [List.append_nil]
    cases c.queue <;> rfl
  | clear | look => exact h.of_output rfl (List.append_nil _) rfl
  | send hr => exact h.send hr

theorem inv_fresh (id : BufferId) (ack : AckRegister) :
    Inv id [] ⟨.opened id, ack, []⟩ :=
  ⟨rfl, rfl, rfl, rfl, rfl⟩

theorem inv_of_run {ack : AckRegister}
    (hrun : Run Step ⟨.opened id, ack, []⟩ es c) : Inv id es c :=
  hrun.invariant (I := Inv id) (inv_fresh id ack) fun h hs => h.step hs

/-! ## What a call does after any run -/

/-- The state of a channel on the buffer `id` after the events `es`, and what each of its calls
does next. -/
structure Serialises (id : BufferId) (es : List Event) (c : ConfigChannel) : Prop where
  /-- The queue is first in, first out. -/
  queue : queued es = removed es ++ c.queue
  /-- The number flips with every call that finds an object, and with no other. -/
  number : c.output.seq = .ofCount (tried es).length
  wide : ∀ event index subIndex data, ConfigObject.maxSize < data.length →
    (ConfigChannel.access event index subIndex data).eval c =
      (.error (.objectLengthError data.length), c)
  access : ∀ event index subIndex data, data.length ≤ ConfigObject.maxSize →
    ∃ o, ConfigObject.ofValue index subIndex data = .ok o ∧ o.index = index ∧
      o.subIndex = subIndex ∧ o.size.toNat = data.length ∧ o.field = data ∧
      (ConfigChannel.access event index subIndex data).eval c =
        (.ok (), if event = .postWrite then { c with queue := c.queue ++ [o] } else c)
  idle : c.queue = [] → ConfigChannel.send.eval c = (.ok (), c)
  /-- An object that can be sent is written into the buffer: its header with the next number, and
  behind it its value. The acknowledge of the buffer is raised, and no other. -/
  sent : ∀ o rest, c.queue = o :: rest → o.Sendable →
    ∃ c', ConfigChannel.send.eval c = (.ok (), c') ∧ c'.queue = rest ∧
      c'.output.seq = c.output.seq.flip ∧
      (∀ i, c'.ack.bits.toNat.testBit i =
        (decide (i = id.index) || c.ack.bits.toNat.testBit i)) ∧
      c'.output.buffer.data = o.header c'.output.seq ++ o.field ++
        c.output.buffer.data.drop (ConfigOutput.lowOffset + o.size.toNat)
  /-- Any other object stays where it is, and the value in the buffer with it. -/
  refused : ∀ o rest, c.queue = o :: rest → ¬ o.Sendable →
    ∃ c', ConfigChannel.send.eval c = (.error (.invalidSizeOfObject o.size), c') ∧
      c'.queue = c.queue ∧ c'.ack = c.ack ∧ c'.output.seq = c.output.seq.flip ∧
      c'.output.buffer.data.drop ConfigOutput.lowOffset =
        c.output.buffer.data.drop ConfigOutput.lowOffset

/-- A channel can be opened on any buffer its register has a bit for, and whatever is then done to
it, the objects are serialised one by one, in the order in which they were queued. -/
theorem serialises_of_run {id : BufferId} (hid : id.index < TripleBuffer.idLimit)
    (ack : AckRegister) :
    ∃ output, (ConfigOutput.create id ConfigOutput.bufferSize).eval () = (.ok output, ()) ∧
      ∀ es c, Run Step ⟨output, ack, []⟩ es c → Serialises id es c := by
  refine ⟨_, ConfigOutput.eval_create hid (), ?_⟩
  intro es c hrun
  have h : Inv id es c := inv_of_run hrun
  refine ⟨h.queued_eq, h.seq_eq, ?_, ?_, ConfigChannel.eval_send_idle, ?_, ?_⟩
  · intro event index subIndex data hwide
    exact ConfigChannel.eval_access_wide hwide
  · intro event index subIndex data hdata
    obtain ⟨o, ho, hindex, hsub, hsize, hfield⟩ :=
      ConfigObject.ofValue_eq index subIndex hdata
    exact ⟨o, ho, hindex, hsub, hsize, hfield, ConfigChannel.eval_access hdata ho⟩
  · intro o rest hq ho
    refine ⟨c.sent o, ConfigChannel.eval_send_sent h.length_eq hq ho, ?_, rfl, ?_, rfl⟩
    · show c.queue.tail = rest
      rw [hq]
      rfl
    · intro i
      show (c.ack.raise c.output.buffer.id).bits.toNat.testBit i = _
      rw [h.id_eq, AckRegister.testBit_raise hid]
  · intro o rest hq ho
    refine ⟨c.refused o, ConfigChannel.eval_send_refused h.length_eq hq ho, rfl, rfl, rfl, ?_⟩
    show (o.header c.output.seq.flip ++ c.output.buffer.data.drop 4).drop 4 = _
    rw [List.drop_append_of_le_length (by simp), List.drop_of_length_le (by simp)]
    rfl

/-- Two bytes are written to the dictionary and sent; an object of three bytes that is queued
behind them is refused, and dropped. -/
theorem serialises_of_run_reference :
    let id : BufferId := ⟨3⟩
    let two : ConfigObject := ⟨0x2000, 1, 2, 0x3322, 0⟩
    let three : ConfigObject := ⟨0x2001, 2, 3, 0x445566, 0⟩
    id.index < TripleBuffer.idLimit ∧
    ∃ output es c, (ConfigOutput.create id ConfigOutput.bufferSize).eval () = (.ok output, ()) ∧
      ConfigObject.ofValue 0x2000 1 [0x22, 0x33] = .ok two ∧
      Run Step ⟨output, .empty, []⟩ es c ∧ Serialises id es c ∧
      queued es = [two, three] ∧ removed es = [two, three] ∧ tried es = [two, three] ∧
      c = ⟨⟨⟨id, [0, 2, 0x01, 0x20, 0x22, 0x33, 0, 0, 0, 0, 0, 0]⟩, .first⟩, ⟨8⟩, []⟩ := by
  intro id two three
  have hid : id.index < TripleBuffer.idLimit := by decide
  obtain ⟨output, hcreate, hserialises⟩ := serialises_of_run hid .empty
  obtain rfl := ConfigOutput.eq_opened hid hcreate
  have htwo : ConfigObject.ofValue 0x2000 1 [0x22, 0x33] = .ok two := rfl
  let start : ConfigChannel := ⟨.opened id, .empty, []⟩
  let c : ConfigChannel := { start with queue := [two, three] }
  have hwritten : (ConfigChannel.access .postWrite 0x2000 1 [0x22, 0x33]).eval start =
      (.ok (), { start with queue := [two] }) :=
    ConfigChannel.eval_access (by decide) htwo
  have hsent : ConfigChannel.send.eval c = (.ok (), c.sent two) :=
    ConfigChannel.eval_send_sent rfl rfl (by decide)
  have hrefused : ConfigChannel.send.eval (c.sent two) =
      (.error (.invalidSizeOfObject 3), (c.sent two).refused three) :=
    ConfigChannel.eval_send_refused (c := c.sent two) (o := three) (by decide) rfl (by decide)
  have hrun := ((((Run.one (Step.access hwritten)).next (.write three)).next (.send hsent)).next
    (.send hrefused)).next .advance
  refine ⟨hid, _, _, _, hcreate, htwo, hrun, hserialises _ _ hrun, ?_, rfl, rfl, ?_⟩
  · show [ConfigObject.ofValue 0x2000 1 [0x22, 0x33]].filterMap Except.toOption ++ [three] = _
    rw [htwo]
    rfl
  · decide

end Forwarding

end SlimInterface
