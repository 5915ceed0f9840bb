import SlimInterface.Proofs.Remote.Take
import SlimInterface.Proofs.Run

/-!
# What the remote side can reach

The operations of the remote side index into the copies of a link. Here each of them is written
once more with every index checked (`exchange?`, `overwrite?`, `produced?`): it comes to nothing
when an index lies outside a copy. That this never happens is the equation of each with the
operation itself. Taking an entry has its index checked from the start, because it can fail.

A `Request` is any of the operations with any arguments, and `Contained` says what it may change:
bytes of the buffer it is about. `contained_of_run` is the account for every configuration a link
is made for, also with buffers that are empty or lie in the wrong part, and after any requests
before. Every request whose positions are words (`Request.overflows`) is performed and contained,
with one exception. The acknowledge byte is at a fixed distance from the start of the status buffer,
so that taking an entry goes beyond a status buffer that ends before it (`Stray`): to a byte of
another buffer, or of no buffer at all.
-/

namespace SlimInterface

namespace Link

variable {σ : Type} {c : Config} {l l' : Link} {id : BufferId}

/-! ## The operations with every index checked -/

/-- All of `source` copied to a place of `size` bytes. -/
def copied? (size : Nat) (source : Bytes) : Option Bytes :=
  if source.length = size then some source else none

def exchange? (room : Nat) (producer : Bytes) (l : Link) : Option (Except Fault Bytes × Link) :=
  if room ≠ l.consumer.length then
    some (.error (.bufferSizeMismatch l.consumer.length room), l)
  else if producer.length ≠ l.producer.length then
    some (.error (.bufferSizeMismatch l.producer.length producer.length), l)
  else do
    let producer ← copied? l.producer.length producer
    let received ← copied? room l.consumer
    some (.ok received, { l with producer, transfers := l.transfers + 1 })

def overwrite? (id : BufferId) (offset : Nat) (data : Bytes) (l : Link) :
    Option (Except Fault Unit × Link) :=
  match l.consumerSpan id with
  | .error f => some (.error f, l)
  | .ok span =>
    if span.size < offset + data.length then some (.error .outOfBounds, l)
    else (l.consumer.put? (span.start + offset) data).map fun consumer =>
      (.ok (), { l with consumer })

def produced? (id : BufferId) (l : Link) : Option (Except Fault Bytes) :=
  match l.producerSpan id with
  | .error f => some (.error f)
  | .ok span => (l.producer.slice? span.start span.size).map .ok

/-- A buffer that is found in a part ends before the part does. -/
theorem le_of_spanIn {base size : Nat} {span : Span} (h : l.spanIn id base size = .ok span) :
    span.start + span.size ≤ size := by
  unfold spanIn at h
  split at h
  · cases h
  · split at h
    · cases h
    · split at h
      · cases h
      · cases h
        dsimp only
        omega

theorem exchange?_eq (room : Nat) (producer : Bytes) (l : Link) :
    l.exchange? room producer = some ((exchange room producer).eval l) := by
  unfold exchange? exchange
  rw [Op.eval_bind_ok (Op.eval_read _)]
  by_cases hroom : room = l.consumer.length
  · by_cases hsent : producer.length = l.producer.length
    · rw [if_neg (not_not.mpr hroom), if_neg (not_not.mpr hroom), if_neg (not_not.mpr hsent),
        if_neg (not_not.mpr hsent)]
      unfold copied?
      rw [if_pos hsent, if_pos hroom.symm]
      rfl
    · rw [if_neg (not_not.mpr hroom), if_neg (not_not.mpr hroom), if_pos hsent, if_pos hsent]
      rfl
  · rw [if_pos hroom, if_pos hroom]
    rfl

theorem overwrite?_eq (id : BufferId) (offset : Nat) (data : Bytes) (l : Link) :
    l.overwrite? id offset data = some ((publish id offset data).eval l) := by
  unfold overwrite? publish
  rw [Op.eval_bind_ok (Op.eval_read _)]
  cases hs : l.consumerSpan id with
  | error f => rw [Op.eval_bind_error (Op.eval_ofExcept _ _)]
  | ok span =>
    rw [Op.eval_bind_ok (Op.eval_ofExcept _ _)]
    dsimp only
    by_cases hlong : span.size < offset + data.length
    · rw [if_pos hlong, if_pos hlong, Op.eval_fail]
    · have hin := le_of_spanIn hs
      unfold Bytes.put?
      rw [if_neg hlong, if_neg hlong, if_pos (by omega), Op.eval_write]
      rfl

theorem produced?_eq (id : BufferId) (l : Link) : l.produced? id = some (l.produced id) := by
  unfold produced? produced
  cases hs : l.producerSpan id with
  | error f => rfl
  | ok span =>
    unfold Bytes.slice?
    dsimp only
    rw [if_pos (le_of_spanIn hs)]
    rfl

/-! ## Requests -/

/-- An operation on a link from either side, with its arguments. -/
inductive Request
  | transfer (room : Nat) (producer : Bytes)
  | publish (id : BufferId) (offset : Nat) (data : Bytes)
  | setTime (time : TimeStamp)
  | look (id : BufferId)
  | take (channel : UInt8)

/-- What is answered. -/
inductive Reply
  | received (consumer : Bytes)
  | done
  | bytes (b : Bytes)
  | entry (e : Option LogEntry)

/-- A position that the request works out is no word. -/
def Request.overflows : Request → Link → Bool
  | .publish id offset data, l => l.overflows id offset data.length
  | _, _ => false

/-- Perform a request, if every position it works out is a word and every index it uses exists. -/
def Request.perform? : Request → Link → Option (Except Fault Reply × Link)
  | .transfer room producer, l =>
    (l.exchange? room producer).map fun o => (o.1.map .received, o.2)
  | .publish id offset data, l =>
    if l.overflows id offset data.length then none
    else (l.overwrite? id offset data).map fun o => (o.1.map fun _ => .done, o.2)
  | .setTime time, l =>
    (l.overwrite? l.statusOut Status.timeLowOffset
      (Bytes.littleEndian 8 time.toWord.toNat)).map fun o => (o.1.map fun _ => .done, o.2)
  | .look id, l => (l.produced? id).map fun r => (r.map .bytes, l)
  | .take channel, l => (l.take? channel).map fun o => (o.1.map .entry, o.2)

/-- A step of a link: a request was performed. -/
def Performs (l : Link) (r : Request) (l' : Link) : Prop := ∃ reply, r.perform? l = some (reply, l')

/-- Only bytes of a buffer of the consumer part were changed. -/
structure Touches (c : Config) (id : BufferId) (l l' : Link) : Prop where
  consumer : l' = { l with consumer := l'.consumer }
  length : l'.consumer.length = l.consumer.length
  outside : ∀ i, ¬ (c.span id).Covers (c.consumerPart.start + i) →
    l'.consumer[i]? = l.consumer[i]?

theorem Touches.refl (c : Config) (id : BufferId) (l : Link) : Touches c id l l :=
  ⟨rfl, rfl, fun _ _ => rfl⟩

/-- Nothing but what the request is about was changed. -/
def Request.Contained (c : Config) : Request → Link → Link → Prop
  | .transfer _ _, l, l' => l' = l ∨ ∃ producer : Bytes,
      producer.length = l.producer.length ∧ l' = { l with producer, transfers := l.transfers + 1 }
  | .publish id _ _, l, l' => Touches c id l l'
  | .setTime _, l, l' => Touches c c.statusOut l l'
  | .look _, l, l' => l' = l
  | .take _, l, l' => Touches c c.statusOut l l'

/-- The acknowledge byte is looked for although the status buffer ends before it. -/
structure Stray (c : Config) : Prop where
  status_lt : c.statusOut.index < c.count
  status_within : (c.span c.statusOut).Within c.consumerPart
  status_short : c.sizeOf c.statusOut ≤ Status.logOffset
  log_sent : c.Produced c.logBuffer
  log_pos : 0 < c.sizeOf c.logBuffer

/-! ## What one request changes -/

/-- A buffer is found in a part where the configuration has it, or not at all. -/
theorem spanIn_eq_ok {part span : Span} (hd : l.descriptors = c.descriptors)
    (hs : l.spanIn id part.start part.size = .ok span) :
    id.index < c.count ∧ (c.span id).Within part ∧ span = (c.span id).shift part.start := by
  by_cases hin : id.index < c.count ∧ (c.span id).Within part
  · have hfound : l.spanIn id part.start part.size = .ok ((c.span id).shift part.start) :=
      spanIn_eq hd hin.1 hin.2
    cases hfound.symm.trans hs
    exact ⟨hin.1, hin.2, rfl⟩
  · have hlost : ∃ f, l.spanIn id part.start part.size = .error f := exists_spanIn_eq_error hd hin
    obtain ⟨f, hf⟩ := hlost
    cases hf.symm.trans hs

theorem consumerSpan_eq_ok {span : Span} (h : l.Attached c) (hs : l.consumerSpan id = .ok span) :
    id.index < c.count ∧ (c.span id).Within c.consumerPart ∧
      span = (c.span id).shift c.consumerPart.start := by
  unfold consumerSpan at hs
  rw [h.consumerBase, h.length_consumer] at hs
  exact spanIn_eq_ok h.descriptors hs

/-- A buffer that something was found in is one of the producer part. -/
theorem produced_of_eq_cons {first : UInt8} {rest : Bytes} (h : l.Attached c)
    (hb : l.produced id = .ok (first :: rest)) : c.Produced id ∧ 0 < c.sizeOf id := by
  unfold produced at hb
  cases hs : l.producerSpan id with
  | error f =>
    rw [hs] at hb
    cases hb
  | ok span =>
    rw [hs] at hb
    have hread : span.read l.producer = first :: rest := Except.ok.inj hb
    unfold producerSpan at hs
    rw [h.producerBase, h.length_producer] at hs
    obtain ⟨-, hin, rfl⟩ := spanIn_eq_ok h.descriptors hs
    -- nothing is read from an empty buffer
    have hpos : 0 < c.sizeOf id := by
      refine Nat.pos_of_ne_zero fun hzero => ?_
      unfold Span.read Span.shift Config.span at hread
      rw [hzero, List.take_zero] at hread
      cases hread
    exact ⟨Config.produced_of_within hpos hin, hpos⟩

/-- A transfer replaces the producer part, or changes nothing. -/
theorem contained_exchange (room : Nat) (producer : Bytes) (l : Link) :
    (Request.transfer room producer).Contained c l ((exchange room producer).eval l).2 := by
  unfold exchange
  rw [Op.eval_bind_ok (Op.eval_read _)]
  split
  · exact .inl rfl
  · split
    · exact .inl rfl
    · next hlen => exact .inr ⟨producer, not_not.mp hlen, rfl⟩

/-- What is published stays inside its buffer. -/
theorem touches_publish (h : l.Attached c) (id : BufferId) (offset : Nat) (data : Bytes) :
    Touches c id l ((publish id offset data).eval l).2 := by
  unfold publish
  rw [Op.eval_bind_ok (Op.eval_read _)]
  cases hs : l.consumerSpan id with
  | error f =>
    rw [Op.eval_bind_error (Op.eval_ofExcept _ _)]
    exact .refl c id l
  | ok span =>
    obtain ⟨-, ⟨hstart, -⟩, rfl⟩ := consumerSpan_eq_ok h hs
    rw [Op.eval_bind_ok (Op.eval_ofExcept _ _)]
    split
    · exact .refl c id l
    · next hfit =>
      refine ⟨rfl, Bytes.length_overwrite _ _ _, fun i hi => ?_⟩
      have hi' : ¬ ((c.span id).start ≤ c.consumerPart.start + i ∧
        c.consumerPart.start + i < (c.span id).start + (c.span id).size) := hi
      have hfit' : offset + data.length ≤ (c.span id).size := Nat.le_of_not_lt hfit
      show (l.consumer.overwrite ((c.span id).start - c.consumerPart.start + offset) data)[i]? = _
      rw [Bytes.getElem?_overwrite, if_neg (by omega)]

/-- So does an acknowledge, unless the byte it is given in does not belong to the buffer. -/
theorem touches_acknowledge {span : Span} (h : l.Attached c)
    (hs : l.consumerSpan l.statusOut = .ok span) (hsize : Status.logOffset < c.sizeOf c.statusOut)
    (flags first : UInt8) :
    Touches c c.statusOut l (l.acknowledge (span.start + Status.logOffset) flags first) := by
  rw [h.statusOut] at hs
  obtain ⟨-, ⟨hstart, -⟩, rfl⟩ := consumerSpan_eq_ok h hs
  refine ⟨rfl, List.length_set, fun i hi => List.getElem?_set_ne ?_⟩
  have hi' : ¬ ((c.span c.statusOut).start ≤ c.consumerPart.start + i ∧
    c.consumerPart.start + i < (c.span c.statusOut).start + c.sizeOf c.statusOut) := hi
  show (c.span c.statusOut).start - c.consumerPart.start + Status.logOffset ≠ i
  omega

/-- If the acknowledge byte is looked for, it is in the status buffer or the configuration is
stray. -/
theorem logOffset_lt_of_not_stray {first : UInt8} {rest : Bytes} {span : Span} (h : l.Attached c)
    (hb : l.produced l.logBuffer = .ok (first :: rest)) (hs : l.consumerSpan l.statusOut = .ok span)
    (hstray : ¬ Stray c) : Status.logOffset < c.sizeOf c.statusOut := by
  rw [h.logBuffer] at hb
  rw [h.statusOut] at hs
  obtain ⟨hlog, hpos⟩ := produced_of_eq_cons h hb
  obtain ⟨hlt, hin, -⟩ := consumerSpan_eq_ok h hs
  exact Nat.lt_of_not_le fun hshort => hstray ⟨hlt, hin, hshort, hlog, hpos⟩

/-- Taking an entry changes nothing but the acknowledge, and finds the byte for it. -/
theorem touches_take (h : l.Attached c) {channel : UInt8} (hstray : ¬ (channel = 0 ∧ Stray c)) :
    ∃ r l', l.take? channel = some (r, l') ∧ Touches c c.statusOut l l' := by
  have htakes := l.takes channel
  generalize l.take? channel = outcome at htakes ⊢
  cases htakes with
  | stray | unsent | void | unshown | known => exact ⟨_, _, rfl, .refl c _ l⟩
  | beyond hb hs hend =>
    -- the buffer reaches over the byte, and the copy over the buffer
    have hsize := logOffset_lt_of_not_stray h hb hs fun hst => hstray ⟨rfl, hst⟩
    rw [h.statusOut] at hs
    have hin := le_of_spanIn hs
    obtain ⟨-, -, rfl⟩ := consumerSpan_eq_ok h hs
    have hwide : ((c.span c.statusOut).shift c.consumerPart.start).size = c.sizeOf c.statusOut :=
      rfl
    omega
  | taken hb hs | cut hb hs =>
    exact ⟨_, _, rfl, touches_acknowledge h hs
      (logOffset_lt_of_not_stray h hb hs fun hst => hstray ⟨rfl, hst⟩) _ _⟩

/-- Every request is performed, and changes only what it is about. -/
theorem contained (h : l.Attached c) {r : Request} (hover : r.overflows l = false)
    (hstray : ¬ (r = .take 0 ∧ Stray c)) :
    ∃ reply l', r.perform? l = some (reply, l') ∧ r.Contained c l l' := by
  cases r with
  | transfer room producer =>
    refine ⟨_, _, congrArg (Option.map _) (exchange?_eq room producer l), ?_⟩
    exact contained_exchange room producer l
  | publish id offset data =>
    refine ⟨_, _,
      (if_neg (Bool.eq_false_iff.mp hover)).trans
        (congrArg (Option.map _) (overwrite?_eq id offset data l)), ?_⟩
    exact touches_publish h id offset data
  | setTime time =>
    refine ⟨_, _, congrArg (Option.map _) (overwrite?_eq l.statusOut _ _ l), ?_⟩
    rw [h.statusOut]
    exact touches_publish h c.statusOut _ _
  | look id => exact ⟨_, _, congrArg (Option.map _) (produced?_eq id l), rfl⟩
  | take channel =>
    obtain ⟨r, l', hp, htouch⟩ := touches_take h fun hch =>
      hstray ⟨congrArg Request.take hch.1, hch.2⟩
    exact ⟨_, _, congrArg (Option.map _) hp, htouch⟩

/-- Nothing comes of a request with a position that is no word. -/
theorem Request.perform?_eq_none {r : Request} (h : r.overflows l = true) :
    r.perform? l = none := by
  cases r with
  | publish => exact if_pos h
  | transfer | setTime | look | take => cases h

/-! ## Going astray -/

/-- At most one byte was changed, and that one does not belong to the status buffer. -/
structure Strayed (c : Config) (l l' : Link) : Prop where
  consumer : l' = { l with consumer := l'.consumer }
  length : l'.consumer.length = l.consumer.length
  elsewhere : ∀ i, i ≠ place c → l'.consumer[i]? = l.consumer[i]?
  outside : ¬ (c.span c.statusOut).Covers (c.consumerPart.start + place c)

/-- The acknowledge byte of a stray configuration does not belong to the status buffer. -/
theorem Stray.not_covers (hst : Stray c) :
    ¬ (c.span c.statusOut).Covers (c.consumerPart.start + place c) := by
  have hstart : c.consumerPart.start ≤ (c.span c.statusOut).start := hst.status_within.1
  have hshort := hst.status_short
  rintro ⟨-, hend⟩
  have hsize : (c.span c.statusOut).size = c.sizeOf c.statusOut := rfl
  unfold place at hend
  omega

/-- With a stray configuration, taking an entry comes to nothing if the consumer part ends before
the acknowledge byte, and otherwise may change that byte. -/
theorem strayed_take (h : l.Attached c) (hst : Stray c) :
    (l.take? 0 = none ∧ c.consumerPart.size ≤ place c) ∨
      ∃ r l', l.take? 0 = some (r, l') ∧ place c < c.consumerPart.size ∧ Strayed c l l' := by
  have hout := hst.not_covers
  have hsent : l.produced l.logBuffer = .ok (l.sent c c.logBuffer) := by
    rw [h.logBuffer]
    exact produced_eq h hst.log_sent
  have hshown : l.consumerSpan l.statusOut =
      .ok ((c.span c.statusOut).shift c.consumerPart.start) := by
    unfold consumerSpan
    rw [h.statusOut, h.consumerBase, h.length_consumer]
    exact spanIn_eq h.descriptors hst.status_lt hst.status_within
  have htakes := l.takes 0
  generalize l.take? 0 = outcome at htakes ⊢
  cases htakes with
  | stray hch => exact absurd rfl hch
  | unsent hb => cases hsent.symm.trans hb
  | void hb =>
    have hlen := length_sent h hst.log_sent
    rw [Except.ok.inj (hsent.symm.trans hb)] at hlen
    exact absurd hst.log_pos (by rw [← hlen]; exact Nat.lt_irrefl 0)
  | unshown hb hs => cases hshown.symm.trans hs
  | beyond hb hs hend =>
    cases hshown.symm.trans hs
    rw [h.length_consumer] at hend
    exact .inl ⟨rfl, hend⟩
  | known hb hs hf =>
    cases hshown.symm.trans hs
    have hlt := (List.getElem?_eq_some_iff.mp hf).1
    rw [h.length_consumer] at hlt
    exact .inr ⟨_, _, rfl, hlt, rfl, rfl, fun _ _ => rfl, hout⟩
  | taken hb hs hf | cut hb hs hf =>
    cases hshown.symm.trans hs
    have hlt := (List.getElem?_eq_some_iff.mp hf).1
    rw [h.length_consumer] at hlt
    exact .inr ⟨_, _, rfl, hlt, rfl, List.length_set, fun i hi => List.getElem?_set_ne hi.symm,
      hout⟩

theorem strayed (h : l.Attached c) (hst : Stray c) :
    ((Request.take 0).perform? l = none ∧ c.consumerPart.size ≤ place c) ∨
      ∃ reply l', (Request.take 0).perform? l = some (reply, l') ∧
        place c < c.consumerPart.size ∧ Strayed c l l' := by
  obtain ⟨hnone, hend⟩ | ⟨r, l', htake, hlt, hl'⟩ := strayed_take h hst
  · exact .inl ⟨congrArg (Option.map _) hnone, hend⟩
  · exact .inr ⟨_, l', congrArg (Option.map _) htake, hlt, hl'⟩

/-! ## Any requests, one after the other -/

theorem Request.Contained.attached {r : Request} (hr : r.Contained c l l') (h : l.Attached c) :
    l'.Attached c := by
  cases r with
  | transfer =>
    obtain rfl | ⟨producer, hlen, rfl⟩ := hr
    · exact h
    · exact ⟨h.1, h.2, h.3, h.4, hlen.trans h.5, h.6, h.7⟩
  | look =>
    obtain rfl : l' = l := hr
    exact h
  | publish | setTime | take =>
    rw [hr.consumer]
    exact h.consumer hr.length

theorem Strayed.attached (hr : Strayed c l l') (h : l.Attached c) : l'.Attached c := by
  rw [hr.consumer]
  exact h.consumer hr.length

/-- Whatever is performed, the link keeps the layout of its configuration. -/
theorem Performs.attached {r : Request} (hr : Performs l r l') (h : l.Attached c) :
    l'.Attached c := by
  obtain ⟨reply, hr⟩ := hr
  have hover : r.overflows l = false :=
    Bool.eq_false_iff.mpr fun ho => nomatch (r.perform?_eq_none ho).symm.trans hr
  by_cases hstray : r = .take 0 ∧ Stray c
  · obtain ⟨rfl, hst⟩ := hstray
    obtain ⟨hnone, -⟩ | ⟨_, m, hm, -, hstrayed⟩ := strayed h hst
    · cases hnone.symm.trans hr
    · cases hm.symm.trans hr
      exact hstrayed.attached h
  · obtain ⟨_, m, hm, hcontained⟩ := contained h hover hstray
    cases hm.symm.trans hr
    exact hcontained.attached h

theorem attached_of_run {l₀ : Link} {rs : List Request} (hrun : Run Performs l₀ rs l)
    (h : l₀.Attached c) : l.Attached c :=
  hrun.invariant (I := fun _ l => l.Attached c) h fun h hr => hr.attached h

/-- For every configuration a link is made for and after any requests on it, the next request whose
positions are words is performed without an index outside the copies and changes only bytes of the
buffer it is about, unless an entry is taken and the configuration is stray. Then there is no such
byte: the request comes to nothing, or it changes one that does not belong to the status buffer. -/
theorem contained_of_run {l₀ : Link} {s t : σ} {rs : List Request}
    (hnew : (create c).eval s = (.ok l₀, t)) (hrun : Run Performs l₀ rs l) (r : Request) :
    (r.overflows l = false → ¬ (r = .take 0 ∧ Stray c) →
      ∃ reply l', r.perform? l = some (reply, l') ∧ r.Contained c l l') ∧
    (r.overflows l = true → r.perform? l = none) ∧
    (r = .take 0 ∧ Stray c →
      (r.perform? l = none ∧ c.consumerPart.size ≤ place c) ∨
        ∃ reply l', r.perform? l = some (reply, l') ∧ place c < c.consumerPart.size ∧
          Strayed c l l') := by
  obtain ⟨-, rfl, -⟩ := eval_create_eq_ok.mp hnew
  have h : l.Attached c := attached_of_run hrun (attached_fresh c)
  refine ⟨contained h, r.perform?_eq_none, ?_⟩
  rintro ⟨rfl, hst⟩
  exact strayed h hst

/-- A layout whose status buffer ends before the acknowledge byte, and the consumer part with it. -/
def shortStatus : Config where
  sizes := [4, 4, 4, 16]
  consAck := ⟨0⟩
  prodAck := ⟨2⟩
  statusOut := ⟨1⟩
  statusIn := ⟨2⟩
  logBuffer := ⟨3⟩
  ssdoConsumer := ⟨0⟩
  ssdoProducer := ⟨2⟩

theorem contained_of_run_short : (Request.take 0).perform? (fresh shortStatus) = none ∧
    ∃ reply l', (Request.publish ⟨1⟩ 3 [7]).perform? (fresh shortStatus) = some (reply, l') ∧
      Touches shortStatus ⟨1⟩ (fresh shortStatus) l' := by
  have hnew : (create shortStatus).eval () = (.ok (fresh shortStatus), ()) :=
    eval_create_eq_ok.mpr ⟨rfl, rfl, rfl⟩
  have hst : Stray shortStatus :=
    ⟨by decide, ⟨by decide, by decide⟩, by decide, by decide, by decide⟩
  have htake := (contained_of_run hnew (.start _) (.take 0)).2.2 ⟨rfl, hst⟩
  refine ⟨?_, (contained_of_run hnew (.start _) (.publish ⟨1⟩ 3 [7])).1 rfl nofun⟩
  obtain ⟨hnone, -⟩ | ⟨_, _, -, hlt, -⟩ := htake
  · exact hnone
  · exact absurd hlt (by decide)

end Link

end SlimInterface
