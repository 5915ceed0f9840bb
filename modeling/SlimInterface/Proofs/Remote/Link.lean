import SlimInterface.Proofs.Layout
import SlimInterface.Proofs.Wire
import SlimInterface.Remote.Link

/-!
# What a link does

A link that belongs to a configuration (`Link.Attached`) finds every buffer of the two
moving parts: `consumed` is what the remote side published there, `sent` what the endpoint
sent. A transfer never fails (`eval_exchange`), and taking a logbook entry comes down to two
sequence numbers, the one of the buffer and the one shown (`takeLogEntry?_eq`).
-/

namespace SlimInterface

namespace Link

variable {σ : Type} {c : Config} {l : Link} {id : BufferId}

/-- The copies have the sizes of the parts, and the link knows the layout. -/
structure Attached (c : Config) (l : Link) : Prop where
  descriptors : l.descriptors = c.descriptors
  consumerBase : l.consumerBase = c.consumerPart.start
  producerBase : l.producerBase = c.producerPart.start
  length_consumer : l.consumer.length = c.consumerPart.size
  length_producer : l.producer.length = c.producerPart.size
  statusOut : l.statusOut = c.statusOut
  logBuffer : l.logBuffer = c.logBuffer

/-- The link of a configuration before anything was exchanged. -/
def fresh (c : Config) : Link where
  descriptors := c.descriptors
  consumerBase := c.consumerPart.start
  producerBase := c.producerPart.start
  consumer := List.replicate c.consumerPart.size 0
  producer := List.replicate c.producerPart.size 0
  transfers := 0
  statusOut := c.statusOut
  logBuffer := c.logBuffer

theorem attached_fresh (c : Config) : (fresh c).Attached c :=
  ⟨rfl, rfl, rfl, List.length_replicate, List.length_replicate, rfl, rfl⟩

/-- Every configuration that passes its check has a link, also one with empty buffers. -/
theorem eval_create_of_lt (hv : c.validate = .ok ()) (hlt : c.consAck.index < c.prodAck.index)
    (hcount : c.prodAck.index < c.count) (s : σ) : (create c).eval s = (.ok (fresh c), s) := by
  have hcons : (Descriptor.spanOf c.descriptors c.consAck.index c.consAck.index).start =
      c.consumerPart.start := by
    rw [Config.spanOf_descriptors c (Nat.le_refl _) (Nat.lt_trans hlt hcount)]
    rfl
  have hprod : (Descriptor.spanOf c.descriptors c.prodAck.index c.prodAck.index).start =
      c.producerPart.start := by
    rw [Config.spanOf_descriptors c (Nat.le_refl _) hcount]
    rfl
  unfold create
  rw [hv, Op.eval_bind_ok (Op.eval_ofExcept _ _)]
  dsimp only
  rw [Op.eval_bind_ok (Op.eval_log _ _), Op.eval_pure, hcons, hprod, Config.totalSize_descriptors]
  rfl

/-- Every configuration an endpoint can be laid out over has a link. -/
theorem eval_create (hv : c.validate = .ok ()) (h : c.LaidOut) (s : σ) :
    (create c).eval s = (.ok (fresh c), s) := eval_create_of_lt hv h.consAck_lt h.prodAck_lt s

/-! ## Buffers -/

/-- A buffer as the remote side published it. -/
def consumed (c : Config) (id : BufferId) (l : Link) : Bytes :=
  ((c.span id).shift c.consumerPart.start).read l.consumer

/-- A buffer as the endpoint sent it last. -/
def sent (c : Config) (id : BufferId) (l : Link) : Bytes :=
  ((c.span id).shift c.producerPart.start).read l.producer

theorem fits_consumer (h : l.Attached c) (hid : c.Consumed id) :
    ((c.span id).shift c.consumerPart.start).Fits l.consumer := by
  obtain ⟨h1, h2⟩ := hid.within
  have hl := h.length_consumer
  unfold Span.Fits Span.shift
  dsimp only
  omega

theorem fits_producer (h : l.Attached c) (hid : c.Produced id) :
    ((c.span id).shift c.producerPart.start).Fits l.producer := by
  obtain ⟨h1, h2⟩ := hid.within
  have hl := h.length_producer
  unfold Span.Fits Span.shift
  dsimp only
  omega

theorem length_consumed (h : l.Attached c) (hid : c.Consumed id) :
    (l.consumed c id).length = c.sizeOf id :=
  Span.length_read (fits_consumer h hid)

theorem length_sent (h : l.Attached c) (hid : c.Produced id) :
    (l.sent c id).length = c.sizeOf id :=
  Span.length_read (fits_producer h hid)

/-- Nothing was published on a fresh link. -/
theorem consumed_fresh (hid : c.Consumed id) :
    (fresh c).consumed c id = List.replicate (c.sizeOf id) 0 :=
  Span.read_replicate (fits_consumer (attached_fresh c) hid)

theorem sent_fresh (hid : c.Produced id) : (fresh c).sent c id = List.replicate (c.sizeOf id) 0 :=
  Span.read_replicate (fits_producer (attached_fresh c) hid)

/-- A buffer of a part is found at its distance from the start of the part. -/
theorem spanIn_eq {base size : Nat} (hd : l.descriptors = c.descriptors)
    (hid : id.index < c.count) (h : (c.span id).Within ⟨base, size⟩) :
    l.spanIn id base size = .ok ((c.span id).shift base) := by
  obtain ⟨d, hdesc, hspan, hsize⟩ := Config.descriptor_of_lt hid
  obtain ⟨hstart, hend⟩ := h
  have hoff : d.offset = (c.span id).start := congrArg Span.start hspan
  have hs : d.size = (c.span id).size := congrArg Span.size hspan
  unfold spanIn
  rw [hd, hdesc]
  dsimp only at hstart hend ⊢
  rw [if_neg (by omega), if_neg (by omega), hoff, hs]
  rfl

/-- A buffer that is not in a part is not found in it. -/
theorem exists_spanIn_eq_error {base size : Nat} (hd : l.descriptors = c.descriptors)
    (h : ¬ (id.index < c.count ∧ (c.span id).Within ⟨base, size⟩)) :
    ∃ f, l.spanIn id base size = .error f := by
  unfold spanIn
  by_cases hid : id.index < c.count
  · obtain ⟨d, hdesc, hspan, -⟩ := Config.descriptor_of_lt hid
    have hoff : d.offset = (c.span id).start := congrArg Span.start hspan
    have hs : d.size = (c.span id).size := congrArg Span.size hspan
    have hout : ¬ (c.span id).Within ⟨base, size⟩ := fun hw => h ⟨hid, hw⟩
    unfold Span.Within at hout
    dsimp only at hout
    rw [hd, hdesc]
    dsimp only
    by_cases hbefore : d.offset < base
    · rw [if_pos hbefore]
      exact ⟨_, rfl⟩
    · rw [if_neg hbefore, if_pos (by omega)]
      exact ⟨_, rfl⟩
  · have hnone : c.descriptors[id.index]? = none :=
      List.getElem?_eq_none (by rw [Config.length_descriptors]; omega)
    rw [hd, hnone]
    exact ⟨_, rfl⟩

theorem consumerSpan_eq (h : l.Attached c) (hid : c.Consumed id) (hlt : id.index < c.count) :
    l.consumerSpan id = .ok ((c.span id).shift c.consumerPart.start) := by
  unfold consumerSpan
  rw [h.consumerBase, h.length_consumer]
  exact spanIn_eq h.descriptors hlt hid.within

theorem producerSpan_eq (h : l.Attached c) (hid : c.Produced id) :
    l.producerSpan id = .ok ((c.span id).shift c.producerPart.start) := by
  unfold producerSpan
  rw [h.producerBase, h.length_producer]
  exact spanIn_eq h.descriptors hid.2 hid.within

theorem exists_consumerSpan_eq_error (h : l.Attached c) (hl : c.LaidOut) (hid : ¬ c.Consumed id) :
    ∃ f, l.consumerSpan id = .error f := by
  unfold consumerSpan
  rw [h.consumerBase, h.length_consumer]
  refine exists_spanIn_eq_error h.descriptors ?_
  intro hin
  exact hid (Config.consumed_of_within (hl.sizeOf_pos hin.1) (Nat.le_of_lt hl.consAck_lt) hin.2)

theorem exists_producerSpan_eq_error (h : l.Attached c) (hl : c.LaidOut) (hid : ¬ c.Produced id) :
    ∃ f, l.producerSpan id = .error f := by
  unfold producerSpan
  rw [h.producerBase, h.length_producer]
  refine exists_spanIn_eq_error h.descriptors ?_
  intro hin
  exact hid (Config.produced_of_within (hl.sizeOf_pos hin.1) hin.2)

theorem produced_eq (h : l.Attached c) (hid : c.Produced id) :
    l.produced id = .ok (l.sent c id) := by
  unfold produced
  rw [producerSpan_eq h hid]
  rfl

/-- Whatever of the right length the remote side publishes, the link stays attached. -/
theorem Attached.consumer {b : Bytes} (h : l.Attached c) (hb : b.length = l.consumer.length) :
    ({ l with consumer := b } : Link).Attached c :=
  ⟨h.1, h.2, h.3, hb.trans h.4, h.5, h.6, h.7⟩

theorem eval_publish (h : l.Attached c) (hid : c.Consumed id) (hlt : id.index < c.count)
    {off : Nat} {data : Bytes} (hfit : off + data.length ≤ c.sizeOf id) :
    (publish id off data).eval l =
      (.ok (), { l with
        consumer := l.consumer.overwrite (((c.span id).shift c.consumerPart.start).start + off)
          data }) := by
  have hsize : ((c.span id).shift c.consumerPart.start).size = c.sizeOf id := rfl
  unfold publish
  rw [Op.eval_bind_ok (Op.eval_read _), consumerSpan_eq h hid hlt,
    Op.eval_bind_ok (Op.eval_ofExcept _ _), hsize, if_neg (by omega), Op.eval_write]

/-- What belongs to no consumed buffer, or reaches beyond one, is not published. -/
theorem eval_publish_refused (h : l.Attached c) (hl : c.LaidOut) {off : Nat} {data : Bytes}
    (hout : ¬ (c.Consumed id ∧ off + data.length ≤ c.sizeOf id)) :
    ∃ f, (publish id off data).eval l = (.error f, l) := by
  unfold publish
  rw [Op.eval_bind_ok (Op.eval_read _)]
  by_cases hid : c.Consumed id
  · have hsize : ((c.span id).shift c.consumerPart.start).size = c.sizeOf id := rfl
    have hlong : c.sizeOf id < off + data.length := Nat.lt_of_not_le fun hle => hout ⟨hid, hle⟩
    rw [consumerSpan_eq h hid (Nat.lt_trans hid.2 hl.prodAck_lt),
      Op.eval_bind_ok (Op.eval_ofExcept _ _), hsize, if_pos hlong]
    exact ⟨_, rfl⟩
  · obtain ⟨f, hf⟩ := exists_consumerSpan_eq_error h hl hid
    rw [hf, Op.eval_bind_error (Op.eval_ofExcept _ _)]
    exact ⟨f, rfl⟩

/-- Publishing bytes at any offset, without what it logs. -/
def publishAt? (id : BufferId) (off : Nat) (data : Bytes) (l : Link) :
    Option (Except Fault Unit × Link) :=
  (l.publish? id off data).map fun o => (o.result, o.state)

theorem publishAt?_eq (id : BufferId) (off : Nat) (data : Bytes) (l : Link) :
    l.publishAt? id off data =
      if l.overflows id off data.length then none else some ((publish id off data).eval l) := by
  unfold publishAt? publish?
  split <;> rfl

theorem eval_of_publishAt? {off : Nat} {data : Bytes} {r : Except Fault Unit} {l' : Link}
    (h : l.publishAt? id off data = some (r, l')) : (publish id off data).eval l = (r, l') := by
  rw [publishAt?_eq] at h
  split at h
  · cases h
  · exact Option.some.inj h

/-- Only where a buffer is found can a position be missing. -/
theorem overflows_iff (h : l.Attached c) (hl : c.LaidOut) {off n : Nat} :
    l.overflows id off n = true ↔ c.Consumed id ∧
      (UInt64.size ≤ (c.span id).start - c.consumerPart.start + off ∨ UInt64.size ≤ off + n) := by
  unfold overflows
  by_cases hid : c.Consumed id
  · rw [consumerSpan_eq h hid (Nat.lt_trans hid.2 hl.prodAck_lt)]
    dsimp only
    rw [decide_eq_true_iff, and_iff_right hid]
    rfl
  · obtain ⟨f, hf⟩ := exists_consumerSpan_eq_error h hl hid
    rw [hf]
    exact ⟨fun he => absurd he Bool.false_ne_true, fun he => absurd he.1 hid⟩

theorem publishAt?_eq_none_iff (h : l.Attached c) (hl : c.LaidOut) {off : Nat} {data : Bytes} :
    l.publishAt? id off data = none ↔ c.Consumed id ∧
      (UInt64.size ≤ (c.span id).start - c.consumerPart.start + off ∨
        UInt64.size ≤ off + data.length) := by
  rw [publishAt?_eq, ← overflows_iff h hl]
  split
  · next hover => exact ⟨fun _ => hover, fun _ => rfl⟩
  · next hover => exact ⟨fun hn => (nomatch hn), fun ho => absurd ho hover⟩

/-- The link after bytes of a buffer were published. -/
def published (c : Config) (id : BufferId) (off : Nat) (data : Bytes) (l : Link) : Link :=
  { l with
    consumer :=
      l.consumer.overwrite (((c.span id).shift c.consumerPart.start).start + off) data }

/-- Bytes that fit their buffer are published, as a copy has no more bytes than there are
positions. -/
theorem publishAt?_eq_ok (h : l.Attached c) (hl : c.LaidOut) (hid : c.Consumed id) {off : Nat}
    {data : Bytes} (hfit : off + data.length ≤ c.sizeOf id)
    (hcopy : l.consumer.length < UInt64.size) :
    l.publishAt? id off data = some (.ok (), l.published c id off data) := by
  have hover : ¬ l.overflows id off data.length = true := by
    rw [overflows_iff h hl]
    obtain ⟨hstart, hend⟩ := hid.within
    have hlen := h.length_consumer
    have hsize : (c.span id).size = c.sizeOf id := rfl
    omega
  rw [publishAt?_eq, if_neg hover, eval_publish h hid (Nat.lt_trans hid.2 hl.prodAck_lt) hfit]
  rfl

/-- Nothing else is: it is refused, or there is no outcome. -/
theorem publishAt?_refused (h : l.Attached c) (hl : c.LaidOut) {off : Nat} {data : Bytes}
    (hout : ¬ (c.Consumed id ∧ off + data.length ≤ c.sizeOf id)) :
    l.publishAt? id off data = none ∨ ∃ f, l.publishAt? id off data = some (.error f, l) := by
  obtain ⟨f, hf⟩ := eval_publish_refused h hl hout
  rw [publishAt?_eq, hf]
  split
  · exact .inl rfl
  · exact .inr ⟨f, rfl⟩

/-- What was published shows in its buffer. -/
theorem consumed_published (h : l.Attached c) (hid : c.Consumed id) {off : Nat} {data : Bytes}
    (hfit : off + data.length ≤ c.sizeOf id) :
    (l.published c id off data).consumed c id = (l.consumed c id).overwrite off data :=
  Span.read_overwrite hfit (fits_consumer h hid)

/-- And in no other buffer. -/
theorem consumed_published_of_ne {id' : BufferId} (hid : c.Consumed id) (hid' : c.Consumed id')
    (hne : id' ≠ id) {off : Nat} {data : Bytes} (hfit : off + data.length ≤ c.sizeOf id) :
    (l.published c id off data).consumed c id' = l.consumed c id' :=
  Span.read_overwrite_of_apart ((c.apart_span hne).shift hid'.within.1 hid.within.1) hfit

/-- Publishing changes what the remote side shows, and nothing else. -/
theorem publish_eq_ok {l' : Link} (h : l.Attached c) (hid : c.Consumed id)
    (hlt : id.index < c.count) {off : Nat} {data : Bytes}
    (hp : (publish id off data).eval l = (.ok (), l')) :
    ∃ consumer : Bytes, consumer.length = l.consumer.length ∧ l' = { l with consumer } := by
  by_cases hfit : off + data.length ≤ c.sizeOf id
  · rw [eval_publish h hid hlt hfit] at hp
    cases hp
    exact ⟨_, Bytes.length_overwrite _ _ _, rfl⟩
  -- what is too long is refused
  · have hsize : ((c.span id).shift c.consumerPart.start).size = c.sizeOf id := rfl
    unfold publish at hp
    rw [Op.eval_bind_ok (Op.eval_read _), consumerSpan_eq h hid hlt,
      Op.eval_bind_ok (Op.eval_ofExcept _ _), hsize, if_pos (by omega), Op.eval_fail] at hp
    cases hp

/-- Publishing the whole of a buffer makes the remote side show just that. -/
theorem publish_whole (h : l.Attached c) (hid : c.Consumed id) (hlt : id.index < c.count)
    {b : Bytes} (hb : b.length = c.sizeOf id) :
    ∃ l' : Link, (publish id 0 b).eval l = (.ok (), l') ∧ l'.Attached c ∧ l'.consumed c id = b ∧
      l'.producer = l.producer := by
  refine ⟨_, eval_publish h hid hlt (by omega), h.consumer (Bytes.length_overwrite _ _ _), ?_, rfl⟩
  have hplace : ((c.span id).shift c.consumerPart.start).read
      (((c.span id).shift c.consumerPart.start).place b l.consumer) = b :=
    Span.read_place hb (fits_consumer h hid)
  unfold Span.place at hplace
  rw [List.take_of_length_le (show b.length ≤ ((c.span id).shift c.consumerPart.start).size from
    Nat.le_of_eq hb)] at hplace
  exact hplace

/-- A register of a published buffer, seen in the consumer part as a whole. -/
theorem flagAt_consumed {off : Nat} (hoff : off < c.sizeOf id) :
    (l.consumed c id).flagAt off =
      l.consumer.flagAt (((c.span id).shift c.consumerPart.start).start + off) := by
  have hsize : ((c.span id).shift c.consumerPart.start).size = c.sizeOf id := rfl
  unfold Bytes.flagAt consumed
  rw [Span.getElem?_read, hsize, if_pos hoff]

/-! ## The exchange -/

theorem eval_exchange (h : l.Attached c) {producer : Bytes}
    (hp : producer.length = c.producerPart.size) :
    (exchange c.consumerPart.size producer).eval l =
      (.ok l.consumer, { l with producer, transfers := l.transfers + 1 }) := by
  unfold exchange
  rw [Op.eval_bind_ok (Op.eval_read _),
    if_neg (by rw [h.length_consumer]; exact fun hne => hne rfl),
    if_neg (by rw [h.length_producer, hp]; exact fun hne => hne rfl)]
  rfl

/-! ## Logbook entries -/

/-- Where the remote side shows its logbook acknowledges in the consumer part. -/
def place (c : Config) : Nat := (c.span c.statusOut).start - c.consumerPart.start + Status.logOffset

/-- The link after the remote side took the entry in the logbook buffer. -/
def taken (c : Config) (l : Link) : Link :=
  { l with
    consumer := l.consumer.set (place c)
      (acknowledged (l.consumer[place c]?.getD 0) 0 ((l.sent c c.logBuffer)[0]?.getD 0 &&& 1)) }

theorem and_one_eq_iff (x y : UInt8) :
    x &&& 1 = (y &&& ((1 : UInt8) <<< (0 : UInt8))) >>> (0 : UInt8) ↔
      SeqNr.ofLowBit x.toNat = SeqNr.ofLowBit y.toNat := by
  have hx : (x &&& 1).toNat = x.toNat % 2 := by
    rw [UInt8.toNat_and]
    exact Nat.and_one_is_mod _
  have hy : ((y &&& ((1 : UInt8) <<< (0 : UInt8))) >>> (0 : UInt8)).toNat = y.toNat % 2 := by
    rw [show (1 : UInt8) <<< (0 : UInt8) = 1 from rfl, UInt8.toNat_shiftRight, UInt8.toNat_and]
    exact Nat.and_one_is_mod _
  rw [← UInt8.toNat_inj, hx, hy]
  unfold SeqNr.ofLowBit
  rw [Nat.testBit_zero, Nat.testBit_zero]
  rcases Nat.mod_two_eq_zero_or_one x.toNat with h1 | h1
  · rcases Nat.mod_two_eq_zero_or_one y.toNat with h2 | h2
    · simp [h1, h2]
    · simp [h1, h2, SeqNr.ofBit]
  · rcases Nat.mod_two_eq_zero_or_one y.toNat with h2 | h2
    · simp [h1, h2, SeqNr.ofBit]
    · simp [h1, h2]

/-- An acknowledge shows the sequence number it is given for. -/
theorem ofLowBit_acknowledged (flags x : UInt8) :
    SeqNr.ofLowBit (acknowledged flags 0 (x &&& 1)).toNat = SeqNr.ofLowBit x.toNat := by
  unfold SeqNr.ofLowBit acknowledged
  congr 1
  rw [UInt8.toNat_or, Nat.testBit_or, UInt8.toNat_and, Nat.testBit_and, UInt8.toNat_shiftLeft]
  simp [Nat.testBit_zero]

theorem getElem?_consumed_log (hc : c.Accepted) :
    (l.consumed c c.statusOut)[Status.logOffset]? = l.consumer[place c]? := by
  unfold consumed
  rw [Span.getElem?_read, if_pos]
  · rfl
  · show Status.logOffset < c.sizeOf c.statusOut
    rw [hc.statusOut_size]
    decide

/-- What taking an entry comes down to: there is a new one if the buffer and the acknowledge
show different sequence numbers. -/
theorem takeLogEntry?_eq (hc : c.Accepted) (h : l.Attached c) (hout : c.Consumed c.statusOut)
    (hlog : c.Produced c.logBuffer) :
    (((l.sent c c.logBuffer).flagAt LogEntry.seqOffset =
        (l.consumed c c.statusOut).flagAt Status.logOffset) ∧
      l.takeLogEntry? 0 = some ⟨.ok none, l, []⟩) ∨
    (((l.sent c c.logBuffer).flagAt LogEntry.seqOffset ≠
        (l.consumed c c.statusOut).flagAt Status.logOffset) ∧
      ∃ e lines, LogEntry.read (l.sent c c.logBuffer) = .ok e ∧
        l.takeLogEntry? 0 = some ⟨.ok (some e), l.taken c, lines⟩) := by
  have hlen : (l.sent c c.logBuffer).length = LogEntry.bufferSize := by
    rw [length_sent h hlog, hc.logBuffer_size]
  have hst : (l.consumed c c.statusOut).length = Status.outSize := by
    rw [length_consumed h hout, hc.statusOut_size]
  obtain ⟨first, rest, hfirst⟩ : ∃ first rest, l.sent c c.logBuffer = first :: rest :=
    List.exists_cons_of_length_pos (by rw [hlen]; decide)
  obtain ⟨flags, hflags⟩ : ∃ flags, l.consumer[place c]? = some flags := by
    rw [← getElem?_consumed_log hc, List.getElem?_eq_getElem (by rw [hst]; decide)]
    exact ⟨_, rfl⟩
  -- there is always something to read, so only the two numbers decide
  obtain ⟨e, he⟩ := LogEntry.read_of_length hlen
  have hleft : (l.sent c c.logBuffer).flagAt LogEntry.seqOffset = SeqNr.ofLowBit first.toNat := by
    rw [hfirst]
    rfl
  have hright : (l.consumed c c.statusOut).flagAt Status.logOffset =
      SeqNr.ofLowBit flags.toNat := by
    unfold Bytes.flagAt
    rw [getElem?_consumed_log hc, hflags]
    rfl
  rw [hleft, hright]
  have htake : l.takeLogEntry? 0 =
      if first &&& 1 = (flags &&& ((1 : UInt8) <<< (0 : UInt8))) >>> (0 : UInt8) then
        some ⟨.ok none, l, []⟩
      else
        some ⟨.ok (some e), l.taken c, [.tagged .debug "Link" ("Logbook channel " ++
          toString (0 : UInt8).toNat ++ " delivered " ++ e.inspect)]⟩ := by
    unfold takeLogEntry?
    dsimp only
    rw [if_neg (by decide), h.logBuffer, produced_eq h hlog, hfirst]
    dsimp only
    rw [h.statusOut, consumerSpan_eq h hout (Nat.lt_trans hout.2 hc.prodAck_lt)]
    dsimp only
    rw [show ((c.span c.statusOut).shift c.consumerPart.start).start + Status.logOffset = place c
      from rfl, hflags]
    dsimp only
    rw [← hfirst, he]
    unfold taken
    rw [hflags, hfirst, h.statusOut, h.logBuffer]
    rfl
  rw [htake]
  by_cases hbit : first &&& 1 = (flags &&& ((1 : UInt8) <<< (0 : UInt8))) >>> (0 : UInt8)
  · left
    rw [if_pos hbit]
    exact ⟨(and_one_eq_iff _ _).mp hbit, rfl⟩
  · right
    rw [if_neg hbit]
    exact ⟨fun heq => hbit ((and_one_eq_iff _ _).mpr heq), e, _, he, rfl⟩

theorem Attached.taken (h : l.Attached c) : (l.taken c).Attached c := by
  obtain ⟨h1, h2, h3, h4, h5, h6, h7⟩ := h
  exact ⟨h1, h2, h3, by rw [Link.taken, List.length_set]; exact h4, h5, h6, h7⟩

/-- Afterwards the remote side shows the number of the entry it took. -/
theorem flagAt_consumed_taken (hc : c.Accepted) (h : l.Attached c) (hout : c.Consumed c.statusOut) :
    ((l.taken c).consumed c c.statusOut).flagAt Status.logOffset =
      (l.sent c c.logBuffer).flagAt LogEntry.seqOffset := by
  have hst : (l.consumed c c.statusOut).length = Status.outSize := by
    rw [length_consumed h hout, hc.statusOut_size]
  have hlt : place c < l.consumer.length := by
    have hin : (l.consumed c c.statusOut)[Status.logOffset]? ≠ none := by
      rw [List.getElem?_eq_getElem (by rw [hst]; decide)]
      exact fun hne => absurd hne (by simp)
    rw [getElem?_consumed_log hc] at hin
    exact Decidable.byContradiction fun hge => hin (List.getElem?_eq_none (by omega))
  unfold Bytes.flagAt
  rw [getElem?_consumed_log hc, taken, List.getElem?_set_self hlt, Option.getD_some,
    ofLowBit_acknowledged]
  rfl

end Link

end SlimInterface
