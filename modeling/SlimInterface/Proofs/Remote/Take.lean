import SlimInterface.Proofs.Remote.Link

/-!
# Taking an entry from any link

`takeLogEntry?_eq` says what taking an entry does on a link between two sides that agree about
their layout. A link asks for less: its configuration passes `Config.validate`, so the two parts
are in order, but any buffer may be too short, empty or in the wrong part. `Link.Takes` lists what
taking an entry can come to on any link at all, one constructor for every way through, and
`takes` says that there is no other.

The acknowledge is given before the entry is read. Two ways through therefore change the link:
the one that answers with an entry, and the one that finds a logbook buffer too short to hold one
(`Takes.cut`), which fails and has acknowledged an entry nobody saw. `answered_of_take` is the
account of it for a status buffer of the right size: unless something new is in a buffer that is
too short (`Clipped`), what is acknowledged is the answer, and the acknowledge is one bit
(`Acknowledged`).
-/

namespace SlimInterface

/-! ## Configurations that pass their check -/

/-- The two parts of a configuration that passes its check are in order. -/
theorem Config.ordered_of_validate {c : Config} (h : c.validate = .ok ()) :
    c.consAck.index < c.prodAck.index ∧ c.prodAck.index < c.count := by
  unfold Config.validate at h
  dsimp only at h
  unfold Config.count
  split at h
  · cases h
  · split at h
    · cases h
    · next hord => omega

namespace Link

variable {σ : Type} {c : Config} {l l' : Link} {channel : UInt8}

/-- A link is made for every configuration that passes its check, and for no other. -/
theorem eval_create_eq_ok {s t : σ} :
    (create c).eval s = (.ok l, t) ↔ c.validate = .ok () ∧ l = fresh c ∧ t = s := by
  constructor
  · intro h
    cases hv : c.validate with
    | error f =>
      unfold create at h
      rw [hv, Op.eval_bind_error (Op.eval_ofExcept _ _)] at h
      cases h
    | ok u =>
      obtain ⟨hlt, hcount⟩ := Config.ordered_of_validate hv
      rw [eval_create_of_lt hv hlt hcount] at h
      cases h
      exact ⟨rfl, rfl, rfl⟩
  · rintro ⟨hv, rfl, rfl⟩
    obtain ⟨hlt, hcount⟩ := Config.ordered_of_validate hv
    exact eval_create_of_lt hv hlt hcount _

/-! ## One bit of the acknowledge byte -/

/-- An acknowledge changes the bit it is given for, and no other. -/
theorem testBit_acknowledged (flags first : UInt8) (i : Nat) :
    (acknowledged flags 0 (first &&& 1)).toNat.testBit i =
      if i = 0 then first.toNat.testBit 0 else flags.toNat.testBit i := by
  have hmask : (~~~((1 : UInt8) <<< (0 : UInt8))).toNat = 254 := rfl
  have hbit : ((first &&& 1) <<< (0 : UInt8)).toNat = first.toNat % 2 := by
    rw [show (first &&& 1) <<< (0 : UInt8) = first &&& 1 by simp, UInt8.toNat_and]
    exact Nat.and_one_is_mod _
  unfold acknowledged
  rw [UInt8.toNat_or, UInt8.toNat_and, hmask, hbit, Nat.testBit_or, Nat.testBit_and]
  cases i with
  | zero => simp [Nat.testBit_zero]
  | succ i =>
    -- the bit that was put in has nothing above its lowest place
    have hlow : (first.toNat % 2).testBit (i + 1) = false := by
      refine Nat.testBit_lt_two_pow (Nat.lt_of_lt_of_le (Nat.mod_lt _ Nat.two_pos) ?_)
      exact Nat.pow_le_pow_right Nat.two_pos (show 1 ≤ i + 1 by omega)
    rw [hlow, Bool.or_false, if_neg (by omega)]
    rcases Nat.lt_or_ge (i + 1) 8 with hi | hi
    · have hset : ∀ j < 7, (254 : Nat).testBit (j + 1) = true := by decide
      rw [hset i (by omega), Bool.and_true]
    · have hflags : flags.toNat.testBit (i + 1) = false :=
        Nat.testBit_lt_two_pow (Nat.lt_of_lt_of_le flags.toNat_lt
          (Nat.pow_le_pow_right (by decide) hi))
      rw [hflags, Bool.false_and]

/-- Two sequence numbers are compared by their lowest bits. -/
theorem and_one_eq_iff_testBit (x y : UInt8) :
    x &&& 1 = (y &&& ((1 : UInt8) <<< (0 : UInt8))) >>> (0 : UInt8) ↔
      x.toNat.testBit 0 = y.toNat.testBit 0 := by
  rw [and_one_eq_iff]
  unfold SeqNr.ofLowBit SeqNr.ofBit
  cases x.toNat.testBit 0 <;> cases y.toNat.testBit 0 <;> simp

/-! ## Every way through -/

/-- The link after the byte at `place` was made to acknowledge an entry that starts with
`first`. -/
def acknowledge (place : Nat) (flags first : UInt8) (l : Link) : Link :=
  { l with consumer := l.consumer.set place (acknowledged flags 0 (first &&& 1)) }

/-- Taking an entry, without what it logs. -/
def take? (channel : UInt8) (l : Link) : Option (Except Fault (Option LogEntry) × Link) :=
  (l.takeLogEntry? channel).map fun o => (o.result, o.state)

/-- What taking an entry comes to, by what is found on the way. -/
inductive Takes (l : Link) : UInt8 → Option (Except Fault (Option LogEntry) × Link) → Prop
  /-- There is no such channel. -/
  | stray {channel : UInt8} (h : channel ≠ 0) : Takes l channel (some (.error .invalidParameter, l))
  /-- The logbook buffer is not sent. -/
  | unsent {f : Fault} (h : l.produced l.logBuffer = .error f) : Takes l 0 (some (.error f, l))
  /-- It is empty. -/
  | void (h : l.produced l.logBuffer = .ok []) : Takes l 0 (some (.error .invalidBuffer, l))
  /-- The status buffer is not published. -/
  | unshown {first : UInt8} {rest : Bytes} {f : Fault}
      (hb : l.produced l.logBuffer = .ok (first :: rest))
      (h : l.consumerSpan l.statusOut = .error f) : Takes l 0 (some (.error f, l))
  /-- The acknowledge byte lies behind the end of the consumer part. -/
  | beyond {first : UInt8} {rest : Bytes} {span : Span}
      (hb : l.produced l.logBuffer = .ok (first :: rest))
      (hs : l.consumerSpan l.statusOut = .ok span)
      (h : l.consumer.length ≤ span.start + Status.logOffset) : Takes l 0 none
  /-- The entry was acknowledged before. -/
  | known {first flags : UInt8} {rest : Bytes} {span : Span}
      (hb : l.produced l.logBuffer = .ok (first :: rest))
      (hs : l.consumerSpan l.statusOut = .ok span)
      (hf : l.consumer[span.start + Status.logOffset]? = some flags)
      (h : first.toNat.testBit 0 = flags.toNat.testBit 0) : Takes l 0 (some (.ok none, l))
  /-- The entry is new. -/
  | taken {first flags : UInt8} {rest : Bytes} {span : Span} {e : LogEntry}
      (hb : l.produced l.logBuffer = .ok (first :: rest))
      (hs : l.consumerSpan l.statusOut = .ok span)
      (hf : l.consumer[span.start + Status.logOffset]? = some flags)
      (h : first.toNat.testBit 0 ≠ flags.toNat.testBit 0)
      (he : LogEntry.read (first :: rest) = .ok e) :
      Takes l 0 (some (.ok (some e), l.acknowledge (span.start + Status.logOffset) flags first))
  /-- The entry is new, but the buffer ends before it does. -/
  | cut {first flags : UInt8} {rest : Bytes} {span : Span}
      (hb : l.produced l.logBuffer = .ok (first :: rest))
      (hs : l.consumerSpan l.statusOut = .ok span)
      (hf : l.consumer[span.start + Status.logOffset]? = some flags)
      (h : first.toNat.testBit 0 ≠ flags.toNat.testBit 0)
      (hlen : (first :: rest).length < LogEntry.bufferSize) :
      Takes l 0
        (some (.error .outOfBounds, l.acknowledge (span.start + Status.logOffset) flags first))

theorem takes (l : Link) (channel : UInt8) : l.Takes channel (l.take? channel) := by
  by_cases hch : channel = 0
  swap
  · have hpos : logChannelCount ≤ channel.toNat := by
      have hne : channel.toNat ≠ 0 := fun h => hch (UInt8.toNat_inj.mp h)
      unfold logChannelCount
      omega
    unfold take? takeLogEntry?
    dsimp only
    rw [if_pos hpos]
    exact .stray hch
  subst hch
  unfold take? takeLogEntry?
  dsimp only
  rw [if_neg (by decide)]
  -- from here on the ways part in the order in which things are looked at
  cases hb : l.produced l.logBuffer with
  | error f => exact .unsent hb
  | ok b =>
  cases b with
  | nil => exact .void hb
  | cons first rest =>
  cases hs : l.consumerSpan l.statusOut with
  | error f => exact .unshown hb hs
  | ok span =>
  dsimp only
  cases hf : l.consumer[span.start + Status.logOffset]? with
  | none => exact .beyond hb hs (List.getElem?_eq_none_iff.mp hf)
  | some flags =>
  dsimp only
  by_cases hbit : first.toNat.testBit 0 = flags.toNat.testBit 0
  · rw [if_pos ((and_one_eq_iff_testBit _ _).mpr hbit)]
    exact .known hb hs hf hbit
  · rw [if_neg fun h => hbit ((and_one_eq_iff_testBit _ _).mp h)]
    rcases Nat.lt_or_ge (first :: rest).length LogEntry.bufferSize with hlen | hlen
    · rw [LogEntry.read_of_lt hlen]
      exact .cut hb hs hf hbit hlen
    · obtain ⟨e, he⟩ := LogEntry.read_of_le hlen
      rw [he]
      exact .taken hb hs hf hbit he

/-! ## With a status buffer of the right size -/

/-- The byte in which the remote side shows its logbook acknowledges. -/
def ackByte (c : Config) (l : Link) : UInt8 :=
  (l.consumed c c.statusOut)[Status.logOffset]?.getD 0

/-- The sequence number at the start of a logbook buffer. -/
def seqBit (b : Bytes) : Bool := (b[LogEntry.seqOffset]?.getD 0).toNat.testBit 0

/-- From `l` to `l'` the bit of a channel was changed to acknowledge what is in `b`, and nothing
else was. -/
structure Acknowledged (c : Config) (channel : UInt8) (b : Bytes) (l l' : Link) : Prop where
  consumer : l' = { l with consumer := l'.consumer }
  length : l'.consumer.length = l.consumer.length
  elsewhere : ∀ i, i ≠ place c → l'.consumer[i]? = l.consumer[i]?
  others : ∀ i, i ≠ channel.toNat → (ackByte c l').toNat.testBit i = (ackByte c l).toNat.testBit i
  differed : (ackByte c l).toNat.testBit channel.toNat ≠ seqBit b
  shown : (ackByte c l').toNat.testBit channel.toNat = seqBit b

/-- There is something new in a logbook buffer that is too short for an entry. -/
def Clipped (c : Config) (channel : UInt8) (l : Link) : Prop :=
  channel = 0 ∧ ∃ b, l.produced l.logBuffer = .ok b ∧ 0 < b.length ∧
    b.length < LogEntry.bufferSize ∧ (ackByte c l).toNat.testBit 0 ≠ seqBit b

theorem ackByte_eq (hsize : c.sizeOf c.statusOut = Status.outSize) (l : Link) :
    ackByte c l = l.consumer[place c]?.getD 0 := by
  have hlt : Status.logOffset < ((c.span c.statusOut).shift c.consumerPart.start).size := by
    show Status.logOffset < c.sizeOf c.statusOut
    rw [hsize]
    decide
  unfold ackByte consumed
  rw [Span.getElem?_read, if_pos hlt]
  rfl

theorem ackByte_of_getElem? {flags : UInt8} (hsize : c.sizeOf c.statusOut = Status.outSize)
    (hf : l.consumer[place c]? = some flags) : ackByte c l = flags := by
  rw [ackByte_eq hsize, hf]
  rfl

theorem acknowledged_acknowledge {first flags : UInt8} {rest : Bytes}
    (hsize : c.sizeOf c.statusOut = Status.outSize) (hf : l.consumer[place c]? = some flags)
    (h : first.toNat.testBit 0 ≠ flags.toNat.testBit 0) :
    Acknowledged c 0 (first :: rest) l (l.acknowledge (place c) flags first) := by
  have hlt : place c < l.consumer.length := (List.getElem?_eq_some_iff.mp hf).1
  have hbefore : ackByte c l = flags := ackByte_of_getElem? hsize hf
  have hafter : ackByte c (l.acknowledge (place c) flags first) =
      acknowledged flags 0 (first &&& 1) :=
    ackByte_of_getElem? hsize (List.getElem?_set_self hlt)
  have hseq : seqBit (first :: rest) = first.toNat.testBit 0 := rfl
  refine ⟨rfl, List.length_set, ?_, ?_, ?_, ?_⟩
  · intro i hi
    exact List.getElem?_set_ne hi.symm
  · intro i hi
    rw [hafter, hbefore]
    exact (testBit_acknowledged flags first i).trans (if_neg hi)
  · rw [hbefore, hseq]
    exact h.symm
  · rw [hafter, hseq]
    exact (testBit_acknowledged flags first 0).trans (if_pos rfl)

/-- What an attempt to take an entry of a channel left behind, next to its answer. -/
structure Answered (c : Config) (channel : UInt8) (l : Link) (r : Except Fault (Option LogEntry))
    (l' : Link) : Prop where
  /-- An entry is what the logbook buffer holds, and it is acknowledged. -/
  entry : ∀ e, r = .ok (some e) → ∃ b, l.produced c.logBuffer = .ok b ∧ LogEntry.read b = .ok e ∧
    Acknowledged c channel b l l'
  nothing : r = .ok none → l' = l
  refused : ∀ f, r = .error f → ¬ Clipped c channel l → l' = l
  /-- Of an entry in a buffer that is too short there is only the acknowledge. -/
  clipped : Clipped c channel l → r = .error .outOfBounds ∧
    ∃ b, l.produced c.logBuffer = .ok b ∧ Acknowledged c channel b l l'

/-- An answer that leaves the link alone, if nothing is clipped. -/
theorem answered_error {f : Fault} (h : ¬ Clipped c channel l) :
    Answered c channel l (.error f) l :=
  ⟨nofun, nofun, fun _ _ _ => rfl, fun hcl => absurd hcl h⟩

/-- For every configuration a link is made for whose status buffer has its size and is published,
and whatever the two copies hold: what is taken is what the logbook buffer holds, and only what is
taken is acknowledged, but for an entry in a buffer that is too short. That one is acknowledged
and refused. -/
theorem answered_of_take {l₀ : Link} {s t : σ} (hnew : (create c).eval s = (.ok l₀, t))
    (h : l.Attached c) (hout : c.Consumed c.statusOut)
    (hsize : c.sizeOf c.statusOut = Status.outSize) (channel : UInt8) :
    ∃ r l', l.take? channel = some (r, l') ∧ Answered c channel l r l' := by
  obtain ⟨hv, -, -⟩ := eval_create_eq_ok.mp hnew
  obtain ⟨-, hcount⟩ := Config.ordered_of_validate hv
  -- the status buffer is found, and its acknowledge byte exists
  have hspan : l.consumerSpan l.statusOut =
      .ok ((c.span c.statusOut).shift c.consumerPart.start) := by
    rw [h.statusOut]
    exact consumerSpan_eq h hout (Nat.lt_trans hout.2 hcount)
  have hlt : place c < l.consumer.length := by
    have hin := fits_consumer h hout
    have hwide : ((c.span c.statusOut).shift c.consumerPart.start).size = 12 := hsize
    unfold Span.Fits at hin
    show ((c.span c.statusOut).shift c.consumerPart.start).start + 9 < _
    omega
  have htakes := l.takes channel
  generalize l.take? channel = outcome at htakes ⊢
  cases htakes with
  | stray hch => exact ⟨_, _, rfl, answered_error fun hcl => hch hcl.1⟩
  | unsent hb =>
    refine ⟨_, _, rfl, answered_error ?_⟩
    rintro ⟨-, b, hok, -⟩
    cases hb.symm.trans hok
  | void hb =>
    refine ⟨_, _, rfl, answered_error ?_⟩
    rintro ⟨-, b, hok, hpos, -⟩
    cases hb.symm.trans hok
    cases hpos
  | unshown hb hs => cases hspan.symm.trans hs
  | beyond hb hs hend =>
    cases hspan.symm.trans hs
    exact absurd hlt (Nat.not_lt.mpr hend)
  | known hb hs hf hbit =>
    cases hspan.symm.trans hs
    refine ⟨_, _, rfl, nofun, fun _ => rfl, nofun, ?_⟩
    rintro ⟨-, b, hok, -, -, hne⟩
    cases hb.symm.trans hok
    rw [ackByte_of_getElem? hsize hf] at hne
    exact absurd hbit.symm hne
  | taken hb hs hf hbit he =>
    cases hspan.symm.trans hs
    refine ⟨_, _, rfl, ?_, nofun, nofun, ?_⟩
    · rintro e' ⟨⟩
      exact ⟨_, h.logBuffer ▸ hb, he, acknowledged_acknowledge hsize hf hbit⟩
    · rintro ⟨-, b, hok, -, hshort, -⟩
      cases hb.symm.trans hok
      cases (LogEntry.read_of_lt hshort).symm.trans he
  | cut hb hs hf hbit hshort =>
    cases hspan.symm.trans hs
    have hcl : Clipped c 0 l := by
      refine ⟨rfl, _, hb, Nat.succ_pos _, hshort, ?_⟩
      rw [ackByte_of_getElem? hsize hf]
      exact fun heq => hbit heq.symm
    refine ⟨_, _, rfl, nofun, nofun, fun _ _ hno => absurd hcl hno, fun _ => ?_⟩
    exact ⟨rfl, _, h.logBuffer ▸ hb, acknowledged_acknowledge hsize hf hbit⟩

/-- A layout with a logbook buffer of four bytes. -/
def shortLog : Config where
  sizes := [4, 12, 4, 4]
  consAck := ⟨0⟩
  prodAck := ⟨2⟩
  statusOut := ⟨1⟩
  statusIn := ⟨2⟩
  logBuffer := ⟨3⟩
  ssdoConsumer := ⟨0⟩
  ssdoProducer := ⟨2⟩

/-- Nothing was posted, but the remote side shows the number of a next entry as acknowledged. -/
def shortLink : Link := { fresh shortLog with consumer := (List.replicate 16 0).set 13 1 }

theorem answered_of_take_short : ∃ r l', shortLink.take? 0 = some (r, l') ∧
    r = .error .outOfBounds ∧ ∃ b, shortLink.produced shortLog.logBuffer = .ok b ∧
      Acknowledged shortLog 0 b shortLink l' := by
  have hnew : (create shortLog).eval () = (.ok (fresh shortLog), ()) :=
    eval_create_eq_ok.mpr ⟨rfl, rfl, rfl⟩
  have hattached : shortLink.Attached shortLog :=
    (attached_fresh shortLog).consumer (by decide)
  have hclipped : Clipped shortLog 0 shortLink :=
    ⟨rfl, [0, 0, 0, 0], rfl, by decide, by decide, by decide⟩
  obtain ⟨r, l', htake, hanswer⟩ :=
    answered_of_take hnew hattached (by decide) rfl 0
  exact ⟨r, l', htake, hanswer.clipped hclipped⟩

end Link

end SlimInterface
