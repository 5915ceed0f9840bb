import SlimInterface.Proofs.Endpoint.Opening

/-!
# Which configurations are admitted

Opening an endpoint goes through seven checks in five units. Each of them depends on the
configuration alone, although the later ones look at the stream that was opened meanwhile:
`Config.imageChecks` and `Config.channelChecks` list them in order, and `Config.violation?` is
what the first of them finds that fails.

`create_outcome` says that nothing else decides. A configuration without a violation opens the
endpoint of `opened` and leaves the world alone; any other is turned down with the fault of its
first violation, which reaches the handler of the application once. What the checks do not
mention is the room for actions. It need not be checked: by the time a channel attaches an
action, the channels before it have shown buffers of so many different sizes that the list,
which is as long as there are buffers, has a free slot (`Config.length_le_count`).
-/

namespace SlimInterface

/-! ## The checks of a configuration -/

namespace Config

variable {c : Config} {id : BufferId} {size : Nat}

/-- What is wrong with the number of buffers and the two acknowledge registers. -/
def imageFault? (c : Config) : Option Fault :=
  if 0 < c.count ∧ c.count ≤ Stream.maxBufferCount ∧ c.consAck.index < c.prodAck.index ∧
      c.prodAck.index < c.count then
    if c.sizeOf c.consAck = 0 ∨ c.sizeOf c.prodAck = 0 then some .invalidBuffer else none
  else some .invalidParameter

/-- What is wrong with the layout: some buffer is empty. -/
def layoutFault? (c : Config) : Option Fault :=
  if ∀ n ∈ c.sizes, 0 < n then none else some .invalidBuffer

/-- What is wrong with the buffer of a channel: there is none, or it has another size. -/
def misfit? (c : Config) (id : BufferId) (size : Nat) : Option Fault :=
  if id.index < c.count then
    if c.sizeOf id = size then none else some (.bufferSizeMismatch size (c.sizeOf id))
  else some .invalidParameter

/-- The checks of the image, each with the unit that makes it and the fault it finds. -/
def imageChecks (c : Config) : List (Source × Option Fault) :=
  [(.internal, c.imageFault?), (.stream, c.layoutFault?)]

/-- The checks of the channel buffers. -/
def channelChecks (c : Config) : List (Source × Option Fault) :=
  [(.status, c.misfit? c.statusOut Status.outSize),
    (.status, c.misfit? c.statusIn Status.inSize),
    (.logbook, c.misfit? c.logBuffer LogEntry.bufferSize),
    (.ssdo, c.misfit? c.ssdoConsumer Frame.bufferSize),
    (.ssdo, c.misfit? c.ssdoProducer Frame.bufferSize)]

/-- What the first check that fails finds. -/
def firstFault? (checks : List (Source × Option Fault)) : Option Incident :=
  checks.findSome? fun check => check.2.map (Incident.mk check.1)

/-- What the first of the seven checks that fails finds. -/
def violation? (c : Config) : Option Incident := firstFault? (c.imageChecks ++ c.channelChecks)

/-- Two checks that one unit makes one after the other are one check. -/
theorem firstFault?_merge (unit : Source) (a b : Option Fault)
    (rest : List (Source × Option Fault)) :
    firstFault? ((unit, a) :: (unit, b) :: rest) = firstFault? ((unit, a.or b) :: rest) := by
  cases a <;> rfl

theorem firstFault?_none (unit : Source) (rest : List (Source × Option Fault)) :
    firstFault? ((unit, none) :: rest) = firstFault? rest := rfl

theorem firstFault?_single (unit : Source) (a : Option Fault) :
    firstFault? [(unit, a)] = a.map (Incident.mk unit) := by
  cases a <;> rfl

theorem firstFault?_append (first rest : List (Source × Option Fault)) :
    firstFault? (first ++ rest) = (firstFault? first).or (firstFault? rest) :=
  List.findSome?_append

theorem misfit?_eq_none (hs : 0 < size) : c.misfit? id size = none ↔ c.sizeOf id = size := by
  unfold misfit?
  by_cases hlt : id.index < c.count
  · simp [hlt]
  · rw [if_neg hlt]
    exact iff_of_false (fun h => by cases h) fun h => hlt (index_lt_of_sizeOf (by omega))

theorem firstFault?_imageChecks : firstFault? c.imageChecks = none ↔ c.LaidOut := by
  have hchecks : firstFault? c.imageChecks = none ↔
      c.imageFault? = none ∧ c.layoutFault? = none := by
    simp [firstFault?, imageChecks]
  rw [hchecks]
  unfold imageFault? layoutFault?
  constructor
  · intro h
    obtain ⟨himage, hlayout⟩ := h
    split at himage
    · next hord =>
      split at hlayout
      · next hpos => exact ⟨hord.1, hord.2.1, hpos, hord.2.2.1, hord.2.2.2⟩
      · cases hlayout
    · cases himage
  · intro h
    have hcons := h.sizeOf_pos (Nat.lt_trans h.consAck_lt h.prodAck_lt)
    have hprod := h.sizeOf_pos h.prodAck_lt
    rw [if_pos ⟨h.count_pos, h.count_le, h.consAck_lt, h.prodAck_lt⟩, if_neg (by omega),
      if_pos h.size_pos]
    exact ⟨rfl, rfl⟩

/-- Every check passes for the configurations an endpoint accepts, and for no other. -/
theorem violation?_eq_none : c.violation? = none ↔ c.Accepted := by
  have hchannels : firstFault? c.channelChecks = none ↔ c.sizeOf c.statusOut = Status.outSize ∧
      c.sizeOf c.statusIn = Status.inSize ∧ c.sizeOf c.logBuffer = LogEntry.bufferSize ∧
      c.sizeOf c.ssdoConsumer = Frame.bufferSize ∧
      c.sizeOf c.ssdoProducer = Frame.bufferSize := by
    rw [← misfit?_eq_none (by decide), ← misfit?_eq_none (by decide),
      ← misfit?_eq_none (by decide), ← misfit?_eq_none (by decide),
      ← misfit?_eq_none (by decide)]
    simp [firstFault?, channelChecks]
  unfold violation?
  rw [firstFault?_append, Option.or_eq_none_iff, firstFault?_imageChecks, hchannels]
  constructor
  · intro h
    obtain ⟨hlaid, hout, hin, hlog, hconsumer, hproducer⟩ := h
    exact ⟨hlaid, hout, hin, hlog, hconsumer, hproducer⟩
  · intro h
    exact ⟨h.toLaidOut, h.statusOut_size, h.statusIn_size, h.logBuffer_size, h.ssdoConsumer_size,
      h.ssdoProducer_size⟩

/-- Of two misfits the one that is checked first is found. -/
example : ({ reference with statusIn := ⟨1⟩, logBuffer := ⟨9⟩ } : Config).violation? =
    some ⟨.status, .bufferSizeMismatch 4 12⟩ := by decide

theorem sizeOf_eq_iff (hs : 0 < size) : c.sizeOf id = size ↔ c.sizes[id.index]? = some size := by
  unfold sizeOf
  cases hid : c.sizes[id.index]? with
  | none => simp [Nat.ne_of_lt hs]
  | some n => simp

/-- What an endpoint accepts, read off the list of sizes. -/
theorem accepted_iff : c.Accepted ↔
    (1 ≤ c.count ∧ c.count ≤ 16) ∧ (∀ n ∈ c.sizes, n ≠ 0) ∧
      (c.consAck.index < c.prodAck.index ∧ c.prodAck.index < c.count) ∧
      c.sizes[c.statusOut.index]? = some 12 ∧ c.sizes[c.statusIn.index]? = some 4 ∧
      c.sizes[c.logBuffer.index]? = some 16 ∧ c.sizes[c.ssdoConsumer.index]? = some 256 ∧
      c.sizes[c.ssdoProducer.index]? = some 256 := by
  rw [← sizeOf_eq_iff (by decide), ← sizeOf_eq_iff (by decide), ← sizeOf_eq_iff (by decide),
    ← sizeOf_eq_iff (by decide), ← sizeOf_eq_iff (by decide)]
  constructor
  · intro h
    obtain ⟨⟨hpos, hle, hsizes, hcons, hprod⟩, hout, hin, hlog, hconsumer, hproducer⟩ := h
    exact ⟨⟨hpos, hle⟩, fun n hn => Nat.ne_of_gt (hsizes n hn), ⟨hcons, hprod⟩, hout, hin, hlog,
      hconsumer, hproducer⟩
  · intro h
    obtain ⟨⟨hpos, hle⟩, hsizes, ⟨hcons, hprod⟩, hout, hin, hlog, hconsumer, hproducer⟩ := h
    exact ⟨⟨hpos, hle, fun n hn => Nat.pos_of_ne_zero (hsizes n hn), hcons, hprod⟩, hout, hin,
      hlog, hconsumer, hproducer⟩

/-- No check is about room for actions. -/
theorem violation?_fault_ne {i : Incident} (h : c.violation? = some i) :
    i.fault ≠ .noFreeActionSlot := by
  have himage : c.imageFault? ≠ some .noFreeActionSlot := by
    unfold imageFault?
    split
    · split <;> simp
    · simp
  have hlayout : c.layoutFault? ≠ some .noFreeActionSlot := by
    unfold layoutFault?
    split <;> simp
  have hmisfit (id : BufferId) (size : Nat) : c.misfit? id size ≠ some .noFreeActionSlot := by
    unfold misfit?
    split
    · split <;> simp
    · simp
  obtain ⟨check, hmem, hcheck⟩ := List.exists_of_findSome?_eq_some h
  obtain ⟨f, hf, rfl⟩ := Option.map_eq_some_iff.mp hcheck
  intro hslot
  obtain rfl : f = .noFreeActionSlot := hslot
  unfold imageChecks channelChecks at hmem
  simp only [List.cons_append, List.nil_append, List.mem_cons, List.not_mem_nil, or_false] at hmem
  rcases hmem with rfl | rfl | rfl | rfl | rfl | rfl | rfl
  · exact himage hf
  · exact hlayout hf
  all_goals exact hmisfit _ _ hf

end Config

/-! ## Turning a configuration down -/

namespace Endpoint

variable {ω α : Type} {c : Config} {hooks : Hooks ω}

/-- A step of the construction that fails is posted under the unit it came from. -/
theorem eval_opening_error {source : Source} {op : Op (Station ω) α} {p : Tally × Station ω}
    {s : Station ω} {f : Fault} (h : op.eval p.2 = (.error f, s)) :
    (opening hooks source op).eval p =
      (.error f, p.1.record ⟨source, f⟩,
        Station.setWorld s (hooks.incidents ⟨source, f⟩ (Station.world s)).1) := by
  unfold opening checked
  have hop : (Op.attempt (Op.onSecond op)).eval p = (.ok (.error f), p.1, s) := by
    rw [Op.eval_attempt, Op.eval_onSecond, h]
  rw [Op.eval_bind_ok hop, Op.eval_within, Tally.eval_check_error]

theorem validate_error {f : Fault} (h : c.imageFault? = some f) : c.validate = .error f := by
  unfold Config.imageFault? at h
  unfold Config.validate
  unfold Config.count at h
  dsimp only
  split at h
  · next hord =>
    obtain ⟨hpos, hle, hcons, hprod⟩ := hord
    rw [if_neg (by omega), if_neg (by omega)]
    split at h
    · next hzero =>
      cases h
      rw [if_pos hzero]
    · cases h
  · next hord =>
    cases h
    by_cases hcount : c.sizes.length = 0 ∨ Stream.maxBufferCount < c.sizes.length
    · rw [if_pos hcount]
    · rw [if_neg hcount, if_pos (by omega)]

/-- What passes the check of the image as a whole. -/
theorem validate_ok (h : c.imageFault? = none) :
    c.validate = .ok () ∧ 0 < c.count ∧ c.count ≤ Stream.maxBufferCount := by
  unfold Config.imageFault? at h
  split at h
  · next hord =>
    split at h
    · cases h
    · next hzero =>
      obtain ⟨hpos, hle, hcons, hprod⟩ := hord
      refine ⟨?_, hpos, hle⟩
      unfold Config.count at hpos hle hprod
      unfold Config.validate
      rw [if_neg (by omega), if_neg (by omega), if_neg hzero]
  · cases h

theorem eval_createStream_error {τ : Type} {f : Fault} (t : τ) (hpos : 0 < c.count)
    (hle : c.count ≤ Stream.maxBufferCount) (h : c.layoutFault? = some f) :
    (Stream.create c.descriptors hooks.transfer c.consAck c.prodAck).eval t = (.error f, t) := by
  unfold Config.layoutFault? at h
  split at h
  · cases h
  next hsizes =>
  cases h
  have hbreak : Descriptor.firstBreak? 0 0 c.descriptors ≠ none := by
    intro hnone
    have hcount : 0 + c.sizes.length ≤ 256 := by
      unfold Config.count Stream.maxBufferCount at hle
      omega
    exact hsizes ((Descriptor.firstBreak?_layoutFrom hcount).mp hnone)
  rw [Stream.eval_create, Config.length_descriptors, if_neg (by omega), if_pos hbreak]

/-- The stream is not opened over a configuration that fails one of the first two checks. -/
theorem eval_openStream_error {i : Incident} {p : Tally × ω}
    (h : Config.firstFault? c.imageChecks = some i) :
    (openStream c hooks).eval p =
      (.error i.fault, p.1.record i, (hooks.incidents i p.2).1) := by
  unfold Config.imageChecks at h
  unfold openStream
  cases himage : c.imageFault? with
  | some f =>
    rw [himage] at h
    cases h
    rw [validate_error himage]
    exact Op.eval_bind_error (Tally.eval_check_error ..)
  | none =>
    obtain ⟨hvalid, hpos, hle⟩ := validate_ok himage
    cases hlayout : c.layoutFault? with
    | none =>
      rw [himage, hlayout] at h
      cases h
    | some f =>
      rw [himage, hlayout] at h
      cases h
      have hopen : (Op.attempt (Stream.create c.descriptors hooks.transfer c.consAck
          c.prodAck)).eval p = (.ok (.error f), p) := by
        rw [Op.eval_attempt, eval_createStream_error p hpos hle hlayout]
      rw [hvalid, Op.eval_bind_ok (Tally.eval_check_ok ..), Op.eval_bind_ok hopen,
        Tally.eval_check_error]

/-! ### The channels -/

section Channels

variable {id outId inId : BufferId} {size : Nat} {f : Fault} {s : Station ω}

/-- The check of a channel buffer sees the descriptor the configuration gives it. -/
theorem descriptor?_cases (hd : s.stream.descriptors = c.descriptors)
    (h : c.misfit? id size = some f) :
    s.stream.descriptor? id = none ∧ f = .invalidParameter ∨
      ∃ d, s.stream.descriptor? id = some d ∧ d.size ≠ size ∧
        f = .bufferSizeMismatch size d.size := by
  unfold Stream.descriptor?
  rw [hd]
  unfold Config.misfit? at h
  by_cases hlt : id.index < c.count
  · obtain ⟨d, hdesc, -, hsize⟩ := Config.descriptor_of_lt hlt
    rw [if_pos hlt] at h
    split at h
    · cases h
    · next hne =>
      cases h
      exact .inr ⟨d, hdesc, by rwa [hsize], by rw [hsize]⟩
  · rw [if_neg hlt] at h
    cases h
    refine .inl ⟨List.getElem?_eq_none ?_, rfl⟩
    rw [Config.length_descriptors]
    omega

theorem eval_checkBuffer_error (hd : s.stream.descriptors = c.descriptors)
    (h : c.misfit? id size = some f) :
    (Status.checkBuffer id size).eval s = (.error f, s) := by
  rw [Status.checkBuffer, Op.eval_bind_ok (Op.eval_read s)]
  rcases descriptor?_cases hd h with ⟨hnone, rfl⟩ | ⟨d, hsome, hsize, rfl⟩
  · rw [hnone]
    rfl
  · rw [hsome]
    dsimp only
    rw [if_neg hsize]
    rfl

theorem eval_frameCheckBuffer_error (hd : s.stream.descriptors = c.descriptors)
    (h : c.misfit? id Frame.bufferSize = some f) :
    (Frame.checkBuffer id).eval s = (.error f, s) := by
  rw [Frame.checkBuffer, Op.eval_bind_ok (Op.eval_read s)]
  rcases descriptor?_cases hd h with ⟨hnone, rfl⟩ | ⟨d, hsome, hsize, rfl⟩
  · rw [hnone]
    rfl
  · rw [hsome]
    dsimp only
    rw [if_neg hsize]
    rfl

theorem eval_statusCreate_error (notify : TimeSync ω) (hd : s.stream.descriptors = c.descriptors)
    (h : (c.misfit? outId Status.outSize).or (c.misfit? inId Status.inSize) = some f) :
    (Status.create outId inId notify).eval s = (.error f, s) := by
  unfold Status.create
  cases hout : c.misfit? outId Status.outSize with
  | some g =>
    rw [hout] at h
    cases h
    exact Op.eval_bind_error (eval_checkBuffer_error hd hout)
  | none =>
    rw [hout, Option.none_or] at h
    have hfits := (Config.misfit?_eq_none (by decide)).mp hout
    have hcheck : (Status.checkBuffer outId Status.outSize).eval s = (.ok (), s) := by
      refine checkBuffer_eq_ok.mpr ⟨?_, rfl⟩
      unfold Stream.descriptor?
      rw [hd]
      exact (descriptor_size_iff c outId (by decide)).mpr hfits
    rw [Op.eval_bind_ok hcheck]
    exact Op.eval_bind_error (eval_checkBuffer_error hd h)

theorem eval_logCreate_error (status : Status) (hd : s.stream.descriptors = c.descriptors)
    (h : c.misfit? id LogEntry.bufferSize = some f) :
    (LogChannel.create 0 id status).eval s = (.error f, s) := by
  rw [LogChannel.create, if_neg (by decide), Op.eval_bind_ok (Op.eval_read s)]
  rcases descriptor?_cases hd h with ⟨hnone, rfl⟩ | ⟨d, hsome, hsize, rfl⟩
  · rw [hnone]
    rfl
  · rw [hsome]
    dsimp only
    rw [if_pos hsize]
    rfl

/-- A station that was given `n` more post-actions. -/
structure Grown (n : Nat) (s t : Station ω) : Prop where
  descriptors : t.stream.descriptors = s.stream.descriptors
  post : t.stream.post.length = s.stream.post.length + n
  world : Station.world t = Station.world s

theorem exists_statusCreate (notify : TimeSync ω) (hd : s.stream.descriptors = c.descriptors)
    (hout : c.sizeOf outId = Status.outSize) (hin : c.sizeOf inId = Status.inSize)
    (hpre : s.stream.pre.length < c.count) (hpost : s.stream.post.length + 1 < c.count) :
    ∃ status t, (Status.create outId inId notify).eval s = (.ok status, t) ∧ Grown 2 s t := by
  refine ⟨_, _, (statusCreate_eq_ok notify hd).mpr ⟨hout, hin, hpre, hpost, rfl, rfl⟩, rfl, ?_, rfl⟩
  exact List.length_append

theorem exists_logCreate (status : Status) (hd : s.stream.descriptors = c.descriptors)
    (hsize : c.sizeOf id = LogEntry.bufferSize) (hpost : s.stream.post.length < c.count) :
    ∃ log t, (LogChannel.create 0 id status).eval s = (.ok log, t) ∧ Grown 1 s t := by
  refine ⟨_, _, (logCreate_eq_ok hd).mpr ⟨hsize, hpost, rfl, rfl⟩, rfl, ?_, rfl⟩
  exact List.length_append

/-- The transmitting side may already be open when the receiving side fails. -/
theorem eval_ssdoCreate_error (status : Status) (hd : s.stream.descriptors = c.descriptors)
    (hroom : c.sizeOf outId = Frame.bufferSize → s.stream.post.length < c.count)
    (h : (c.misfit? outId Frame.bufferSize).or (c.misfit? inId Frame.bufferSize) = some f) :
    ∃ t, (SsdoChannel.create 0 outId inId status).eval s = (.error f, t) ∧
      Station.world t = Station.world s := by
  rw [SsdoChannel.create, if_neg (by decide)]
  cases hout : c.misfit? outId Frame.bufferSize with
  | some g =>
    rw [hout] at h
    cases h
    have hcheck := eval_frameCheckBuffer_error hd hout
    exact ⟨s, Op.eval_bind_error (Op.eval_bind_error hcheck), rfl⟩
  | none =>
    rw [hout, Option.none_or] at h
    have hfits := (Config.misfit?_eq_none (by decide)).mp hout
    have htx := (@transmitCreate_eq_ok ω c outId status s _ _ hd).mpr
      ⟨hfits, hroom hfits, rfl, rfl⟩
    have hrx (t : Station ω) (ht : t.stream.descriptors = c.descriptors) :
        (Receive.create 0 inId status).eval t = (.error f, t) :=
      Op.eval_bind_error (eval_frameCheckBuffer_error ht h)
    exact ⟨_, (Op.eval_bind_ok htx).trans (Op.eval_bind_error (hrx _ hd)), rfl⟩

end Channels

/-- Opening the channels on the bare stream fails with the first misfit, and posts it. The
channels before it have been attached by then, each with room for its actions. -/
theorem eval_openChannels_error {t : Tally} {w : ω} {i : Incident}
    (h : Config.firstFault? c.channelChecks = some i) :
    ∃ q : Tally × Station ω, (openChannels c hooks).eval (t, ⟨bareStream c hooks, .empty w⟩) =
      (.error i.fault, q) ∧ Station.world q.2 = (hooks.incidents i w).1 := by
  rw [Config.channelChecks, Config.firstFault?_merge] at h
  unfold openChannels
  -- the status channel
  cases hfirst : (c.misfit? c.statusOut Status.outSize).or (c.misfit? c.statusIn Status.inSize) with
  | some f =>
    rw [hfirst] at h
    cases h
    have hstatus := eval_statusCreate_error hooks.timeSync
      (s := ⟨bareStream c hooks, .empty w⟩) rfl hfirst
    exact ⟨_, Op.eval_bind_error (eval_opening_error hstatus), rfl⟩
  | none =>
  rw [hfirst, Config.firstFault?_none] at h
  obtain ⟨hout, hin⟩ := Option.or_eq_none_iff.mp hfirst
  rw [Config.misfit?_eq_none (by decide)] at hout hin
  have htwo : 2 ≤ c.count := by
    have hsizes : [c.statusOut, c.statusIn].map c.sizeOf = [Status.outSize, Status.inSize] := by
      simp only [List.map_cons, List.map_nil, hout, hin]
    exact Config.length_le_count hsizes (by decide) (by decide)
  obtain ⟨status, s, hstatus, hs⟩ := exists_statusCreate hooks.timeSync
    (s := ⟨bareStream c hooks, .empty w⟩) rfl hout hin (show 0 < _ by omega)
    (show 0 + 1 < _ by omega)
  rw [Op.eval_bind_ok (opening_eq_ok.mpr ⟨_, hstatus, rfl⟩)]
  have hlength : s.stream.post.length = 2 := hs.post
  -- the logbook channel
  cases hlog : c.misfit? c.logBuffer LogEntry.bufferSize with
  | some f =>
    rw [hlog] at h
    cases h
    have hcreate := eval_logCreate_error status hs.descriptors hlog
    refine ⟨_, Op.eval_bind_error (eval_opening_error hcreate), ?_⟩
    show (hooks.incidents _ (Station.world s)).1 = _
    rw [hs.world]
    rfl
  | none =>
  rw [hlog] at h
  rw [Config.misfit?_eq_none (by decide)] at hlog
  have hthree : 3 ≤ c.count := by
    have hsizes : [c.statusOut, c.statusIn, c.logBuffer].map c.sizeOf =
        [Status.outSize, Status.inSize, LogEntry.bufferSize] := by
      simp only [List.map_cons, List.map_nil, hout, hin, hlog]
    exact Config.length_le_count hsizes (by decide) (by decide)
  obtain ⟨log, u, hcreate, hu⟩ := exists_logCreate status hs.descriptors hlog (by omega)
  rw [Op.eval_bind_ok (opening_eq_ok.mpr ⟨_, hcreate, rfl⟩)]
  have hlength' := hu.post
  -- the SSDO channel
  have hroom (hconsumer : c.sizeOf c.ssdoConsumer = Frame.bufferSize) :
      u.stream.post.length < c.count := by
    have hsizes : [c.statusOut, c.statusIn, c.logBuffer, c.ssdoConsumer].map c.sizeOf =
        [Status.outSize, Status.inSize, LogEntry.bufferSize, Frame.bufferSize] := by
      simp only [List.map_cons, List.map_nil, hout, hin, hlog, hconsumer]
    have hfour : 4 ≤ c.count := Config.length_le_count hsizes (by decide) (by decide)
    omega
  rw [Config.firstFault?_none, Config.firstFault?_merge, Config.firstFault?_single] at h
  obtain ⟨f, hssdo, rfl⟩ := Option.map_eq_some_iff.mp h
  obtain ⟨v, hfail, hworld⟩ := eval_ssdoCreate_error status
    (hu.descriptors.trans hs.descriptors) hroom hssdo
  refine ⟨_, Op.eval_bind_error (eval_opening_error hfail), ?_⟩
  show (hooks.incidents _ (Station.world v)).1 = _
  rw [hworld, hu.world, hs.world]
  rfl

/-! ## The decision -/

/-- Whether an endpoint is opened depends on the seven checks alone. An endpoint that is opened
is the one of `opened`, and the world stays as it is; otherwise the first violation is the
answer, and the handler was told of it once and of nothing else. -/
theorem create_outcome (c : Config) (hooks : Hooks ω) (w : ω) :
    (create c hooks).eval w =
        (match c.violation? with
          | none => (.ok (opened c hooks w), w)
          | some i => (.error i.fault, (hooks.incidents i w).1)) ∧
      ((∃ e, (create c hooks).eval w = (.ok e, w)) ↔
        (1 ≤ c.count ∧ c.count ≤ 16) ∧ (∀ n ∈ c.sizes, n ≠ 0) ∧
          (c.consAck.index < c.prodAck.index ∧ c.prodAck.index < c.count) ∧
          c.sizes[c.statusOut.index]? = some 12 ∧ c.sizes[c.statusIn.index]? = some 4 ∧
          c.sizes[c.logBuffer.index]? = some 16 ∧ c.sizes[c.ssdoConsumer.index]? = some 256 ∧
          c.sizes[c.ssdoProducer.index]? = some 256) ∧
      ((create c hooks).eval w).1 ≠ .error .noFreeActionSlot := by
  have heval : (create c hooks).eval w =
      (match c.violation? with
        | none => (.ok (opened c hooks w), w)
        | some i => (.error i.fault, (hooks.incidents i w).1)) := by
    cases hv : c.violation? with
    | none => exact create_eq_ok.mpr ⟨Config.violation?_eq_none.mp hv, rfl, rfl⟩
    | some i =>
      dsimp only
      unfold Config.violation? at hv
      rw [Config.firstFault?_append] at hv
      rw [eval_create]
      cases himage : Config.firstFault? c.imageChecks with
      | some j =>
        rw [himage] at hv
        cases hv
        rw [eval_openStream_error himage]
      | none =>
        rw [himage, Option.none_or] at hv
        obtain ⟨q, hq, hworld⟩ := @eval_openChannels_error ω c hooks .empty w i hv
        rw [openStream_eq_ok.mpr ⟨Config.firstFault?_imageChecks.mp himage, rfl, rfl⟩]
        dsimp only
        rw [hq, ← hworld]
        rfl
  refine ⟨heval, ?_, ?_⟩
  · rw [← Config.accepted_iff]
    constructor
    · intro h
      obtain ⟨e, he⟩ := h
      exact (create_eq_ok.mp he).1
    · intro h
      exact ⟨_, create_eq_ok.mpr ⟨h, rfl, rfl⟩⟩
  · rw [heval]
    cases hv : c.violation? with
    | none => exact fun h => by cases h
    | some i => exact fun h => Config.violation?_fault_ne hv (Except.error.inj h)

end Endpoint

end SlimInterface
