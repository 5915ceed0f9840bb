import SlimInterface.Proofs.Endpoint.Live
import SlimInterface.Proofs.Wire

/-!
# What a cycle does

The second half of a cycle always succeeds: `eval_processPost` says that it is
`Live.afterPost`. The first half may fail in two places, and `SyncStep` lists what can happen:
the callback of the application refuses the time, the transfer fails, or the images move.
-/

namespace SlimInterface

variable {σ ω α : Type}

/-! ## Actions -/

namespace Stream

variable {c : Config} {kind : ActionKind} {id : BufferId} {act : Action σ}
  {rest : List (Registration σ)} {image b : Bytes} {w v : σ}

/-- The buffer of an action is placed back, and the rest of the actions follow. -/
theorem eval_runActions_cons (hid : id.index < c.count)
    (hact : act.eval ((c.span id).read image, w) = (.ok (), b, v)) :
    (runActions kind c.descriptors (⟨id, act⟩ :: rest)).eval (image, w) =
      (runActions kind c.descriptors rest).eval ((c.span id).place b image, v) := by
  obtain ⟨d, hd, hspan, -⟩ := Config.descriptor_of_lt hid
  rw [← hspan] at hact ⊢
  rw [runActions, hd]
  dsimp only
  apply Op.eval_bind_ok
  rw [invoke, Op.eval_reporting, Op.eval_within, hact]
  rfl

/-- An action that leaves its buffer alone leaves the image alone. -/
theorem eval_runActions_cons_of_read (hid : id.index < c.count)
    (hact : act.eval ((c.span id).read image, w) = (.ok (), (c.span id).read image, v)) :
    (runActions kind c.descriptors (⟨id, act⟩ :: rest)).eval (image, w) =
      (runActions kind c.descriptors rest).eval (image, v) := by
  rw [eval_runActions_cons hid hact, Span.place_read]

/-- No action follows one that failed. -/
theorem eval_runActions_cons_error {e : Fault} (hid : id.index < c.count)
    (hact : act.eval ((c.span id).read image, w) = (.error e, (c.span id).read image, v)) :
    (runActions kind c.descriptors (⟨id, act⟩ :: rest)).eval (image, w) =
      (.error e, image, v) := by
  obtain ⟨d, hd, hspan, -⟩ := Config.descriptor_of_lt hid
  rw [← hspan] at hact
  rw [runActions, hd]
  dsimp only
  apply Op.eval_bind_error
  rw [invoke, Op.eval_reporting, Op.eval_within, hact]
  show (_, d.span.place (d.span.read image) image, _) = _
  rw [Span.place_read]
  rfl

end Stream

namespace Status

/-- The registers after a status buffer was looked at. -/
def cached (b : Bytes) (r : Registers) : Registers :=
  { r with
    icc := b[iccOffset]?.getD 0
    logTx := b[logOffset]?.getD 0
    ssdoTx := b.word ssdoOffset }

/-- The time in a status buffer. -/
def timeIn (b : Bytes) : TimeStamp := ⟨b.dword timeLowOffset, b.dword timeHighOffset⟩

variable {b : Bytes}

theorem eval_cacheAction (bench : Bench ω) (registers : Nat) (h : b.length = outSize) :
    (cacheAction registers).eval (b, bench) =
      (.ok (), b, bench.setRegisters registers (cached b)) := by
  have hb : b.length = 12 := h
  unfold cacheAction
  rw [Op.eval_bind_ok (Op.eval_read _)]
  dsimp only
  rw [Bytes.byteAt_of_lt (by rw [hb]; decide), Bytes.byteAt_of_lt (by rw [hb]; decide),
    Bytes.wordAt_of_le (by rw [hb]; decide), Op.eval_bind_ok (Op.eval_ofExcept _ _),
    Op.eval_bind_ok (Op.eval_ofExcept _ _), Op.eval_bind_ok (Op.eval_ofExcept _ _),
    Op.eval_onSecond, Op.eval_update]
  rfl

theorem eval_publishAction (bench : Bench ω) (registers : Nat) (h : b.length = inSize) :
    (publishAction registers).eval (b, bench) =
      (.ok (), b.overwrite ssdoRxOffset
        (Bytes.littleEndian 2 (bench.registersAt registers).ssdoRx.toNat), bench) := by
  unfold publishAction
  rw [Op.eval_bind_ok (Op.eval_read _), Op.eval_onFirst, Field.eval_putWord (by rw [h]; decide)]

/-- The time is kept before the application hears of it. -/
theorem eval_timeSyncAction (bench : Bench ω) (registers : Nat) (notify : TimeSync ω)
    (h : b.length = outSize) :
    (timeSyncAction registers notify).eval (b, bench) =
      let kept := bench.setRegisters registers fun r => { r with time := timeIn b }
      let after := (notify (timeIn b)).eval bench.world
      (after.1.mapError fun _ => .timeSyncFailed, b, { kept with world := after.2 }) := by
  have hb : b.length = 12 := h
  unfold timeSyncAction
  rw [Op.eval_bind_ok (Op.eval_read _)]
  dsimp only
  rw [Bytes.dwordAt_of_le (by rw [hb]; decide), Bytes.dwordAt_of_le (by rw [hb]; decide),
    Op.eval_bind_ok (Op.eval_ofExcept _ _), Op.eval_bind_ok (Op.eval_ofExcept _ _),
    Op.eval_bind_ok (by rw [Op.eval_onSecond, Op.eval_update]), Op.eval_onSecond,
    Op.eval_reporting, Bench.onWorld, Op.eval_within]
  rfl

end Status

/-! ## Posting -/

namespace Endpoint

variable {source : Source} {op : Op (Endpoint ω) α} {e e' : Endpoint ω}

theorem eval_posting_ok {a : α} (h : op.eval e = (.ok a, e')) :
    (posting source op).eval e = (.ok a, e') := by
  unfold posting
  rw [Op.eval_bind_ok (Op.eval_attempt _ _), h, Op.eval_bind_ok (Op.eval_read _), onTally,
    Op.eval_within, Tally.eval_check_ok]
  rfl

theorem eval_posting_error {f : Fault} (h : op.eval e = (.error f, e')) :
    (posting source op).eval e =
      (.error f, { e'.setWorld (e'.incidents ⟨source, f⟩ e'.world).1 with
        tally := e'.tally.record ⟨source, f⟩ }) := by
  unfold posting
  rw [Op.eval_bind_ok (Op.eval_attempt _ _), h, Op.eval_bind_ok (Op.eval_read _), onTally,
    Op.eval_within, Tally.eval_check_error]

end Endpoint

namespace Live

variable {c : Config} {app : Application ω} {k k' : Live ω}

/-! ## The second half -/

/-- The endpoint after the post-actions: the acknowledges of the remote side are kept, the
local ones are published, and one more cycle has passed. -/
def afterPost (c : Config) (k : Live ω) : Live ω :=
  { k.putBuffer c c.statusIn ((k.buffer c c.statusIn).overwrite Status.ssdoRxOffset
      (Bytes.littleEndian 2 k.registers.ssdoRx.toNat)) with
    registers := Status.cached (k.buffer c c.statusOut) k.registers
    logTimer := k.logTimer.increment
    retryTimer := k.retryTimer.increment }

theorem Sound.afterPost (h : k.Sound c) : (k.afterPost c).Sound c := by
  obtain ⟨h1, h2, h3⟩ : (k.putBuffer c c.statusIn ((k.buffer c c.statusIn).overwrite
      Status.ssdoRxOffset (Bytes.littleEndian 2 k.registers.ssdoRx.toNat))).Sound c :=
    sound_putBuffer.mpr h
  exact ⟨h1, h2, h3⟩

theorem index_statusOut_lt (hc : c.Accepted) : c.statusOut.index < c.count :=
  Config.index_lt_of_sizeOf (by rw [hc.statusOut_size]; decide)

theorem index_statusIn_lt (hc : c.Accepted) : c.statusIn.index < c.count :=
  Config.index_lt_of_sizeOf (by rw [hc.statusIn_size]; decide)

theorem index_logBuffer_lt (hc : c.Accepted) : c.logBuffer.index < c.count :=
  Config.index_lt_of_sizeOf (by rw [hc.logBuffer_size]; decide)

theorem index_ssdoConsumer_lt (hc : c.Accepted) : c.ssdoConsumer.index < c.count :=
  Config.index_lt_of_sizeOf (by rw [hc.ssdoConsumer_size]; decide)

theorem index_ssdoProducer_lt (hc : c.Accepted) : c.ssdoProducer.index < c.count :=
  Config.index_lt_of_sizeOf (by rw [hc.ssdoProducer_size]; decide)

/-- The post-actions write into the local status buffer only. -/
theorem buffer_afterPost (hc : c.Accepted) {id : BufferId} (h : c.sizeOf id ≠ Status.inSize) :
    (k.afterPost c).buffer c id = k.buffer c id :=
  buffer_putBuffer_of_ne (Config.ne_of_sizeOf_ne (hc.statusIn_size ▸ h))

/-- The actions run in the order in which the channels were opened: the status channel keeps
and publishes the acknowledges, then the two timers advance. -/
theorem eval_postActions (hc : c.Accepted) (h : k.Sound c) :
    (Stream.runActions .post c.descriptors (k.station c app).stream.post).eval
        (k.image, (k.station c app).around) =
      (.ok (), (k.afterPost c).image, ((k.afterPost c).station c app).around) := by
  have hout : (k.buffer c c.statusOut).length = Status.outSize := by
    rw [length_buffer h, hc.statusOut_size]
  have hin : (k.buffer c c.statusIn).length = Status.inSize := by
    rw [length_buffer h, hc.statusIn_size]
  -- the register that is published is not among those that are kept, so the order is immaterial
  let r := Status.cached (k.buffer c c.statusOut) k.registers
  show (Stream.runActions .post c.descriptors
    [⟨c.statusOut, Status.cacheAction 0⟩, ⟨c.statusIn, Status.publishAction 0⟩,
      ⟨c.logBuffer, Bench.tick ⟨logTimeoutCycles, 0⟩⟩,
      ⟨c.ssdoConsumer, Bench.tick ⟨retryCycles, 1⟩⟩]).eval _ = _
  rw [Stream.eval_runActions_cons_of_read (index_statusOut_lt hc)
      (v := (⟨[r], [k.logTimer, k.retryTimer], k.world⟩ : Bench ω))
      (Status.eval_cacheAction _ 0 hout),
    Stream.eval_runActions_cons (index_statusIn_lt hc)
      (v := (⟨[r], [k.logTimer, k.retryTimer], k.world⟩ : Bench ω))
      (Status.eval_publishAction _ 0 hin)]
  show (Stream.runActions .post c.descriptors _).eval ((k.afterPost c).image, _) = _
  rw [Stream.eval_runActions_cons_of_read (index_logBuffer_lt hc)
      (v := (⟨[r], [k.logTimer.increment, k.retryTimer], k.world⟩ : Bench ω)) rfl,
    Stream.eval_runActions_cons_of_read (index_ssdoConsumer_lt hc)
      (v := (⟨[r], [k.logTimer.increment, k.retryTimer.increment], k.world⟩ : Bench ω)) rfl]
  rfl

theorem eval_postImage (app : Application ω) (hc : c.Accepted) (h : k.Sound c) :
    (Site.onImage (Stream.runActions .post (k.station c app).stream.descriptors
        (k.station c app).stream.post)).eval (k.station c app) =
      (.ok (), (k.afterPost c).station c app) := by
  rw [Site.onImage, Op.eval_within]
  dsimp only
  rw [show (k.station c app).stream.image = k.image from rfl,
    show (k.station c app).stream.descriptors = c.descriptors from rfl, eval_postActions hc h]
  rfl

theorem eval_processPost (app : Application ω) (hc : c.Accepted) (h : k.Sound c) :
    Endpoint.processPost.eval (k.endpoint c app) = (.ok (), (k.afterPost c).endpoint c app) := by
  apply Endpoint.eval_posting_ok
  unfold Endpoint.onStation Site.processPost
  rw [Op.eval_within, show (k.endpoint c app).station = k.station c app from rfl,
    Op.eval_bind_ok (Op.eval_read _), Op.eval_bind_ok (eval_postImage app hc h)]
  rfl

/-! ## The first half -/

/-- The endpoint after the application heard of the time. -/
def timed (c : Config) (w : ω) (k : Live ω) : Live ω :=
  { k with
    registers := { k.registers with time := Status.timeIn (k.buffer c c.statusOut) }
    world := w }

/-- The endpoint after a transfer answered with the bytes `b`. -/
def received (c : Config) (b : Bytes) (w : ω) (k : Live ω) : Live ω :=
  { k with image := c.consumerPart.place b k.image, world := w }

/-- The endpoint after an incident was posted. -/
def reported (app : Application ω) (i : Incident) (k : Live ω) : Live ω :=
  { k with world := (app.incidents i k.world).1, tally := k.tally.record i }

theorem eval_posting_error {source : Source} {op : Op (Endpoint ω) α} {e : Endpoint ω} {f : Fault}
    (h : op.eval e = (.error f, k.endpoint c app)) :
    (Endpoint.posting source op).eval e =
      (.error f, (k.reported app ⟨source, f⟩).endpoint c app) :=
  Endpoint.eval_posting_error h

/-- What the first half of a cycle can do. -/
inductive SyncStep (c : Config) (app : Application ω) (k : Live ω) :
    Except Fault Unit → Live ω → Prop
  | refused {f : Fault} {w : ω}
      (htime : (app.timeSync (Status.timeIn (k.buffer c c.statusOut))).eval k.world =
        (.error f, w)) :
      SyncStep c app k (.error .timeSyncFailed)
        ((k.timed c w).reported app ⟨.stream, .timeSyncFailed⟩)
  | broken {f : Fault} {w w' : ω} {b : Bytes}
      (htime : (app.timeSync (Status.timeIn (k.buffer c c.statusOut))).eval k.world = (.ok (), w))
      (hmove : (app.transfer (c.producerPart.read k.image)).eval
        (c.consumerPart.read k.image, w) = (.error f, b, w')) :
      SyncStep c app k (.error .transferError)
        (((k.timed c w).received c b w').reported app ⟨.stream, .transferError⟩)
  | moved {w w' : ω} {b : Bytes}
      (htime : (app.timeSync (Status.timeIn (k.buffer c c.statusOut))).eval k.world = (.ok (), w))
      (hmove : (app.transfer (c.producerPart.read k.image)).eval
        (c.consumerPart.read k.image, w) = (.ok (), b, w')) :
      SyncStep c app k (.ok ()) ((k.timed c w).received c b w')

theorem Sound.timed {w : ω} (h : k.Sound c) : (k.timed c w).Sound c := ⟨h.1, h.2, h.3⟩

theorem Sound.received {b : Bytes} {w : ω} (h : k.Sound c) : (k.received c b w).Sound c :=
  ⟨by rw [Live.received, Span.length_place]; exact h.1, h.2, h.3⟩

theorem Sound.reported {i : Incident} (h : k.Sound c) : (k.reported app i).Sound c :=
  ⟨h.1, h.2, h.3⟩

theorem Sound.syncStep {r : Except Fault Unit} (h : k.Sound c) (hs : SyncStep c app k r k') :
    k'.Sound c := by
  cases hs with
  | refused => exact h.timed.reported
  | broken => exact h.timed.received.reported
  | moved => exact h.timed.received

/-- The pre-actions: there is one, which tells the application the time. -/
theorem eval_preActions (hc : c.Accepted) (h : k.Sound c) {r : Except Fault Unit} {w : ω}
    (htime : (app.timeSync (Status.timeIn (k.buffer c c.statusOut))).eval k.world = (r, w)) :
    (Site.onImage (Stream.runActions .pre (k.station c app).stream.descriptors
        (k.station c app).stream.pre)).eval (k.station c app) =
      (r.mapError fun _ => .timeSyncFailed, (k.timed c w).station c app) := by
  have hout : (k.buffer c c.statusOut).length = Status.outSize := by
    rw [length_buffer h, hc.statusOut_size]
  have hact := Status.eval_timeSyncAction (k.station c app).around 0 app.timeSync hout
  rw [show (k.station c app).around.world = k.world from rfl, htime] at hact
  have hpre : (Stream.runActions .pre c.descriptors
      [⟨c.statusOut, Status.timeSyncAction 0 app.timeSync⟩]).eval
        (k.image, (k.station c app).around) =
      (r.mapError fun _ => .timeSyncFailed, k.image, ((k.timed c w).station c app).around) := by
    cases r with
    | error f =>
      rw [Stream.eval_runActions_cons_error (index_statusOut_lt hc) hact]
      rfl
    | ok u =>
      rw [Stream.eval_runActions_cons_of_read (index_statusOut_lt hc) hact]
      rfl
  rw [Site.onImage, Op.eval_within]
  show (((Stream.runActions .pre c.descriptors
    [⟨c.statusOut, Status.timeSyncAction 0 app.timeSync⟩]).eval
      (k.image, (k.station c app).around)).1, _) = _
  rw [show (k.station c app).stream.image = k.image from rfl,
    show (k.station c app).stream.descriptors = c.descriptors from rfl,
    show (k.station c app).stream.pre = [⟨c.statusOut, Status.timeSyncAction 0 app.timeSync⟩]
      from rfl, hpre]
  rfl

theorem eval_move {r : Except Fault Unit} {b : Bytes} {w : ω}
    (hmove : (app.transfer (c.producerPart.read k.image)).eval
      (c.consumerPart.read k.image, k.world) = (r, b, w)) :
    Site.move.eval (k.station c app) =
      (r.mapError fun _ => .transferError, (k.received c b w).station c app) := by
  unfold Site.move
  rw [Op.eval_bind_ok (Op.eval_read _), Site.onImage, Op.eval_within, Op.eval_reporting,
    Op.eval_within]
  show (Except.mapError _ ((app.transfer (c.producerPart.read k.image)).eval
    (c.consumerPart.read k.image, k.world)).1, _) = _
  -- the transfer of the application works on its part of the bench
  have hwithin : ((k.station c app).stream.transfer (c.producerPart.read k.image)).eval
      (c.consumerPart.read k.image, (k.station c app).around) =
      (r, b, ⟨[k.registers], [k.logTimer, k.retryTimer], w⟩) := by
    show ((Application.hooks app).transfer _).eval _ = _
    unfold Application.hooks
    dsimp only
    rw [Op.eval_within]
    show (((app.transfer _).eval (c.consumerPart.read k.image, k.world)).1, _) = _
    rw [show ((c.consumerPart.read k.image, (k.station c app).around).1,
      (c.consumerPart.read k.image, (k.station c app).around).2.world) =
      (c.consumerPart.read k.image, k.world) from rfl, hmove]
    rfl
  rw [hmove]
  show (_, ({ (k.station c app) with
    stream := { (k.station c app).stream with
      image := c.consumerPart.place (((k.station c app).stream.transfer _).eval
        (c.consumerPart.read k.image, (k.station c app).around)).2.1 k.image }
    around := (((k.station c app).stream.transfer _).eval
        (c.consumerPart.read k.image, (k.station c app).around)).2.2 } : Station ω)) = _
  rw [show (k.station c app).stream.producer.read (k.station c app).stream.image =
    c.producerPart.read k.image from rfl, hwithin]
  rfl

theorem eval_processSync (app : Application ω) (hc : c.Accepted) (h : k.Sound c) :
    ∃ r k', Endpoint.processSync.eval (k.endpoint c app) = (r, k'.endpoint c app) ∧
      SyncStep c app k r k' := by
  rcases htime : (app.timeSync (Status.timeIn (k.buffer c c.statusOut))).eval k.world with ⟨r, w⟩
  have hpre := eval_preActions hc h htime
  cases r with
  | error f =>
    have hon : (Endpoint.onStation Site.processSync).eval (k.endpoint c app) =
        (.error .timeSyncFailed, (k.timed c w).endpoint c app) := by
      unfold Endpoint.onStation Site.processSync
      rw [Op.eval_within, show (k.endpoint c app).station = k.station c app from rfl,
        Op.eval_bind_ok (Op.eval_read _), Op.eval_bind_error hpre]
      rfl
    exact ⟨_, _, eval_posting_error hon, .refused htime⟩
  | ok u =>
    rcases hmove : (app.transfer (c.producerPart.read k.image)).eval
      (c.consumerPart.read k.image, w) with ⟨r, b, w'⟩
    have hon : (Endpoint.onStation Site.processSync).eval (k.endpoint c app) =
        (r.mapError fun _ => .transferError, ((k.timed c w).received c b w').endpoint c app) := by
      unfold Endpoint.onStation Site.processSync
      rw [Op.eval_within, show (k.endpoint c app).station = k.station c app from rfl,
        Op.eval_bind_ok (Op.eval_read _), Op.eval_bind_ok hpre, eval_move (k := k.timed c w) hmove]
      rfl
    cases r with
    | error f => exact ⟨_, _, eval_posting_error hon, .broken htime hmove⟩
    | ok v => exact ⟨_, _, Endpoint.eval_posting_ok hon, .moved htime hmove⟩

end Live

end SlimInterface
