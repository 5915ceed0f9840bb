import SlimInterface.Endpoint.Endpoint
import SlimInterface.Proofs.Cycle.Opening
import SlimInterface.Proofs.Layout
import SlimInterface.Proofs.Ssdo.TransmitStep

/-!
# Opening an endpoint

Which endpoint results from a configuration: `Endpoint.opened` writes it out, and
`Endpoint.create_eq_ok` says that opening succeeds for an accepted configuration and for
no other, with exactly that endpoint.
-/

namespace SlimInterface

variable {σ ω α : Type}

/-! ## Steps of the construction -/

namespace Descriptor

/-- Buffers that were laid out lie where they should, unless one of them is empty. -/
theorem firstBreak?_layoutFrom {sizes : List Nat} {index offset : Nat}
    (h : index + sizes.length ≤ 256) :
    firstBreak? index offset (layoutFrom index offset sizes) = none ↔ ∀ n ∈ sizes, 0 < n := by
  have hsizes := map_size_layoutFrom index offset sizes
  rw [← contiguousFrom_iff, contiguousFrom_layout (by rw [length_layoutFrom]; exact h), hsizes,
    and_iff_right rfl]
  conv => rhs; rw [← hsizes, List.forall_mem_map]
  simp only [Nat.pos_iff_ne_zero]

end Descriptor

namespace Endpoint

variable {c : Config} {hooks : Hooks ω}

/-! ## The stream -/

/-- The stream of a configuration before a channel was opened on it. -/
def bareStream (c : Config) (hooks : Hooks ω) : Stream (Bench ω) where
  descriptors := c.descriptors
  image := List.replicate c.total 0
  consumer := c.consumerPart
  producer := c.producerPart
  transfer := hooks.transfer
  pre := []
  post := []
  onSync := none

theorem create_bareStream_eq_ok {τ : Type} {s : Stream (Bench ω)} {t u : τ} :
    (Stream.create c.descriptors hooks.transfer c.consAck c.prodAck).eval t = (.ok s, u) ↔
      c.LaidOut ∧ s = bareStream c hooks ∧ u = t := by
  rw [Stream.create_eq_ok, Config.length_descriptors]
  have hbreak (hle : c.count ≤ Stream.maxBufferCount) :
      Descriptor.firstBreak? 0 0 c.descriptors = none ↔ ∀ n ∈ c.sizes, 0 < n :=
    Descriptor.firstBreak?_layoutFrom (by unfold Config.count Stream.maxBufferCount at hle; omega)
  have hspans (h : c.LaidOut) : Descriptor.spanOf c.descriptors c.consAck.index c.prodAck.index =
        c.consumerPart ∧
      Descriptor.spanOf c.descriptors c.prodAck.index c.count = c.producerPart := by
    have hcons := h.consAck_lt
    have hprod := h.prodAck_lt
    rw [Config.spanOf_descriptors c (by omega) (by omega),
      Config.spanOf_descriptors c (by omega) (by omega), Config.offset_count]
    exact ⟨rfl, rfl⟩
  constructor
  · intro h
    obtain ⟨⟨hpos, hle⟩, hnone, ⟨hcons, hprod⟩, rfl, rfl⟩ := h
    have hl : c.LaidOut := ⟨hpos, hle, (hbreak hle).mp hnone, hcons, hprod⟩
    rw [Config.totalSize_descriptors, (hspans hl).1, (hspans hl).2]
    exact ⟨hl, rfl, rfl⟩
  · intro h
    obtain ⟨hl, rfl, rfl⟩ := h
    rw [Config.totalSize_descriptors, (hspans hl).1, (hspans hl).2]
    exact ⟨⟨hl.count_pos, hl.count_le⟩, (hbreak hl.count_le).mpr hl.size_pos,
      ⟨hl.consAck_lt, hl.prodAck_lt⟩, rfl, rfl⟩

/-- What can be laid out passes the check of the image as a whole. -/
theorem validate_of_laidOut (h : c.LaidOut) : c.validate = .ok () := by
  have hcons := h.sizeOf_pos (Nat.lt_trans h.consAck_lt h.prodAck_lt)
  have hprod := h.sizeOf_pos h.prodAck_lt
  obtain ⟨h1, h2, -, h4, h5⟩ := h
  unfold Config.count at h1 h2 h5
  unfold Config.validate
  rw [if_neg (by omega), if_neg (by omega), if_neg (by omega)]

theorem openStream_eq_ok {s : Stream (Bench ω)} {p q : Tally × ω} :
    (openStream c hooks).eval p = (.ok s, q) ↔ c.LaidOut ∧ s = bareStream c hooks ∧ q = p := by
  unfold openStream
  simp only [Op.eval_bind_eq_ok, Tally.check_eq_ok, Op.eval_attempt, Prod.mk.injEq,
    Except.ok.injEq]
  constructor
  · intro h
    obtain ⟨_, t, ⟨-, ht⟩, r, u, hr, hs, hq⟩ := h
    have hopen : (Stream.create c.descriptors hooks.transfer c.consAck c.prodAck).eval t =
        (.ok s, u) := Prod.ext (hr.1.trans hs) hr.2
    obtain ⟨hl, hbare, hu⟩ := create_bareStream_eq_ok.mp hopen
    exact ⟨hl, hbare, (hq.trans hu).trans ht⟩
  · intro h
    obtain ⟨h, hs, hq⟩ := h
    have hopen := (create_bareStream_eq_ok (t := p) (u := p)).mpr ⟨h, hs, rfl⟩
    exact ⟨(), p, ⟨validate_of_laidOut h, rfl⟩, _, p,
      ⟨congrArg Prod.fst hopen, congrArg Prod.snd hopen⟩, rfl, hq⟩

/-! ## The channels -/

/-- A step of the construction succeeds as its operation does, and posts nothing then. -/
theorem opening_eq_ok {source : Source} {op : Op (Station ω) α} {p q : Tally × Station ω} {a : α} :
    (opening hooks source op).eval p = (.ok a, q) ↔
      ∃ s, op.eval p.2 = (.ok a, s) ∧ q = (p.1, s) := by
  unfold opening checked
  simp only [Op.eval_bind_eq_ok, Op.eval_attempt, Op.eval_within, Op.eval_onSecond, Prod.mk.injEq,
    Except.ok.injEq]
  constructor
  · intro h
    obtain ⟨r, t, ⟨hr, rfl⟩, hc, rfl⟩ := h
    cases r with
    | error e =>
      rw [Tally.eval_check_error] at hc
      exact absurd hc (by simp)
    | ok b =>
      rw [Tally.eval_check_ok] at hc ⊢
      cases hc
      exact ⟨_, Prod.ext hr rfl, rfl⟩
  · intro h
    obtain ⟨s, hop, rfl⟩ := h
    exact ⟨.ok a, (p.1, s), ⟨congrArg Prod.fst hop, by rw [hop]⟩, by rw [Tally.eval_check_ok],
      by rw [Tally.eval_check_ok]; rfl⟩

/-- A buffer passes the check of its size if the configuration gives it that size. -/
theorem descriptor_size_iff (c : Config) (id : BufferId) {size : Nat} (hs : 0 < size) :
    (∃ d, c.descriptors[id.index]? = some d ∧ d.size = size) ↔ c.sizeOf id = size := by
  constructor
  · intro h
    obtain ⟨d, hd, rfl⟩ := h
    rw [Config.getElem?_descriptors] at hd
    obtain ⟨n, hn, rfl⟩ := Option.map_eq_some_iff.mp hd
    unfold Config.sizeOf
    rw [hn]
    rfl
  · intro h
    have hlt : id.index < c.count := Config.index_lt_of_sizeOf (by omega)
    obtain ⟨d, hd, -, hsize⟩ := Config.descriptor_of_lt hlt
    exact ⟨d, hd, hsize.trans h⟩

theorem checkBuffer_eq_ok {id : BufferId} {size : Nat} {s t : Station ω} {u : Unit} :
    (Status.checkBuffer id size).eval s = (.ok u, t) ↔
      (∃ d, s.stream.descriptor? id = some d ∧ d.size = size) ∧ t = s := by
  rw [Status.checkBuffer, Op.eval_bind_ok (Op.eval_read s)]
  cases hd : s.stream.descriptor? id with
  | none => simp [Op.eval_bind]
  | some d =>
    by_cases hs : d.size = size
    · simp [hs, eq_comm]
    · simp [hs, Op.eval_bind]

theorem statusCreate_eq_ok (notify : TimeSync ω) {outId inId : BufferId} {s t : Station ω}
    {status : Status} (hd : s.stream.descriptors = c.descriptors) :
    (Status.create outId inId notify).eval s = (.ok status, t) ↔
      c.sizeOf outId = Status.outSize ∧ c.sizeOf inId = Status.inSize ∧
      s.stream.pre.length < c.count ∧ s.stream.post.length + 1 < c.count ∧
      status = ⟨s.around.registers.length⟩ ∧
      t = { stream := { s.stream with
              pre := s.stream.pre ++
                [⟨outId, Status.timeSyncAction s.around.registers.length notify⟩]
              post := s.stream.post ++
                [⟨outId, Status.cacheAction s.around.registers.length⟩,
                  ⟨inId, Status.publishAction s.around.registers.length⟩] }
            around := { s.around with registers := s.around.registers ++ [.clear] } } := by
  have hout := descriptor_size_iff c outId (show 0 < Status.outSize by decide)
  have hin := descriptor_size_iff c inId (show 0 < Status.inSize by decide)
  have hlen : s.stream.descriptors.length = c.count := by rw [hd, Config.length_descriptors]
  unfold Status.create
  simp only [Op.eval_bind_eq_ok, checkBuffer_eq_ok, Station.attach_eq_ok, Op.eval_log, Op.eval_pure,
    Station.eval_addRegisters, Stream.descriptor?]
  rw [← hd] at hout hin
  rw [← hlen, ← hout, ← hin]
  constructor
  · intro h
    obtain ⟨-, _, ⟨ho, rfl⟩, -, _, ⟨hi, rfl⟩, _, _, ⟨⟩, -, _, ⟨-, hpre, rfl⟩, -, _,
      ⟨-, -, rfl⟩, -, _, ⟨-, hpost, rfl⟩, -, _, ⟨⟩, ⟨⟩⟩ := h
    refine ⟨ho, hi, hpre, by simpa [Stream.actions, Stream.append] using hpost, rfl, ?_⟩
    simp [Stream.append]
  · intro h
    obtain ⟨ho, hi, hpre, hpost, rfl, rfl⟩ := h
    have hne : s.stream.descriptors[outId.index]? ≠ none := by
      obtain ⟨d, hd, -⟩ := ho
      simp [hd]
    have hne' : s.stream.descriptors[inId.index]? ≠ none := by
      obtain ⟨d, hd, -⟩ := hi
      simp [hd]
    refine ⟨(), s, ⟨ho, rfl⟩, (), s, ⟨hi, rfl⟩, _, _, rfl, (), _, ⟨hne, hpre, rfl⟩, (), _,
      ⟨hne, ?_, rfl⟩, (), _, ⟨hne', ?_, rfl⟩, (), _, rfl, ?_⟩
    · show s.stream.post.length < s.stream.descriptors.length
      omega
    · simpa [Stream.actions, Stream.append] using hpost
    · simp [Stream.append]

theorem logCreate_eq_ok {id : BufferId} {status : Status} {s t : Station ω} {log : LogChannel}
    (hd : s.stream.descriptors = c.descriptors) :
    (LogChannel.create 0 id status).eval s = (.ok log, t) ↔
      c.sizeOf id = LogEntry.bufferSize ∧ s.stream.post.length < c.count ∧
      log = ⟨0, id, .second, false, ⟨logTimeoutCycles, s.around.counters.length⟩, status⟩ ∧
      t = { stream := { s.stream with
              post := s.stream.post ++
                [⟨id, Bench.tick ⟨logTimeoutCycles, s.around.counters.length⟩⟩] }
            around := { s.around with counters := s.around.counters ++ [.idle] } } := by
  have hsize := descriptor_size_iff c id (show 0 < LogEntry.bufferSize by decide)
  have hlen : s.stream.descriptors.length = c.count := by rw [hd, Config.length_descriptors]
  rw [← hd] at hsize
  unfold LogChannel.create
  rw [if_neg (by decide), Op.eval_bind_ok (Op.eval_read s), ← hlen, ← hsize]
  cases hb : s.stream.descriptor? id with
  | none =>
    have hb' : s.stream.descriptors[id.index]? = none := hb
    simp [Op.eval_bind, hb']
  | some d =>
    have hb' : s.stream.descriptors[id.index]? = some d := hb
    dsimp only
    by_cases hs : d.size = LogEntry.bufferSize
    · rw [if_neg (by simpa using hs)]
      simp only [Op.eval_bind_eq_ok, Station.eval_addTimer, Station.attach_eq_ok, Op.eval_log,
        Op.eval_pure]
      constructor
      · intro h
        obtain ⟨_, _, ⟨⟩, -, _, ⟨-, hpost, rfl⟩, -, _, ⟨⟩, ⟨⟩⟩ := h
        exact ⟨⟨d, hb', hs⟩, hpost, rfl, rfl⟩
      · intro h
        obtain ⟨-, hpost, rfl, rfl⟩ := h
        exact ⟨_, _, rfl, (), _, ⟨by simp [hb], hpost, rfl⟩, (), _, rfl, rfl⟩
    · rw [if_pos hs]
      simp [Op.eval_bind, hb', hs]

theorem transmitCreate_eq_ok {id : BufferId} {status : Status} {s t : Station ω} {tx : Transmit}
    (hd : s.stream.descriptors = c.descriptors) :
    (Transmit.create 0 id status).eval s = (.ok tx, t) ↔
      c.sizeOf id = Frame.bufferSize ∧ s.stream.post.length < c.count ∧
      tx = ⟨0, id, .waitForFrame, .first, .first, none, [],
        ⟨retryCycles, s.around.counters.length⟩, status⟩ ∧
      t = { stream := { s.stream with
              post := s.stream.post ++
                [⟨id, Bench.tick ⟨retryCycles, s.around.counters.length⟩⟩] }
            around := { s.around with counters := s.around.counters ++ [.idle] } } := by
  have hsize := descriptor_size_iff c id (show 0 < Frame.bufferSize by decide)
  have hlen : s.stream.descriptors.length = c.count := by rw [hd, Config.length_descriptors]
  rw [← hd] at hsize
  rw [Transmit.create_eq_ok, ← hlen, ← hsize]
  rfl

theorem receiveCreate_eq_ok {id : BufferId} {status : Status} {s t : Station ω} {rx : Receive}
    (hd : s.stream.descriptors = c.descriptors) :
    (Receive.create 0 id status).eval s = (.ok rx, t) ↔
      c.sizeOf id = Frame.bufferSize ∧
      rx = ⟨0, id, .waitForFrame, .second, false, [], none, status⟩ ∧ t = s := by
  have hsize := descriptor_size_iff c id (show 0 < Frame.bufferSize by decide)
  rw [← hd] at hsize
  unfold Receive.create
  simp only [Op.eval_bind_eq_ok, Frame.checkBuffer_eq_ok, Op.eval_log, Op.eval_pure,
    Stream.descriptor?]
  rw [← hsize]
  constructor
  · intro h
    obtain ⟨-, _, ⟨hb, rfl⟩, -, _, ⟨⟩, ⟨⟩⟩ := h
    exact ⟨hb, rfl, rfl⟩
  · intro h
    obtain ⟨hb, rfl, rfl⟩ := h
    exact ⟨(), t, ⟨hb, rfl⟩, (), _, rfl, rfl⟩

theorem ssdoCreate_eq_ok {consumer producer : BufferId} {status : Status} {s t : Station ω}
    {ssdo : SsdoChannel} (hd : s.stream.descriptors = c.descriptors) :
    (SsdoChannel.create 0 consumer producer status).eval s = (.ok ssdo, t) ↔
      c.sizeOf consumer = Frame.bufferSize ∧ c.sizeOf producer = Frame.bufferSize ∧
      s.stream.post.length < c.count ∧
      ssdo = ⟨⟨0, consumer, .waitForFrame, .first, .first, none, [],
          ⟨retryCycles, s.around.counters.length⟩, status⟩,
        ⟨0, producer, .waitForFrame, .second, false, [], none, status⟩⟩ ∧
      t = { stream := { s.stream with
              post := s.stream.post ++
                [⟨consumer, Bench.tick ⟨retryCycles, s.around.counters.length⟩⟩] }
            around := { s.around with counters := s.around.counters ++ [.idle] } } := by
  unfold SsdoChannel.create
  rw [if_neg (by decide)]
  simp only [Op.eval_bind_eq_ok, Op.eval_pure]
  constructor
  · intro h
    obtain ⟨tx, u, htx, rx, v, hrx, ⟨⟩⟩ := h
    obtain ⟨hc, hpost, rfl, rfl⟩ := (transmitCreate_eq_ok hd).mp htx
    obtain ⟨hp, rfl, rfl⟩ := (receiveCreate_eq_ok (by exact hd)).mp hrx
    exact ⟨hc, hp, hpost, rfl, rfl⟩
  · intro h
    obtain ⟨hc, hp, hpost, rfl, rfl⟩ := h
    exact ⟨_, _, (transmitCreate_eq_ok hd).mpr ⟨hc, hpost, rfl, rfl⟩, _, _,
      (receiveCreate_eq_ok (by exact hd)).mpr ⟨hp, rfl, rfl⟩, rfl⟩

/-! ## The endpoint -/

/-- The endpoint a configuration opens, in the world `w`: no buffer was written, no register
filled, no timer started, and every channel waits. -/
def opened (c : Config) (hooks : Hooks ω) (w : ω) : Endpoint ω where
  station :=
    { stream := { bareStream c hooks with
        pre := [⟨c.statusOut, Status.timeSyncAction 0 hooks.timeSync⟩]
        post := [⟨c.statusOut, Status.cacheAction 0⟩, ⟨c.statusIn, Status.publishAction 0⟩,
          ⟨c.logBuffer, Bench.tick ⟨logTimeoutCycles, 0⟩⟩,
          ⟨c.ssdoConsumer, Bench.tick ⟨retryCycles, 1⟩⟩] }
      around := ⟨[.clear], [.idle, .idle], w⟩ }
  status := ⟨0⟩
  log := ⟨0, c.logBuffer, .second, false, ⟨logTimeoutCycles, 0⟩, ⟨0⟩⟩
  ssdo := ⟨⟨0, c.ssdoConsumer, .waitForFrame, .first, .first, none, [], ⟨retryCycles, 1⟩, ⟨0⟩⟩,
    ⟨0, c.ssdoProducer, .waitForFrame, .second, false, [], none, ⟨0⟩⟩⟩
  tally := .empty
  incidents := hooks.incidents

/-- Four buffers of four different sizes leave room for four actions. -/
theorem four_le_count (h : c.Accepted) : 4 ≤ c.count := by
  have hsizes : [c.statusOut, c.statusIn, c.logBuffer, c.ssdoConsumer].map c.sizeOf =
      [Status.outSize, Status.inSize, LogEntry.bufferSize, Frame.bufferSize] := by
    simp only [List.map_cons, List.map_nil, h.statusOut_size, h.statusIn_size, h.logBuffer_size,
      h.ssdoConsumer_size]
  exact Config.length_le_count hsizes (by decide) (by decide)

theorem openChannels_eq_ok {w : ω} {t : Tally} {q : Tally × Station ω}
    {channels : Status × LogChannel × SsdoChannel} (hl : c.LaidOut) :
    (openChannels c hooks).eval (t, ⟨bareStream c hooks, .empty w⟩) = (.ok channels, q) ↔
      c.Accepted ∧
      channels = ((opened c hooks w).status, (opened c hooks w).log, (opened c hooks w).ssdo) ∧
      q = (t, (opened c hooks w).station) := by
  unfold openChannels
  simp only [Op.eval_bind_eq_ok, opening_eq_ok, Op.eval_log, Op.eval_pure]
  constructor
  · intro h
    obtain ⟨status, _, ⟨s1, h1, rfl⟩, log, _, ⟨s2, h2, rfl⟩, ssdo, _, ⟨s3, h3, rfl⟩, -, _, ⟨⟩,
      ⟨⟩⟩ := h
    obtain ⟨hout, hin, -, -, rfl, rfl⟩ := (statusCreate_eq_ok hooks.timeSync (c := c) rfl).mp h1
    obtain ⟨hlog, -, rfl, rfl⟩ := (logCreate_eq_ok (c := c) rfl).mp h2
    obtain ⟨hc, hp, -, rfl, rfl⟩ := (ssdoCreate_eq_ok (c := c) rfl).mp h3
    exact ⟨⟨hl, hout, hin, hlog, hc, hp⟩, rfl, rfl⟩
  · intro h
    obtain ⟨h, rfl, rfl⟩ := h
    -- every buffer could have an action of its own, and there are four post-actions
    have hroom := four_le_count h
    have h1 := (statusCreate_eq_ok hooks.timeSync (c := c) (s := ⟨bareStream c hooks, .empty w⟩)
      rfl).mpr ⟨h.statusOut_size, h.statusIn_size,
        show 0 < _ by omega, show 0 + 1 < _ by omega, rfl, rfl⟩
    refine ⟨_, _, ⟨_, h1, rfl⟩, _, _, ⟨_, (logCreate_eq_ok (c := c) rfl).mpr
      ⟨h.logBuffer_size, show 2 < _ by omega, rfl, rfl⟩, rfl⟩, ?_⟩
    exact ⟨_, _, ⟨_, (ssdoCreate_eq_ok (c := c) rfl).mpr
      ⟨h.ssdoConsumer_size, h.ssdoProducer_size, show 3 < _ by omega, rfl, rfl⟩, rfl⟩,
      (), _, rfl, rfl⟩

theorem eval_create (c : Config) (hooks : Hooks ω) (w : ω) :
    (create c hooks).eval w =
      match (openStream c hooks).eval (.empty, w) with
      | (.error e, q) => (.error e, q.2)
      | (.ok stream, q) =>
        match (openChannels c hooks).eval (q.1, ⟨stream, .empty q.2⟩) with
        | (.error e, r) => (.error e, r.2.around.world)
        | (.ok (status, log, ssdo), r) =>
          (.ok ⟨r.2, status, log, ssdo, r.1, hooks.incidents⟩, r.2.around.world) := by
  unfold create Op.eval Op.run
  dsimp only
  rcases openStream c hooks (.empty, w) with ⟨_ | stream, ⟨tally, w1⟩, lines⟩
  · rfl
  · dsimp only
    rcases openChannels c hooks (tally, ⟨stream, .empty w1⟩) with ⟨_ | ⟨status, log, ssdo⟩, _, _⟩
    · rfl
    · rfl

/-- An endpoint can be opened over an accepted configuration and over no other, and it is then
the one of `opened`; the world stays as it is. -/
theorem create_eq_ok {w w' : ω} {e : Endpoint ω} :
    (create c hooks).eval w = (.ok e, w') ↔ c.Accepted ∧ e = opened c hooks w ∧ w' = w := by
  rw [eval_create]
  rcases ho : (openStream c hooks).eval (.empty, w) with ⟨_ | stream, q⟩
  · simp only [Prod.mk.injEq, reduceCtorEq, false_and, false_iff, not_and]
    intro h
    rw [openStream_eq_ok.mpr ⟨h.toLaidOut, rfl, rfl⟩] at ho
    exact absurd ho (by simp)
  · obtain ⟨hl, rfl, rfl⟩ := openStream_eq_ok.mp ho
    dsimp only
    rcases hc : (openChannels c hooks).eval (.empty, ⟨bareStream c hooks, .empty w⟩) with
      ⟨_ | channels, r⟩
    · simp only [Prod.mk.injEq, reduceCtorEq, false_and, false_iff, not_and]
      intro h
      rw [(openChannels_eq_ok hl).mpr ⟨h, rfl, rfl⟩] at hc
      exact absurd hc (by simp)
    · obtain ⟨h, rfl, rfl⟩ := (openChannels_eq_ok hl).mp hc
      constructor
      · intro h
        cases h
        exact ⟨h, rfl, rfl⟩
      · intro h
        obtain ⟨-, rfl, rfl⟩ := h
        rfl

end Endpoint

end SlimInterface
