import SlimInterface.Proofs.Endpoint.Use

/-!
# What an endpoint sends

Three buffers of the producer part have a writer: the local status buffer, the logbook buffer
and the SSDO buffer. `Endpoint.WellFormed` says what the remote side may rely on: these three
always hold what their layouts ask for, whatever was posted or received, and no other byte was
ever written. `wellFormed_of_run` is the theorem.

`Live.Kempt` is the invariant. It adds to it that the register the status buffer is filled from
holds nothing but an acknowledge of the one channel there is. Each writer keeps its own buffer
in order and does not reach the others, which lie apart, and a transfer writes in front of all
of them.
-/

namespace SlimInterface

variable {ω ι : Type}

/-- A logbook buffer begins with a sequence number, and its reserved bytes are zero. -/
structure LogEntry.WellFormed (b : Bytes) : Prop where
  seq : ∃ s : SeqNr, b[LogEntry.seqOffset]? = some s.toByte
  reserved : ∀ i ∈ [3, 6, 7], b[i]? = some 0

/-- An SSDO buffer can be read as a frame: a sequence number, a reserved zero, a length that is
not beyond the longest payload. -/
structure Frame.WellFormed (b : Bytes) : Prop where
  seq : ∃ s : SeqNr, b[Frame.seqOffset]? = some s.toByte
  reserved : b[1]? = some 0
  length : ∃ n : UInt16, b.wordAt Frame.lengthOffset = .ok n ∧ n.toNat ≤ Frame.maxPayload
  readable : ∃ f, Frame.read b = .ok f

/-- The producer image of an endpoint of `c` is well formed. -/
structure Endpoint.WellFormed (c : Config) (s : Endpoint ω) : Prop where
  /-- Outside the three buffers nothing was written. -/
  blank : ∀ i, s.station.stream.producer.Covers i →
    (∀ id ∈ [c.statusIn, c.logBuffer, c.ssdoProducer], ∀ d,
      s.station.stream.descriptor? id = some d → ¬ d.span.Covers i) →
    s.station.stream.image[i]? = some 0
  status : ∃ q : SeqNr, s.station.stream.buffer? c.statusIn = some [q.toByte, 0, 0, 0]
  log : ∃ b, s.station.stream.buffer? c.logBuffer = some b ∧ LogEntry.WellFormed b
  ssdo : ∃ b, s.station.stream.buffer? c.ssdoProducer = some b ∧ Frame.WellFormed b

/-! ## Writing into a buffer -/

theorem LogEntry.wellFormed_replicate : WellFormed (List.replicate bufferSize 0) := by
  refine ⟨⟨.first, rfl⟩, ?_⟩
  intro i hi
  simp only [List.mem_cons, List.not_mem_nil, or_false] at hi
  rcases hi with rfl | rfl | rfl
  · rfl
  · rfl
  · rfl

/-- An entry is written around the reserved bytes. -/
theorem LogEntry.getElem?_imprint_reserved {seq : SeqNr} {e : LogEntry} {b : Bytes} {i : Nat}
    (hi : i ∈ [3, 6, 7]) : (imprint seq e b)[i]? = b[i]? := by
  simp only [List.mem_cons, List.not_mem_nil, or_false] at hi
  unfold imprint seqOffset
  rw [Bytes.getElem?_overwrite, List.length_singleton, if_neg (by omega),
    getElem?_fill (by unfold IsField; omega)]

theorem LogEntry.WellFormed.imprint {seq : SeqNr} {e : LogEntry} {b : Bytes} (h : WellFormed b)
    (hb : b.length = bufferSize) : WellFormed (imprint seq e b) := by
  refine ⟨⟨seq, getElem?_imprint hb⟩, ?_⟩
  intro i hi
  rw [getElem?_imprint_reserved hi]
  exact h.reserved i hi

/-- What is read as a frame is well formed up to the reserved byte. -/
theorem Frame.wellFormed_of_read {f : Frame} {b : Bytes} (h : read b = .ok f)
    (hreserved : b[1]? = some 0) : WellFormed b := by
  obtain ⟨hseq, length, hlength, hle, -⟩ := read_eq_ok.mp h
  exact ⟨⟨f.seq, Bytes.byteAt_eq_ok.mp hseq⟩, hreserved, ⟨length, hlength, hle⟩, ⟨f, h⟩⟩

theorem Frame.wellFormed_replicate : WellFormed (List.replicate bufferSize 0) :=
  wellFormed_of_read read_replicate rfl

/-- A frame is written around the reserved byte. -/
theorem Frame.WellFormed.imprint {f : Frame} {b : Bytes} (h : WellFormed b)
    (hb : b.length = bufferSize) (hp : f.payload.length ≤ maxPayload) :
    WellFormed (imprint f b) := by
  refine wellFormed_of_read (read_imprint hb hp) ?_
  rw [getElem?_imprint (.inl rfl)]
  exact h.reserved

/-- Filling the status buffer from the register leaves its reserved bytes alone. -/
theorem Status.overwrite_register (q r : SeqNr) :
    Bytes.overwrite [q.toByte, 0, 0, 0] ssdoRxOffset
      (Bytes.littleEndian 2 r.toByte.toUInt16.toNat) = [r.toByte, 0, 0, 0] := by
  cases r <;> rfl

/-- Setting the flag of channel zero leaves nothing but the flag. -/
theorem Status.withFlag_flag (r q : SeqNr) :
    withFlag r.toByte.toUInt16 0 q = q.toByte.toUInt16 := by
  cases r <;> cases q <;> decide

namespace Live

variable {c : Config} {app : Application ω} {net : Transport ω}
  {callback : Option (Op ω Unit)} {k k' : Live ω}

/-! ## The invariant -/

/-- The three buffers are in order, and so is the register one of them is filled from. -/
structure Kempt (c : Config) (k : Live ω) : Prop where
  blank : ∀ i, c.producerPart.Covers i →
    (∀ id ∈ [c.statusIn, c.logBuffer, c.ssdoProducer], ¬ (c.span id).Covers i) →
    k.image[i]? = some 0
  status : ∃ q : SeqNr, k.buffer c c.statusIn = [q.toByte, 0, 0, 0]
  register : ∃ q : SeqNr, k.registers.ssdoRx = q.toByte.toUInt16
  log : LogEntry.WellFormed (k.buffer c c.logBuffer)
  ssdo : Frame.WellFormed (k.buffer c c.ssdoProducer)

theorem kempt_initial (hc : c.Accepted) (w : ω) : (initial c w).Kempt c := by
  refine ⟨?_, ⟨.first, ?_⟩, ⟨.first, rfl⟩, ?_, ?_⟩
  · intro i hi _
    have htotal := c.offset_le_total c.prodAck.index
    have hlt : i < c.total := by
      have hlast : i < c.offset c.prodAck.index + (c.total - c.offset c.prodAck.index) := hi.2
      omega
    show (List.replicate c.total 0)[i]? = some 0
    rw [List.getElem?_replicate, if_pos hlt]
  · rw [buffer_initial, hc.statusIn_size]
    rfl
  · rw [buffer_initial, hc.logBuffer_size]
    exact LogEntry.wellFormed_replicate
  · rw [buffer_initial, hc.ssdoProducer_size]
    exact Frame.wellFormed_replicate

/-- Most steps neither write into the image nor set an acknowledge. -/
theorem Kempt.of_eq (h : k.Kempt c) (himage : k'.image = k.image)
    (hregister : k'.registers.ssdoRx = k.registers.ssdoRx) : k'.Kempt c := by
  obtain ⟨h1, h2, h3, h4, h5⟩ := h
  unfold buffer at h2 h4 h5
  refine ⟨?_, ?_, ?_, ?_, ?_⟩
  · rwa [himage]
  · unfold buffer
    rwa [himage]
  · rwa [hregister]
  · unfold buffer
    rwa [himage]
  · unfold buffer
    rwa [himage]

/-- Writing into one of the three buffers leaves everything outside them alone. -/
theorem Kempt.blank_putBuffer (h : k.Kempt c) {id : BufferId}
    (hid : id ∈ [c.statusIn, c.logBuffer, c.ssdoProducer]) (b : Bytes) :
    ∀ i, c.producerPart.Covers i →
      (∀ id ∈ [c.statusIn, c.logBuffer, c.ssdoProducer], ¬ (c.span id).Covers i) →
      (k.putBuffer c id b).image[i]? = some 0 := by
  intro i hi hout
  rw [putBuffer, Span.getElem?_place_of_not_covers (hout id hid)]
  exact h.blank i hi hout

theorem logBuffer_ne_statusIn (hc : c.Accepted) : c.logBuffer ≠ c.statusIn :=
  Config.ne_of_sizeOf_ne (by rw [hc.logBuffer_size, hc.statusIn_size]; decide)

theorem ssdoProducer_ne_statusIn (hc : c.Accepted) : c.ssdoProducer ≠ c.statusIn :=
  Config.ne_of_sizeOf_ne (by rw [hc.ssdoProducer_size, hc.statusIn_size]; decide)

theorem ssdoProducer_ne_logBuffer (hc : c.Accepted) : c.ssdoProducer ≠ c.logBuffer :=
  Config.ne_of_sizeOf_ne (by rw [hc.ssdoProducer_size, hc.logBuffer_size]; decide)

/-! ## The writers -/

theorem Kempt.afterPost (h : k.Kempt c) (hc : c.Accepted) (hk : k.Sound c) :
    (k.afterPost c).Kempt c := by
  obtain ⟨q, hq⟩ := h.status
  obtain ⟨r, hr⟩ := h.register
  refine ⟨h.blank_putBuffer (by simp) _, ⟨r, ?_⟩, ⟨r, hr⟩, ?_, ?_⟩
  · have hsize : (k.buffer c c.statusIn).length = c.sizeOf c.statusIn := length_buffer hk _
    show (k.putBuffer c c.statusIn _).buffer c c.statusIn = _
    rw [buffer_putBuffer hk (by rw [Bytes.length_overwrite, hsize]), hq, hr,
      Status.overwrite_register]
  · show LogEntry.WellFormed ((k.putBuffer c c.statusIn _).buffer c c.logBuffer)
    rw [buffer_putBuffer_of_ne (logBuffer_ne_statusIn hc)]
    exact h.log
  · show Frame.WellFormed ((k.putBuffer c c.statusIn _).buffer c c.ssdoProducer)
    rw [buffer_putBuffer_of_ne (ssdoProducer_ne_statusIn hc)]
    exact h.ssdo

theorem Kempt.entered (h : k.Kempt c) (hc : c.Accepted) (hk : k.Sound c) (e : LogEntry) :
    (k.entered c e).Kempt c := by
  have hlen := length_logBuffer hc hk
  refine ⟨h.blank_putBuffer (by simp) _, ?_, h.register, ?_, ?_⟩
  · show ∃ q : SeqNr, (k.putBuffer c c.logBuffer _).buffer c c.statusIn = _
    rw [buffer_putBuffer_of_ne (logBuffer_ne_statusIn hc).symm]
    exact h.status
  · show LogEntry.WellFormed ((k.putBuffer c c.logBuffer _).buffer c c.logBuffer)
    rw [buffer_putBuffer hk (by rw [LogEntry.length_imprint, hlen, hc.logBuffer_size])]
    exact h.log.imprint hlen
  · show Frame.WellFormed ((k.putBuffer c c.logBuffer _).buffer c c.ssdoProducer)
    rw [buffer_putBuffer_of_ne (ssdoProducer_ne_logBuffer hc)]
    exact h.ssdo

theorem Kempt.offered (h : k.Kempt c) (hc : c.Accepted) (hk : k.Sound c) {p : Bytes}
    (hp : p.length ≤ Frame.maxPayload) : (k.offered c p).Kempt c := by
  have hlen := length_ssdoProducer hc hk
  refine ⟨h.blank_putBuffer (by simp) _, ?_, h.register, ?_, ?_⟩
  · show ∃ q : SeqNr, (k.putBuffer c c.ssdoProducer _).buffer c c.statusIn = _
    rw [buffer_putBuffer_of_ne (ssdoProducer_ne_statusIn hc).symm]
    exact h.status
  · show LogEntry.WellFormed ((k.putBuffer c c.ssdoProducer _).buffer c c.logBuffer)
    rw [buffer_putBuffer_of_ne (ssdoProducer_ne_logBuffer hc).symm]
    exact h.log
  · show Frame.WellFormed ((k.putBuffer c c.ssdoProducer _).buffer c c.ssdoProducer)
    rw [buffer_putBuffer hk (by rw [Frame.length_imprint, hlen, hc.ssdoProducer_size])]
    exact h.ssdo.imprint hlen hp

/-- A transfer writes in front of the producer part. -/
theorem Kempt.received (h : k.Kempt c) (hc : c.Accepted) (hstatus : c.Produced c.statusIn)
    (hlog : c.Produced c.logBuffer) (hssdo : c.Produced c.ssdoProducer) (b : Bytes) (w : ω) :
    (k.received c b w).Kempt c := by
  have horder := Nat.le_of_lt hc.consAck_lt
  have hbuffer {id : BufferId} (hid : c.Produced id) :
      (k.received c b w).buffer c id = k.buffer c id :=
    Span.read_place_of_apart (Config.apart_consumerPart hid.not_consumed horder)
  obtain ⟨h1, h2, h3, h4, h5⟩ := h
  refine ⟨?_, ?_, h3, ?_, ?_⟩
  · intro i hi hout
    have hmono := c.offset_mono horder
    have hfront : ¬ c.consumerPart.Covers i := by
      obtain ⟨hfirst, -⟩ := hi
      unfold Span.Covers Config.consumerPart
      unfold Config.producerPart at hfirst
      dsimp only at hfirst ⊢
      omega
    show (c.consumerPart.place b k.image)[i]? = some 0
    rw [Span.getElem?_place_of_not_covers hfront]
    exact h1 i hi hout
  · rwa [hbuffer hstatus]
  · rwa [hbuffer hlog]
  · rwa [hbuffer hssdo]

/-- Setting the local acknowledge leaves a register with nothing but an acknowledge. -/
theorem Kempt.flagged (h : k.Kempt c) (q : SeqNr) : (k.flagged q).Kempt c := by
  obtain ⟨r, hr⟩ := h.register
  refine ⟨h.blank, h.status, ⟨q, ?_⟩, h.log, h.ssdo⟩
  show Status.withFlag k.registers.ssdoRx 0 q = _
  rw [hr, Status.withFlag_flag]

end Live

namespace Attended

open Live

variable {c : Config} {app : Application ω} {net : Transport ω} {callbacks : ι → Op ω Unit}
  {k k' : Attended ω} {u : Use ι}

/-! ## Every use -/

theorem kempt_useStep (hc : c.Accepted) (hstatus : c.Produced c.statusIn)
    (hlog : c.Produced c.logBuffer) (hssdo : c.Produced c.ssdoProducer) (hk : k.live.Sound c)
    (h : k.live.Kempt c) (hs : UseStep c app net callbacks k u k') : k'.live.Kempt c := by
  cases hs with
  | post hs =>
    cases hs with
    | busy => exact h
    | posted => exact h.entered hc hk _
  | @receive p _ hs =>
    generalize k.live.admission p = r at hs
    cases hs with
    | refused => exact h
    | queued => exact h.of_eq rfl rfl
  | sync hs =>
    have htimed (w : ω) : (k.live.timed c w).Kempt c := h.of_eq rfl rfl
    cases hs with
    | @refused f w => exact (htimed w).of_eq rfl rfl
    | @broken f w w' b => exact ((htimed w).received hc hstatus hlog hssdo b w').of_eq rfl rfl
    | @moved w w' b => exact (htimed w).received hc hstatus hlog hssdo b w'
  | round hs =>
    have hpost := h.afterPost hc hk
    cases hs with
    | unattended => exact hpost
    | called => exact hpost.of_eq rfl rfl
    | failed => exact hpost.of_eq rfl rfl
  | @async k1 k2 k3 hstep htx hrx =>
    have h1 : k1.Kempt c := by cases hstep <;> exact h.of_eq rfl rfl
    have h2 : k2.Kempt c := by
      cases htx with
      | acknowledged => exact (h1.flagged k1.pending).of_eq rfl rfl
      | _ => exact h1.of_eq rfl rfl
    have hk2 : k2.Sound c := (hk.logStep hstep).txStep htx
    cases hrx with
    | idle => exact h2
    | @posted p rest _ hq =>
      have hrest : ({ k2 with queue := rest } : Live ω).Kempt c := h2.of_eq rfl rfl
      exact hrest.offered hc (hk2.popped hq) (hk2.head_fits hq)
    | postponed => exact h2.of_eq rfl rfl
    | reposted =>
      refine Kempt.of_eq (h2.offered hc hk2 ?_) rfl rfl
      cases hcached : k2.cached with
      | none => exact Nat.zero_le _
      | some p => exact hk2.cached_fits p hcached
    | waiting => exact h2
  | flag => exact h.flagged _
  | strayFlag | strayEntry | strayFrame | attend => exact h

/-- What the invariant says of the stream. -/
theorem wellFormed_of_kempt (hc : c.Accepted) (h : k.live.Kempt c) :
    (k.endpoint c app).WellFormed c := by
  have hbuffer {id : BufferId} (hid : id.index < c.count) :
      (k.endpoint c app).station.stream.buffer? id = some (k.live.buffer c id) :=
    buffer?_station app hid
  obtain ⟨q, hq⟩ := h.status
  refine ⟨?_, ⟨q, ?_⟩, ⟨_, hbuffer (index_logBuffer_lt hc), h.log⟩,
    ⟨_, hbuffer (index_ssdoProducer_lt hc), h.ssdo⟩⟩
  · intro i hi hout
    refine h.blank i hi ?_
    intro id hid hcovers
    have hlt : id.index < c.count := by
      simp only [List.mem_cons, List.not_mem_nil, or_false] at hid
      rcases hid with rfl | rfl | rfl
      · exact index_statusIn_lt hc
      · exact index_logBuffer_lt hc
      · exact index_ssdoProducer_lt hc
    obtain ⟨d, hd, hspan, -⟩ := Config.descriptor_of_lt hlt
    exact hout id hid d hd (by rw [hspan]; exact hcovers)
  · rw [hbuffer (index_statusIn_lt hc), hq]

end Attended

/-- Whatever an application brings along and in whatever order it uses an endpoint, the image
that is sent stays well formed. -/
theorem wellFormed_of_run {c : Config} {app : Application ω} {net : Transport ω}
    {callbacks : ι → Op ω Unit} {w w' : ω} {e s : Endpoint ω} {us : List (Use ι)}
    (hopen : (Endpoint.create c app.hooks).eval w = (.ok e, w'))
    (hstatus : c.Produced c.statusIn) (hlog : c.Produced c.logBuffer)
    (hssdo : c.Produced c.ssdoProducer)
    (hrun : Run (Endpoint.Uses net callbacks) e us s) : s.WellFormed c := by
  obtain ⟨hc, rfl, rfl⟩ := Attended.create_eq_ok.mp hopen
  obtain ⟨k, rfl, -, h⟩ := Attended.invariant (I := fun _ k => k.live.Kempt c) hc
    (Live.kempt_initial hc w')
    (fun hk h hs => Attended.kempt_useStep hc hstatus hlog hssdo hk h hs) hrun
  exact Attended.wellFormed_of_kempt hc h

/-- An entry is posted, an acknowledge set, a frame received and offered, and a cycle ends. -/
theorem wellFormed_of_run_reference :
    let c := Config.reference
    let app : Application Unit := ⟨fun _ => pure (), fun _ => pure (), IncidentHandler.silent⟩
    let net : Transport Unit := ⟨fun _ _ => pure (), fun _ u => (.pending, u)⟩
    let callbacks : Empty → Op Unit Unit := fun i => i.elim
    let us : List (Use Empty) := [.call (.post ⟨2, 1, 0x55, 0x01020304, 7⟩ (.ok .successful)),
      .flag 0 .second (.ok ()), .call (.receive [7] (.ok ())), .call (.async (.ok ())),
      .call (.round (.ok ()))]
    ∃ e s : Endpoint Unit, (Endpoint.create c app.hooks).eval () = (.ok e, ()) ∧
      c.Produced c.statusIn ∧ c.Produced c.logBuffer ∧ c.Produced c.ssdoProducer ∧
      Run (Endpoint.Uses net callbacks) e us s ∧ s.WellFormed c := by
  intro c app net callbacks us
  have hc : c.Accepted := Config.accepted_reference
  have hstatus : c.Produced c.statusIn := by decide
  have hlog : c.Produced c.logBuffer := by decide
  have hssdo : c.Produced c.ssdoProducer := by decide
  have hopen : (Endpoint.create c app.hooks).eval () =
      (.ok ((Attended.initial c ()).endpoint c app), ()) :=
    Attended.create_eq_ok.mpr ⟨hc, rfl, rfl⟩
  let k0 : Live Unit := Live.initial c ()
  have h0 : k0.Sound c := Live.sound_initial c ()
  have hpost := Live.eval_postLogEntry_of_free app hc h0 rfl ⟨2, 1, 0x55, 0x01020304, 7⟩
  have h1 : (k0.entered c ⟨2, 1, 0x55, 0x01020304, 7⟩).Sound c := h0.entryStep (.posted rfl)
  let k2 : Live Unit := (k0.entered c ⟨2, 1, 0x55, 0x01020304, 7⟩).flagged .second
  have h2 : k2.Sound c := ⟨h1.1, h1.2, h1.3⟩
  obtain ⟨r, k3, hreceive, hs⟩ := Live.eval_receiveFrame c app k2 [7]
  have h3 : k3.Sound c := h2.frameStep hs
  obtain rfl : r = .ok () := (congrArg Prod.fst hreceive).symm
  obtain ⟨k4, k5, k6, hasync, hs4, hs5, hs6⟩ := Live.eval_processAsync app net hc h3
  have h6 : k6.Sound c := ((h3.logStep hs4).txStep hs5).rxStep hs6
  have hrun : Run (Endpoint.Uses net callbacks) (k0.endpoint c app) us
      ((k6.afterPost c).endpoint c app) :=
    ((((Run.one (.call (.post hpost))).next (.flag (t := k2.endpoint c app) rfl)).next
      (.call (.receive hreceive))).next (.call (.async hasync))).next
      (.call (.round (Live.eval_processPost app hc h6)))
  exact ⟨_, _, hopen, hstatus, hlog, hssdo, hrun,
    wellFormed_of_run hopen hstatus hlog hssdo hrun⟩

end SlimInterface
