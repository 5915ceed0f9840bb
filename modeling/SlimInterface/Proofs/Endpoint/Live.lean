import SlimInterface.Proofs.Endpoint.Opening

/-!
# What of an endpoint changes

An opened endpoint is mostly fixed: its layout, its actions, the timers and registers its
channels hold. `Live` is the rest, and `Live.endpoint` the endpoint it belongs to.
`create_eq_ok_live` says that opening yields one of these, with `Live.initial`; the entry
points keep it that way, and say what they do as a change of `Live`.

The application works on a world of its own. It reaches the endpoint through its answers
only.
-/

namespace SlimInterface

variable {ω : Type}

/-- What an application brings along. -/
structure Application (ω : Type) where
  transfer : Transfer ω
  timeSync : TimeSync ω
  incidents : IncidentHandler ω

/-- The hooks of an application: its part of the bench is the world. -/
def Application.hooks (app : Application ω) : Hooks ω where
  transfer producer := (app.transfer producer).within (fun p => (p.1, p.2.world))
    fun q p => (q.1, { p.2 with world := q.2 })
  timeSync := app.timeSync
  incidents := app.incidents

/-- All that changes of an endpoint while it runs. -/
structure Live (ω : Type) where
  image : Bytes
  registers : Registers
  logTimer : Counter
  retryTimer : Counter
  world : ω
  logSeq : SeqNr
  logLocked : Bool
  txState : TransmitState
  acked : SeqNr
  pending : SeqNr
  rejected : Option UInt8
  payload : Bytes
  rxState : ReceiveState
  rxSeq : SeqNr
  outstanding : Bool
  queue : List Bytes
  cached : Option Bytes
  tally : Tally

namespace Live

variable {c : Config} {app : Application ω}

/-! ## The endpoint of a live state -/

/-- The station. -/
def station (c : Config) (app : Application ω) (k : Live ω) : Station ω where
  stream :=
    { (Endpoint.opened c app.hooks k.world).station.stream with image := k.image }
  around := ⟨[k.registers], [k.logTimer, k.retryTimer], k.world⟩

/-- The logbook channel. -/
def log (c : Config) (k : Live ω) : LogChannel :=
  ⟨0, c.logBuffer, k.logSeq, k.logLocked, ⟨logTimeoutCycles, 0⟩, ⟨0⟩⟩

/-- The transmitting side of the SSDO channel. -/
def tx (c : Config) (k : Live ω) : Transmit :=
  ⟨0, c.ssdoConsumer, k.txState, k.acked, k.pending, k.rejected, k.payload, ⟨retryCycles, 1⟩, ⟨0⟩⟩

/-- The receiving side of the SSDO channel. -/
def rx (c : Config) (k : Live ω) : Receive :=
  ⟨0, c.ssdoProducer, k.rxState, k.rxSeq, k.outstanding, k.queue, k.cached, ⟨0⟩⟩

/-- The endpoint. -/
def endpoint (c : Config) (app : Application ω) (k : Live ω) : Endpoint ω where
  station := k.station c app
  status := ⟨0⟩
  log := k.log c
  ssdo := ⟨k.tx c, k.rx c⟩
  tally := k.tally
  incidents := app.incidents

/-- Nothing happened yet. -/
def initial (c : Config) (w : ω) : Live ω where
  image := List.replicate c.total 0
  registers := .clear
  logTimer := .idle
  retryTimer := .idle
  world := w
  logSeq := .second
  logLocked := false
  txState := .waitForFrame
  acked := .first
  pending := .first
  rejected := none
  payload := []
  rxState := .waitForFrame
  rxSeq := .second
  outstanding := false
  queue := []
  cached := none
  tally := .empty

/-- An endpoint that was just opened is the one of `initial`. -/
theorem create_eq_ok_live (app : Application ω) {w w' : ω} {e : Endpoint ω} :
    (Endpoint.create c app.hooks).eval w = (.ok e, w') ↔
      c.Accepted ∧ e = (initial c w).endpoint c app ∧ w' = w :=
  Endpoint.create_eq_ok

/-! ## Buffers -/

/-- The bytes of a buffer. -/
def buffer (c : Config) (id : BufferId) (k : Live ω) : Bytes := (c.span id).read k.image

/-- Replace the bytes of a buffer. -/
def putBuffer (c : Config) (id : BufferId) (b : Bytes) (k : Live ω) : Live ω :=
  { k with image := (c.span id).place b k.image }

/-- What every state of a running endpoint has: the image keeps its length, and every frame
that waits fits into a buffer. -/
structure Sound (c : Config) (k : Live ω) : Prop where
  image_length : k.image.length = c.total
  queue_fits : ∀ p ∈ k.queue, p.length ≤ Frame.maxPayload
  cached_fits : ∀ p, k.cached = some p → p.length ≤ Frame.maxPayload

theorem sound_initial (c : Config) (w : ω) : (initial c w).Sound c := by
  refine ⟨List.length_replicate, ?_, ?_⟩
  · intro p hp
    exact absurd hp List.not_mem_nil
  · intro p hp
    exact absurd hp (by simp [initial])

variable {k : Live ω}

theorem fits_span (h : k.Sound c) (id : BufferId) : (c.span id).Fits k.image := by
  have hs := c.offset_succ id
  have ht := c.offset_le_total (id.index + 1)
  have hl := h.image_length
  unfold Span.Fits Config.span
  dsimp only
  omega

theorem fits_consumerPart (h : k.Sound c) : c.consumerPart.Fits k.image := by
  have ht := c.offset_le_total c.prodAck.index
  have ht' := c.offset_le_total c.consAck.index
  have hl := h.image_length
  unfold Span.Fits Config.consumerPart
  dsimp only
  omega

theorem fits_producerPart (h : k.Sound c) : c.producerPart.Fits k.image := by
  have ht := c.offset_le_total c.prodAck.index
  have hl := h.image_length
  unfold Span.Fits Config.producerPart
  dsimp only
  omega

theorem length_buffer (h : k.Sound c) (id : BufferId) : (k.buffer c id).length = c.sizeOf id :=
  Span.length_read (fits_span h id)

theorem buffer_initial (c : Config) (w : ω) (id : BufferId) :
    (initial c w).buffer c id = List.replicate (c.sizeOf id) 0 :=
  Span.read_replicate (fits_span (sound_initial c w) id)

@[simp] theorem sound_putBuffer {id : BufferId} {b : Bytes} :
    (k.putBuffer c id b).Sound c ↔ k.Sound c := by
  constructor
  · intro h
    obtain ⟨h1, h2, h3⟩ := h
    rw [putBuffer, Span.length_place] at h1
    exact ⟨h1, h2, h3⟩
  · intro h
    obtain ⟨h1, h2, h3⟩ := h
    exact ⟨by rw [putBuffer, Span.length_place]; exact h1, h2, h3⟩

theorem buffer_putBuffer (h : k.Sound c) {id : BufferId} {b : Bytes}
    (hb : b.length = c.sizeOf id) : (k.putBuffer c id b).buffer c id = b :=
  Span.read_place hb (fits_span h id)

theorem buffer_putBuffer_of_ne {id other : BufferId} {b : Bytes} (h : other ≠ id) :
    (k.putBuffer c id b).buffer c other = k.buffer c other :=
  Span.read_place_of_apart (c.apart_span h)

theorem descriptor?_station_of_not_lt (app : Application ω) {id : BufferId}
    (h : ¬ id.index < c.count) : (k.station c app).stream.descriptor? id = none := by
  have hlen : c.descriptors.length ≤ id.index := by
    rw [Config.length_descriptors]
    exact Nat.le_of_not_lt h
  exact List.getElem?_eq_none hlen

theorem buffer?_station_of_not_lt (app : Application ω) {id : BufferId}
    (h : ¬ id.index < c.count) : (k.station c app).stream.buffer? id = none := by
  unfold Stream.buffer?
  rw [descriptor?_station_of_not_lt app h]
  rfl

theorem buffer?_station (app : Application ω) {id : BufferId} (h : id.index < c.count) :
    (k.station c app).stream.buffer? id = some (k.buffer c id) := by
  obtain ⟨d, hd, hspan, -⟩ := Config.descriptor_of_lt h
  show (c.descriptors[id.index]?).map (fun d => d.span.read k.image) = _
  rw [hd, Option.map_some, hspan]
  rfl

/-- Work on a buffer changes that buffer and nothing else. -/
theorem eval_editBuffer (app : Application ω) {id : BufferId} {op : Op Bytes Unit}
    {r : Except Fault Unit} {b : Bytes} (h : id.index < c.count)
    (hop : op.eval (k.buffer c id) = (r, b)) :
    (Site.onStream (Stream.editBuffer id op)).eval (k.station c app) =
      (r, (k.putBuffer c id b).station c app) := by
  obtain ⟨d, hd, hspan, -⟩ := Config.descriptor_of_lt h
  have hd' : (k.station c app).stream.descriptor? id = some d := hd
  have hop' : op.eval (d.span.read (k.station c app).stream.image) = (r, b) := by
    rw [hspan]
    exact hop
  unfold Site.onStream
  rw [Op.eval_within, Stream.eval_editBuffer hd', hop', hspan]
  rfl

/-- There is no work on a buffer there is not. -/
theorem eval_editBuffer_of_not_lt (app : Application ω) {id : BufferId} (op : Op Bytes Unit)
    (h : ¬ id.index < c.count) :
    (Site.onStream (Stream.editBuffer id op)).eval (k.station c app) =
      (.error .invalidBuffer, k.station c app) := by
  unfold Site.onStream
  rw [Op.eval_within, Stream.eval_editBuffer_of_none (descriptor?_station_of_not_lt app h)]

end Live

end SlimInterface
