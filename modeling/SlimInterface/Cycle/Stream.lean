import SlimInterface.Cycle.Layout
import SlimInterface.Operation

/-!
# The stream

A stream owns all buffers of the interface as one image and drives the cyclic
exchange: the pre-actions, the transfer, the post-actions, and the synchronous
callback.

The image has two parts that move. The consumer part is filled with what the
remote side published, the producer part is sent to it. Channels never see the
transfer: they attach actions to the buffers they own. An action is handed the
bytes of its buffer and whatever lies around the stream, and may fail; a failure
ends the actions of that cycle.

Whatever an action or a transfer answers with is placed into its own span, so no
action can change the length of the image or reach beyond its buffer.
-/

namespace SlimInterface

variable {σ τ : Type}

/-- When an action runs. -/
inductive ActionKind
  /-- Before the transfer. -/
  | pre
  /-- After the transfer, before the synchronous callback. -/
  | post
  deriving DecidableEq, Repr

/-- The word an action kind is written with. -/
def ActionKind.name : ActionKind → String
  | pre => "Pre"
  | post => "Post"

/-- Work on the bytes of one buffer. -/
abbrev Action (σ : Type) := Op (Bytes × σ) Unit

/-- Moves the images: it is given the producer part and works on the consumer part. -/
abbrev Transfer (σ : Type) := Bytes → Op (Bytes × σ) Unit

/-- An action and the buffer it is attached to. -/
structure Registration (σ : Type) where
  buffer : BufferId
  act : Action σ

/-- The buffers of an interface and what happens to them each cycle. -/
structure Stream (σ : Type) where
  descriptors : List Descriptor
  image : Bytes
  consumer : Span
  producer : Span
  transfer : Transfer σ
  pre : List (Registration σ)
  post : List (Registration σ)
  onSync : Option (Op σ Unit)

namespace Stream

/-- The most buffers a stream can have. -/
def maxBufferCount : Nat := 16

/-! ## Opening a stream -/

/-- Open a stream over `descriptors` with a zeroed image. The buffers have to lie back to
back and be numbered in order; the consumer part goes from buffer `consAck` up to `prodAck`,
the producer part from there to the end. -/
def create (descriptors : List Descriptor) (transfer : Transfer σ) (consAck prodAck : BufferId) :
    Op τ (Stream σ) :=
  let count := descriptors.length
  if count = 0 ∨ maxBufferCount < count then do
    Op.log (.tagged .error "Stream" ("Invalid buffer count " ++ toString count))
    Op.fail .invalidParameter
  else
    match Descriptor.firstBreak? 0 0 descriptors with
    | some d => do
      Op.log (.tagged .error "Stream" ("Buffer " ++ d.id.text ++ " breaks the contiguous layout"))
      Op.fail .invalidBuffer
    | none =>
      if count ≤ prodAck.index ∨ prodAck.index ≤ consAck.index then do
        Op.log (.tagged .error "Stream" ("Invalid ack ids: consumer " ++ consAck.text ++
          ", producer " ++ prodAck.text ++ " (count " ++ toString count ++ ")"))
        Op.fail .invalidParameter
      else do
        let consumer := Descriptor.spanOf descriptors consAck.index prodAck.index
        let producer := Descriptor.spanOf descriptors prodAck.index count
        Op.log (.tagged .info "Stream" ("Initialised " ++ toString count ++
          " buffers: consumer image " ++ toString consumer.size ++
          " bytes, producer image " ++ toString producer.size ++ " bytes"))
        pure {
          descriptors, consumer, producer, transfer
          image := List.replicate (Descriptor.totalSize descriptors) 0
          pre := []
          post := []
          onSync := none }

/-! ## Buffers -/

/-- Where a buffer lies. -/
def descriptor? (s : Stream σ) (id : BufferId) : Option Descriptor := s.descriptors[id.index]?

/-- The bytes of a buffer. -/
def buffer? (s : Stream σ) (id : BufferId) : Option Bytes :=
  (s.descriptor? id).map fun d => d.span.read s.image

/-- Work on the bytes of a buffer. Without such a buffer, fail with `Fault.invalidBuffer`. -/
def editBuffer (id : BufferId) (op : Op Bytes Unit) : Op (Stream σ) Unit := do
  let s ← Op.read
  match s.descriptor? id with
  | none => Op.fail .invalidBuffer
  | some d =>
    op.within (fun s => d.span.read s.image) fun b s => { s with image := d.span.place b s.image }

/-! ## Actions -/

/-- The actions of a kind, oldest first. -/
def actions (s : Stream σ) : ActionKind → List (Registration σ)
  | .pre => s.pre
  | .post => s.post

/-- Append an action to the list of a kind. -/
def append (kind : ActionKind) (r : Registration σ) (s : Stream σ) : Stream σ :=
  match kind with
  | .pre => { s with pre := s.pre ++ [r] }
  | .post => { s with post := s.post ++ [r] }

/-- Attach an action to a buffer. Each list has as many slots as the stream has buffers. -/
def register (kind : ActionKind) (buffer : BufferId) (act : Action σ) : Op (Stream σ) Unit := do
  let s ← Op.read
  if (s.descriptor? buffer).isNone then
    Op.fail .invalidParameter
  else if s.descriptors.length ≤ (s.actions kind).length then
    Op.fail .noFreeActionSlot
  else
    Op.update (append kind ⟨buffer, act⟩)
    Op.log (.tagged .trace "Stream" ("Registered " ++ kind.name ++ " action on " ++ buffer.text ++
      " (" ++ toString ((s.actions kind).length + 1) ++ " in list)"))

/-- Drop every action and the synchronous callback. -/
def reset : Op (Stream σ) Unit := do
  Op.update fun s => { s with pre := [], post := [], onSync := none }
  Op.log (.tagged .debug "Stream" "Action lists cleared")

/-- Set the callback that ends every cycle. -/
def setSyncCallback (callback : Op σ Unit) (s : Stream σ) : Stream σ :=
  { s with onSync := some callback }

/-- Run one action on its buffer in the image. -/
def invoke (kind : ActionKind) (d : Descriptor) (r : Registration σ) : Op (Bytes × σ) Unit :=
  Op.reporting
    (fun e => .tagged .debug "Stream"
      (kind.name ++ " action on " ++ r.buffer.text ++ " failed: " ++ e.message))
    id
    (r.act.within (fun p => (d.span.read p.1, p.2)) fun q p => (d.span.place q.1 p.1, q.2))

/-- Run actions in order until one fails. -/
def runActions (kind : ActionKind) (descriptors : List Descriptor) :
    List (Registration σ) → Op (Bytes × σ) Unit
  | [] => pure ()
  | r :: rest => do
    match descriptors[r.buffer.index]? with
    | some d => invoke kind d r
    | none => pure ()
    runActions kind descriptors rest

end Stream

/-! ## The cycle -/

/-- A stream and what lies around it: all that a cycle can change. -/
structure Site (σ : Type) where
  stream : Stream σ
  around : σ

namespace Site

variable {α : Type}

/-- Run an operation on the stream. -/
def onStream (op : Op (Stream σ) α) : Op (Site σ) α :=
  op.within (·.stream) fun stream s => { s with stream }

/-- Run an operation on what lies around the stream. -/
def onAround (op : Op σ α) : Op (Site σ) α :=
  op.within (·.around) fun around s => { s with around }

/-- Run an operation on the image and what lies around the stream. -/
def onImage (op : Op (Bytes × σ) α) : Op (Site σ) α :=
  op.within (fun s => (s.stream.image, s.around)) fun p s =>
    { s with stream := { s.stream with image := p.1 }, around := p.2 }

/-- Move the images. -/
def move : Op (Site σ) Unit := do
  let s ← Op.read
  let span := s.stream.consumer
  let producer := s.stream.producer.read s.stream.image
  onImage <| Op.reporting
    (fun e => .tagged .error "Stream" ("Transfer handler failed: " ++ e.message))
    (fun _ => .transferError)
    ((s.stream.transfer producer).within (fun p => (span.read p.1, p.2)) fun q p =>
      (span.place q.1 p.1, q.2))

/-- The first half of a cycle: the pre-actions and, if all of them succeed, the transfer. -/
def processSync : Op (Site σ) Unit := do
  let s ← Op.read
  onImage (Stream.runActions .pre s.stream.descriptors s.stream.pre)
  move

/-- The second half of a cycle: the post-actions and, if all of them succeed, the
synchronous callback. -/
def processPost : Op (Site σ) Unit := do
  let s ← Op.read
  onImage (Stream.runActions .post s.stream.descriptors s.stream.post)
  match s.stream.onSync with
  | none => pure ()
  | some callback =>
    onAround <| Op.reporting
      (fun e => .tagged .error "Stream" ("Synchronous callback failed: " ++ e.message))
      (fun _ => .syncCallbackFailed)
      callback

end Site

end SlimInterface
