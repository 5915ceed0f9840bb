import SlimInterface.Checksum
import SlimInterface.Incident
import SlimInterface.Storage.Device

/-!
# The parameter store

The parameter set of the safety object dictionary is kept on a non-volatile device
behind a header of four double words: a magic word, a state, the length of the set
and its checksum. Storing takes many steps, one per call, so that the background
loop never waits for the device: first the magic word and the length, then the
checksum, then the set in pieces of eight bytes, and one last call that finishes.

A device that already carries the magic word is not written over. Its state is set
to invalid instead, so that the next start finds no image; erasing it makes room for
a new one.

A place on the device is a word of 32 bits. `ParameterStore.process?` is the call of a
step: it has no outcome at all when the pieces of a set run past the last such word.

A set is given back only if its header is complete and its checksum fits.
-/

namespace SlimInterface

/-- What a step of storing came to. -/
inductive StoreProgress
  | busy
  | finished
  /-- There already is an image; it was marked invalid. -/
  | notApplicable
  deriving DecidableEq, Repr

/-- The word a step is reported with. -/
def StoreProgress.name : StoreProgress → String
  | busy => "Busy"
  | finished => "Finished"
  | notApplicable => "NotApplicable"

/-- What the next step of storing does. -/
inductive StorePhase
  | start
  | addChecksum
  | writeData
  | finish
  deriving DecidableEq, Repr

/-- The place and the words of the image header. -/
structure ImageLayout where
  magicOffset : Nat
  stateOffset : Nat
  lengthOffset : Nat
  checksumOffset : Nat
  dataOffset : Nat
  magic : UInt32
  /-- The state of an image that must not be used. -/
  invalid : UInt32
  /-- Bytes of the set written per step. -/
  chunkSize : Nat
  deriving DecidableEq, Repr

/-- The header in use. -/
def imageLayout : ImageLayout where
  magicOffset := 0
  stateOffset := 4
  lengthOffset := 8
  checksumOffset := 12
  dataOffset := 16
  magic := 0xDEADBEEF
  invalid := 1
  chunkSize := 8

/-- What a device was found to hold. -/
inductive StoredImage
  /-- No magic word, or a header that cannot be. -/
  | absent
  /-- An image marked invalid. -/
  | invalid
  /-- An image whose checksum does not fit. -/
  | corrupt
  /-- A parameter set. -/
  | intact (set : Bytes)
  deriving DecidableEq, Repr

namespace StoredImage

variable {δ : Type} [NonVolatile δ]

/-- Whether the device carries the magic word. -/
def hasMagic (d : δ) : Bool :=
  match NonVolatile.dwordAt imageLayout.magicOffset d with
  | .ok word => word = imageLayout.magic
  | .error _ => false

/-- The length of the set, if the header has one that can be. -/
def lengthOf? (d : δ) : Option Nat :=
  match NonVolatile.dwordAt imageLayout.lengthOffset d with
  | .ok length => if length = 0 ∨ length = 0xFFFFFFFF then none else some length.toNat
  | .error _ => none

/-- The first `length` bytes of the data area. -/
def dataOf? (d : δ) (length : Nat) : Option Bytes :=
  match NonVolatile.bytesFrom imageLayout.dataOffset d with
  | .ok bytes => bytes.slice? 0 length
  | .error _ => none

/-- Check the data of an image against the checksum of its header. -/
def verify (d : δ) (length : Nat) : StoredImage :=
  match NonVolatile.dwordAt imageLayout.checksumOffset d, dataOf? d length with
  | .ok stored, some set => if checksum 0 set = stored then .intact set else .corrupt
  | _, _ => .absent

/-- Look at a device. -/
def find (d : δ) : StoredImage :=
  if hasMagic d then
    match NonVolatile.dwordAt imageLayout.stateOffset d with
    | .error _ => .absent
    | .ok state =>
      if state = imageLayout.invalid then .invalid
      else
        match lengthOf? d with
        | none => .absent
        | some length => verify d length
  else .absent

/-- The parameter set of an intact image. -/
def set? : StoredImage → Option Bytes
  | intact set => some set
  | _ => none

/-- What is logged about an image that is there but cannot be used. -/
def lines : StoredImage → List Line
  | invalid => [.tagged .debug "SodStore" "Image is marked invalid"]
  | corrupt => [.tagged .debug "SodStore" "Image checksum mismatch"]
  | _ => []

end StoredImage

/-- A device with a parameter set, or with one on its way, and the world of the
application. -/
structure ParameterStore (δ ω : Type) where
  device : δ
  phase : StorePhase
  /-- Where the next bytes go on the device. -/
  position : UInt32
  /-- Bytes of the set already written. -/
  written : Nat
  tally : Tally
  incidents : IncidentHandler ω
  world : ω

namespace ParameterStore

variable {δ ω α : Type} [NonVolatile δ]

/-- A line about the parameter store. -/
def line (level : Level) (message : String) : Line := .tagged level "SodStore" message

/-- Run an operation on the device. -/
def onDevice (op : Op δ α) : Op (ParameterStore δ ω) α :=
  op.within (·.device) fun device s => { s with device }

/-- Run an operation and post its fault. -/
def posting (op : Op (ParameterStore δ ω) α) : Op (ParameterStore δ ω) α := do
  let r ← Op.attempt op
  let s ← Op.read
  (Tally.check s.incidents .sodStore r).within (fun s => (s.tally, s.world)) fun p s =>
    { s with tally := p.1, world := p.2 }

/-- A store over a device that is not yet open. -/
def fresh (device : δ) (incidents : IncidentHandler ω) (world : ω) : ParameterStore δ ω :=
  ⟨device, .start, 0, 0, .empty, incidents, world⟩

/-- Open the device. -/
def mount : Op (ParameterStore δ ω) Unit :=
  posting <| onDevice <| Op.reporting
    (fun e => line .error ("Unable to open the non-volatile store: " ++ e.message))
    id
    NonVolatile.mount

/-- Close the device. -/
def unmount : Op (ParameterStore δ ω) Unit := onDevice NonVolatile.unmount

/-- Erase the image, to make room for a new one. -/
def prepare : Op (ParameterStore δ ω) Unit :=
  posting (onDevice (NonVolatile.erase imageLayout.magicOffset))

/-- Write a double word of the header. -/
def putWord (offset : Nat) (word : UInt32) : Op (ParameterStore δ ω) Unit :=
  onDevice (NonVolatile.write offset (Bytes.littleEndian 4 word.toNat))

/-- Begin to store a set, unless there already is an image. -/
def begin (set : Bytes) : Op (ParameterStore δ ω) StoreProgress := do
  let s ← Op.read
  if StoredImage.hasMagic s.device then
    putWord imageLayout.stateOffset imageLayout.invalid
    Op.log (line .info "Existing image marked invalid")
    pure .notApplicable
  else
    Op.log (line .debug ("Storing " ++ toString set.length ++ " bytes"))
    Op.update fun s => { s with position := UInt32.ofNat imageLayout.dataOffset, written := 0 }
    putWord imageLayout.magicOffset imageLayout.magic
    putWord imageLayout.lengthOffset (UInt32.ofNat set.length)
    Op.update fun s => { s with phase := .addChecksum }
    pure .busy

/-- Write the checksum of the set. A set whose checksum is zero cannot be stored. -/
def addChecksum (set : Bytes) : Op (ParameterStore δ ω) StoreProgress := do
  let sum := checksum 0 set
  if sum = 0 then
    Op.log (line .error "Parameter set checksum is zero")
    Op.fail .crcError
  else
    putWord imageLayout.checksumOffset sum
    Op.update fun s => { s with phase := .writeData }
    pure .busy

/-- Write the next piece of the set. -/
def writeChunk (set : Bytes) : Op (ParameterStore δ ω) StoreProgress := do
  let s ← Op.read
  if set.length ≤ s.written then
    Op.log (line .error "Parameter set changed size while storing")
    Op.fail .invalidParameter
  else
    let chunk := (set.drop s.written).take imageLayout.chunkSize
    onDevice (NonVolatile.write s.position.toNat chunk)
    let written := s.written + chunk.length
    Op.update fun s => { s with
      position := s.position + UInt32.ofNat chunk.length
      written
      phase := if written = set.length then .finish else s.phase }
    pure .busy

/-- Report that the set is stored. -/
def finish : Op (ParameterStore δ ω) StoreProgress := do
  Op.update fun s => { s with position := 0, written := 0, phase := .start }
  Op.log (line .info "Parameter set stored")
  pure .finished

/-- One step of storing a set. An empty set and one whose length does not fit the header are
refused. -/
def step (set : Bytes) : Op (ParameterStore δ ω) StoreProgress := do
  if set.isEmpty ∨ UInt32.size - 1 ≤ set.length then Op.fail .invalidParameter
  else
    let s ← Op.read
    match s.phase with
    | .start => begin set
    | .addChecksum => addChecksum set
    | .writeData => writeChunk set
    | .finish => finish

/-- One step of storing a set; a fault is posted. -/
def process (set : Bytes) : Op (ParameterStore δ ω) StoreProgress := posting (step set)

/-- The piece written between `s` and `t` took the place past the last word, round to the front. -/
def Wrapped (s t : ParameterStore δ ω) : Prop := s.phase = .writeData ∧ t.position < s.position

instance (s t : ParameterStore δ ω) : Decidable (Wrapped s t) :=
  inferInstanceAs (Decidable (_ ∧ _))

/-- The call of a step. There is no outcome at all if the place behind the piece is no word. -/
def process? (set : Bytes) (s : ParameterStore δ ω) :
    Option (Outcome (ParameterStore δ ω) StoreProgress) :=
  let after := (process set).run s
  if Wrapped s after.state then none else some after

/-- The stored parameter set, if the image is present and intact. -/
def image : Op (ParameterStore δ ω) (Option Bytes) := fun s =>
  let found := StoredImage.find s.device
  ⟨.ok found.set?, s, found.lines⟩

end ParameterStore

end SlimInterface
