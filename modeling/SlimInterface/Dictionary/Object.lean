import SlimInterface.Operation
import SlimInterface.Wire.Bytes

/-!
# Objects of the configuration channel

The configuration channel forwards writes to the object dictionary. A write of at
most eight bytes becomes an object: its place in the dictionary, its width, and
its value as a number split into two double words. Objects wait in a queue, first
in, first out.
-/

namespace SlimInterface

/-- One write to the object dictionary. -/
structure ConfigObject where
  index : UInt16
  subIndex : UInt8
  /-- Width of the value in bytes. -/
  size : UInt16
  low : UInt32
  high : UInt32
  deriving DecidableEq, Repr

namespace ConfigObject

/-- The widest value the channel carries. -/
def maxSize : Nat := 8

/-- The object of a write of `data`, little-endian, to `index`/`subIndex`. -/
def ofValue (index : UInt16) (subIndex : UInt8) (data : Bytes) : Except Fault ConfigObject :=
  if maxSize < data.length then .error (.objectLengthError data.length)
  else
    let value := data.value
    .ok ⟨index, subIndex, UInt16.ofNat data.length, UInt32.ofNat (value % UInt32.size),
      UInt32.ofNat (value / UInt32.size)⟩

/-- The place of an object in the dictionary. -/
def place (index : UInt16) (subIndex : UInt8) : String :=
  Numeral.hex 4 index.toNat ++ "/" ++ toString subIndex.toNat

end ConfigObject

/-- What the object dictionary is about to do or has done. -/
inductive DictionaryEvent
  | checkExist
  | preRead
  | postRead
  | initWrite
  | preWrite
  | postWrite
  | postDefault
  deriving DecidableEq, Repr

/-- The word an event is written with. -/
def DictionaryEvent.name : DictionaryEvent → String
  | checkExist => "CheckExist"
  | preRead => "PreRead"
  | postRead => "PostRead"
  | initWrite => "InitWrite"
  | preWrite => "PreWrite"
  | postWrite => "PostWrite"
  | postDefault => "PostDefault"

/-- Objects waiting for the channel, the next one first. -/
abbrev ObjectQueue := List ConfigObject

namespace ObjectQueue

/-- Put an object at the end. The queue has no bound. -/
def push (q : ObjectQueue) (object : ConfigObject) : ObjectQueue := q ++ [object]

/-- Drop the next object. -/
def advance (q : ObjectQueue) : ObjectQueue := q.tail

/-- What the dictionary does on an access. Only a completed write is queued; a value that
is too wide is refused at every event. -/
def access (event : DictionaryEvent) (index : UInt16) (subIndex : UInt8) (data : Bytes) :
    Op ObjectQueue Unit :=
  if ConfigObject.maxSize < data.length then do
    Op.log (.tagged .warn "OCC" ("Rejected " ++ toString data.length ++ " byte write to " ++
      ConfigObject.place index subIndex))
    Op.fail (.objectLengthError data.length)
  else if event = .postWrite then do
    let object ← Op.ofExcept (ConfigObject.ofValue index subIndex data)
    Op.update fun q => q.push object
    let q ← Op.read
    Op.log (.tagged .debug "OCC" ("Queued " ++ ConfigObject.place index subIndex ++ " (" ++
      toString q.length ++ " pending)"))
  else pure ()

end ObjectQueue

end SlimInterface
