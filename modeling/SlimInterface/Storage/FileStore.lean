import SlimInterface.Storage.Device
import SlimInterface.Text.Numeral

/-!
# Devices kept in a file

A flash-like device of a fixed size that lives in a regular file. The whole device
is also held in memory: reads are served from there, and every write and erase
goes to both. Opening brings the file up to the size of the device, filling it
with erased bytes; what lies in the file beyond the device is left alone.

The file may be replaced or removed behind the back of an open store. A handle to a
removed file stays usable, but what is written through it is lost.
-/

namespace SlimInterface

/-- What there is at a path, apart from the file. -/
inductive Place
  /-- A folder in which the file can lie. -/
  | folder
  /-- The folder the file should lie in does not exist. -/
  | nowhere
  /-- The path itself is a folder. -/
  | occupied
  deriving DecidableEq, Repr

/-- A path and the contents of the file there, if it exists. -/
structure BackingFile where
  path : String
  place : Place
  contents : Option Bytes
  deriving DecidableEq, Repr

namespace BackingFile

/-- Why the file cannot be opened, in the words of the operating system. -/
def obstacle? (f : BackingFile) : Option String :=
  match f.place with
  | .folder => none
  | .nowhere => some "No such file or directory (os error 2)"
  | .occupied => some "Is a directory (os error 21)"

/-- Write bytes at an offset of a file. A gap between the end of the file and the offset is
filled with zeros. -/
def writeAt (contents : Bytes) (offset : Nat) (data : Bytes) : Bytes :=
  if data.isEmpty then contents
  else
    let filled := contents ++ List.replicate (offset - contents.length) 0
    filled.take offset ++ data ++ filled.drop (offset + data.length)

/-- Replace the contents, creating the file if there is none. Answers whether that worked. -/
def replace (data : Bytes) (f : BackingFile) : Bool × BackingFile :=
  if f.place = .folder then (true, { f with contents := some data }) else (false, f)

end BackingFile

/-- An open file. -/
inductive FileHandle
  /-- The file at the path. -/
  | attached
  /-- A file that was removed from the path after it had been opened. -/
  | detached
  deriving DecidableEq, Repr

/-- A device kept in a file. -/
structure FileStore where
  file : BackingFile
  size : Nat
  handle : Option FileHandle
  /-- The device as held in memory; it outlives closing. -/
  memory : Bytes
  deriving DecidableEq, Repr

namespace FileStore

/-- A device of a size over a file, not yet opened. -/
def create (file : BackingFile) (size : Nat) : FileStore := ⟨file, size, none, []⟩

/-- Whether the device is open. -/
def isOpen (s : FileStore) : Bool := s.handle.isSome

/-- A line about a file device. -/
def line (level : Level) (message : String) : Line := .tagged level "FileNvs" message

/-- Write through the handle into the file. -/
def writeThrough (offset : Nat) (data : Bytes) (s : FileStore) : FileStore :=
  match s.handle, s.file.contents with
  | some .attached, some contents =>
    { s with file := { s.file with contents := some (BackingFile.writeAt contents offset data) } }
  | _, _ => s

/-- Open the file and load the device from it. -/
def mount : Op FileStore Unit := do
  let s ← Op.read
  match s.file.obstacle? with
  | some reason =>
    Op.log (line .error ("Failed to open " ++ s.file.path ++ ": " ++ reason))
    Op.fail (.storageError "unable to open backing file")
  | none =>
    let contents := s.file.contents.getD []
    let memory := contents.resize s.size Bytes.erased
    let contents' := if contents.length < s.size then memory else contents
    Op.write { s with
      file := { s.file with contents := some contents' }
      handle := some .attached
      memory }
    Op.log (line .info ("Opened " ++ s.file.path ++ " (" ++ toString s.size ++ " bytes)"))

/-- Close the file. -/
def unmount : Op FileStore Unit := do
  let s ← Op.read
  if s.isOpen then
    Op.write { s with handle := none }
    Op.log (line .debug ("Closed " ++ s.file.path))
  else pure ()

/-- Write bytes to memory and file. -/
def write (offset : Nat) (data : Bytes) : Op FileStore Unit := do
  let s ← Op.read
  if s.isOpen then
    match s.memory.put? offset data with
    | none => Op.fail (.storageError "write beyond the device")
    | some memory => Op.write (writeThrough offset data { s with memory })
  else Op.fail .notInitialized

/-- The double word at an offset of the device as held in memory. -/
def dwordAt (offset : Nat) (s : FileStore) : Except Fault UInt32 :=
  match s.memory.slice? offset 4 with
  | some field => .ok (UInt32.ofNat field.value)
  | none => .error (.storageError "read beyond the device")

/-- Erase the device. It has a single sector, so the offset does not matter. -/
def erase (_offset : Nat) : Op FileStore Unit := do
  let s ← Op.read
  if s.isOpen then
    let memory := List.replicate s.memory.length Bytes.erased
    Op.write (writeThrough 0 memory { s with memory })
    Op.log (line .debug ("Erased " ++ s.file.path))
  else Op.fail .notInitialized

/-- All bytes from an offset on. -/
def bytesFrom (offset : Nat) (s : FileStore) : Except Fault Bytes :=
  if offset ≤ s.memory.length then .ok (s.memory.drop offset)
  else .error (.storageError "address beyond the device")

instance : NonVolatile FileStore where
  mount := mount
  unmount := unmount
  write := write
  dwordAt := dwordAt
  erase := erase
  bytesFrom := bytesFrom

/-! ## Behind the back of the store -/

/-- Replace the contents of the file. Answers whether that worked. -/
def replaceFile (data : Bytes) (s : FileStore) : Bool × FileStore :=
  let (done, file) := s.file.replace data
  (done, { s with file })

/-- Remove the file. Answers whether there was one. An open handle goes on without it. -/
def removeFile (s : FileStore) : Bool × FileStore :=
  match s.file.contents with
  | none => (false, s)
  | some _ =>
    (true, { s with
      file := { s.file with contents := none }
      handle := s.handle.map fun _ => .detached })

end FileStore

end SlimInterface
