import SlimInterface.Wire.Field

/-!
# Logbook entries

A diagnostic entry has five fields at fixed places of a logbook buffer. Byte 0
belongs to the channel, which keeps its sequence number there, and bytes 3, 6 and
7 are reserved: writing an entry touches neither.
-/

namespace SlimInterface

/-- One diagnostic entry. -/
structure LogEntry where
  level : UInt8
  entryType : UInt8
  code : UInt16
  timestamp : UInt32
  value : UInt32
  deriving DecidableEq, Repr

namespace LogEntry

/-! ## The layout of a logbook buffer -/

def bufferSize : Nat := 16
def seqOffset : Nat := 0
def levelOffset : Nat := 1
def entryTypeOffset : Nat := 2
def codeOffset : Nat := 4
def timestampOffset : Nat := 8
def valueOffset : Nat := 12

/-- Write the fields in order. In a buffer that is too short the fields before its end are
written all the same. -/
def write (e : LogEntry) : Op Bytes Unit := do
  Field.putByte levelOffset e.level
  Field.putByte entryTypeOffset e.entryType
  Field.putWord codeOffset e.code
  Field.putDword timestampOffset e.timestamp
  Field.putDword valueOffset e.value

/-- Read an entry. -/
def read (b : Bytes) : Except Fault LogEntry := do
  let level ← b.byteAt levelOffset
  let entryType ← b.byteAt entryTypeOffset
  let code ← b.wordAt codeOffset
  let timestamp ← b.dwordAt timestampOffset
  let value ← b.dwordAt valueOffset
  return { level, entryType, code, timestamp, value }

/-- The inspection form. -/
def inspect (e : LogEntry) : String :=
  Inspect.record "LogEntry"
    [("level", toString e.level.toNat), ("entry_type", toString e.entryType.toNat),
      ("code", toString e.code.toNat), ("timestamp", toString e.timestamp.toNat),
      ("value", toString e.value.toNat)]

end LogEntry

end SlimInterface
