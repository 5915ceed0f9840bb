import SlimInterface.Endpoint.Snapshot
import SlimInterface.Monitor.Serializer

/-!
# Diagnoses

What the monitor gets of a snapshot: plain data, ready to be serialized. The relative time is one
number, sequence numbers are 0 or 1, states and units are their words, and the last incident is a
sentence.
-/

namespace SlimInterface

/-- The state of a logbook channel. -/
structure LogInfo where
  id : UInt8
  /-- An entry is outstanding and waits to be acknowledged. -/
  locked : Bool
  seq : UInt8
  deriving DecidableEq, Repr

/-- The state of both directions of an SSDO channel. -/
structure SsdoInfo where
  id : UInt8
  tx : String
  rx : String
  pending : Nat
  deriving DecidableEq, Repr

/-- The last incident. -/
structure IncidentInfo where
  source : String
  message : String
  deriving DecidableEq, Repr

/-- What is handed to the monitor. -/
structure Diagnosis where
  time : UInt64
  /-- The other side reports its internal channels as busy. -/
  busy : Bool
  logbook : List LogInfo
  ssdo : List SsdoInfo
  errors : Nat
  last : Option IncidentInfo
  deriving DecidableEq, Repr

/-! ## Snapshots -/

def LogSnapshot.info (c : LogSnapshot) : LogInfo := ⟨c.id, c.locked, c.seq.toByte⟩

def SsdoSnapshot.info (c : SsdoSnapshot) : SsdoInfo := ⟨c.id, c.tx.name, c.rx.name, c.pending⟩

def Incident.info (i : Incident) : IncidentInfo := ⟨i.source.name, i.fault.message⟩

/-- The diagnosis of a snapshot. -/
def Snapshot.diagnosis (s : Snapshot) : Diagnosis where
  time := s.time.toWord
  busy := s.icc.toByte != 0
  logbook := s.logbook.map (·.info)
  ssdo := s.ssdo.map (·.info)
  errors := s.errors
  last := s.last.map (·.info)

/-! ## Declarations

The names and the order of the fields, as the serializer finds them. -/

def LogInfo.datum (c : LogInfo) : Datum :=
  .record [("chan_id", .number c.id.toNat), ("locked", .bool c.locked),
    ("seq_nr", .number c.seq.toNat)]

def SsdoInfo.datum (c : SsdoInfo) : Datum :=
  .record [("chan_id", .number c.id.toNat), ("tx_state", .text c.tx), ("rx_state", .text c.rx),
    ("pending_frames", .number c.pending)]

def IncidentInfo.datum (i : IncidentInfo) : Datum :=
  .record [("module", .text i.source), ("message", .text i.message)]

namespace Diagnosis

def datum (d : Diagnosis) : Datum :=
  .record [("rel_time", .number d.time.toNat), ("icc_busy", .bool d.busy),
    ("logbook", .list (d.logbook.map (·.datum))), ("ssdo", .list (d.ssdo.map (·.datum))),
    ("error_count", .number d.errors), ("last_error", .option (d.last.map (·.datum)))]

/-- The document that a serializer makes of a diagnosis. -/
def document {ε : Type} (serializer : Serializer ε) (d : Diagnosis) : Except ε String :=
  serializer.text d.datum

end Diagnosis

end SlimInterface
