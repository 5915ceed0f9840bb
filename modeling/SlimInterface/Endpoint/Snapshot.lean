import SlimInterface.Channel.Ssdo.Channel
import SlimInterface.Incident

/-!
# Snapshots

The state of an endpoint at one moment, as far as a diagnosis needs it.
-/

namespace SlimInterface

/-- The state of a logbook channel. -/
structure LogSnapshot where
  id : UInt8
  locked : Bool
  seq : SeqNr
  deriving DecidableEq, Repr

/-- The state of an SSDO channel. -/
structure SsdoSnapshot where
  id : UInt8
  tx : TransmitState
  rx : ReceiveState
  /-- Frames in the receive queue. -/
  pending : Nat
  deriving DecidableEq, Repr

/-- The state of an endpoint. -/
structure Snapshot where
  time : TimeStamp
  icc : SeqNr
  logbook : List LogSnapshot
  ssdo : List SsdoSnapshot
  errors : Nat
  last : Option Incident
  deriving DecidableEq, Repr

end SlimInterface
