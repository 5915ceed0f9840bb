import SlimInterface.Operation

/-!
# Incidents

A fault that reached one of the entry points is an incident: the fault and the
unit it came from. A `Tally` counts incidents and keeps the latest one, and hands
each to a handler of the application. The count stops at `Tally.limit`; it never
starts over.
-/

namespace SlimInterface

/-- The unit an incident came from. -/
inductive Source
  | internal
  | stream
  | status
  | logbook
  | ssdo
  | occ
  | sodStore
  deriving DecidableEq, Repr

namespace Source

/-- The word a unit is written with. -/
def name : Source → String
  | internal => "Internal"
  | stream => "Stream"
  | status => "Status"
  | logbook => "Logbook"
  | ssdo => "Ssdo"
  | occ => "Occ"
  | sodStore => "SodStore"

end Source

/-- A fault and where it came from. -/
structure Incident where
  source : Source
  fault : Fault
  deriving DecidableEq, Repr

/-- The line an incident is logged with. -/
def Incident.line (i : Incident) : Line :=
  ⟨.error, "[PSI Error]: " ++ i.source.name ++ ": " ++ i.fault.message⟩

/-- What the application does with an incident. It cannot fail. -/
abbrev IncidentHandler (ω : Type) := Incident → ω → ω × List Line

namespace IncidentHandler

variable {ω : Type}

/-- Ignore every incident. -/
def silent : IncidentHandler ω := fun _ w => (w, [])

/-- Log every incident. -/
def logging : IncidentHandler ω := fun i w => (w, [i.line])

end IncidentHandler

/-- How many incidents there were, and the latest. -/
structure Tally where
  count : Nat
  last : Option Incident
  deriving DecidableEq, Repr

namespace Tally

variable {ω α : Type}

/-- The largest count. -/
def limit : Nat := UInt32.size - 1

/-- No incident yet. -/
def empty : Tally := ⟨0, none⟩

/-- Count one incident. -/
def record (t : Tally) (i : Incident) : Tally :=
  ⟨min (t.count + 1) limit, some i⟩

/-- Record an incident and hand it to the handler. -/
def post (handler : IncidentHandler ω) (i : Incident) : Op (Tally × ω) Unit := fun s =>
  let (w, lines) := handler i s.2
  ⟨.ok (), (s.1.record i, w), lines⟩

/-- Pass a result through; a fault is posted on its way. -/
def check (handler : IncidentHandler ω) (source : Source) : Except Fault α → Op (Tally × ω) α
  | .ok a => pure a
  | .error e => do
    post handler ⟨source, e⟩
    Op.fail e

end Tally

end SlimInterface
