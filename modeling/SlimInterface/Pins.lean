import SlimInterface.Operation

/-!
# Digital inputs and outputs

Up to 32 digital outputs and eight inputs held in memory. Until they are activated,
outputs do not move and inputs read as zero.
-/

namespace SlimInterface

/-- Digital outputs and inputs. -/
structure Pins where
  outputCount : Nat
  outputs : UInt32
  inputs : UInt8
  ready : Bool
  deriving DecidableEq, Repr

namespace Pins

/-- Pins with the given count of outputs, at most 32, not active yet. -/
def create (outputCount : Nat) : Pins := ⟨min outputCount 32, 0, 0, false⟩

/-- Activate the pins and clear the outputs. Answers with the count of outputs. -/
def activate : Op Pins Nat := do
  let p ← Op.read
  if p.outputCount = 0 then
    Op.fail .invalidParameter
  else
    Op.write { p with outputs := 0, ready := true }
    Op.log (.tagged .info "Gpio" (toString p.outputCount ++ " outputs available"))
    pure p.outputCount

/-- Deactivate the pins. -/
def deactivate (p : Pins) : Pins := { p with outputs := 0, ready := false }

/-- Drive the outputs; bits past the count of outputs are ignored. -/
def drive (p : Pins) (value : UInt32) : Pins :=
  if p.ready then { p with outputs := UInt32.ofNat (value.toNat % (1 <<< p.outputCount)) } else p

/-- Put a level on the inputs from outside. -/
def setInputs (p : Pins) (value : UInt8) : Pins := { p with inputs := value }

/-- Read the inputs. -/
def sample (p : Pins) : UInt8 := if p.ready then p.inputs else 0

end Pins

end SlimInterface
