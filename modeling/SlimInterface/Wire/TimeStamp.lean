import SlimInterface.Text.Inspect

/-!
# Relative time

The relative time is a 64-bit number that the status buffer carries as two
double words. `toWord_ofWord`: nothing is lost between the two forms.
-/

namespace SlimInterface

/-- A relative time as the two halves in which it is transferred. -/
structure TimeStamp where
  low : UInt32
  high : UInt32
  deriving DecidableEq, Repr

namespace TimeStamp

/-- Time zero. -/
def zero : TimeStamp := ⟨0, 0⟩

/-- The relative time as one number. -/
def toWord (t : TimeStamp) : UInt64 :=
  UInt64.ofNat (t.high.toNat * UInt32.size + t.low.toNat)

/-- The halves of a relative time. -/
def ofWord (t : UInt64) : TimeStamp :=
  ⟨UInt32.ofNat (t.toNat % UInt32.size), UInt32.ofNat (t.toNat / UInt32.size)⟩

/-- The inspection form. -/
def inspect (t : TimeStamp) : String :=
  Inspect.record "TimeStamp"
    [("rel_time_low", toString t.low.toNat), ("rel_time_high", toString t.high.toNat)]

theorem toWord_ofWord (t : UInt64) : (ofWord t).toWord = t := by
  have h := t.toNat_lt
  apply UInt64.toNat_inj.mp
  simp only [toWord, ofWord, UInt64.toNat_ofNat', UInt32.toNat_ofNat', UInt32.size]
  omega

theorem ofWord_toWord (t : TimeStamp) : ofWord t.toWord = t := by
  obtain ⟨low, high⟩ := t
  have hl := low.toNat_lt
  have hh := high.toNat_lt
  simp only [toWord, ofWord, UInt32.size, mk.injEq]
  constructor
  · apply UInt32.toNat_inj.mp
    simp only [UInt64.toNat_ofNat', UInt32.toNat_ofNat']
    omega
  · apply UInt32.toNat_inj.mp
    simp only [UInt64.toNat_ofNat', UInt32.toNat_ofNat']
    omega

end TimeStamp

end SlimInterface
