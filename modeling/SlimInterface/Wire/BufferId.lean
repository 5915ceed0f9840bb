import SlimInterface.Text.Inspect

/-!
# Buffer ids

Buffers are numbered from zero in the order in which they lie in the image.
-/

namespace SlimInterface

/-- The number of one buffer of a stream. -/
structure BufferId where
  number : UInt8
  deriving DecidableEq, Repr

namespace BufferId

/-- The id as a position in the layout. -/
def index (id : BufferId) : Nat := id.number.toNat

theorem index_inj {a b : BufferId} : a.index = b.index ↔ a = b := by
  obtain ⟨x⟩ := a
  obtain ⟨y⟩ := b
  rw [mk.injEq]
  exact UInt8.toNat_inj

/-- The name a buffer has in messages. -/
def text (id : BufferId) : String := "tbuf#" ++ toString id.index

/-- The inspection form. -/
def inspect (id : BufferId) : String := Inspect.tagged "BufferId" (toString id.index)

/-- Ids compare by their number. -/
def order (a b : BufferId) : Ordering := compare a.index b.index

end BufferId

end SlimInterface
