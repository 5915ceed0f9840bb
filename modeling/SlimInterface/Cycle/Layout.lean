import SlimInterface.Wire.BufferId
import SlimInterface.Wire.Bytes

/-!
# Layouts

The buffers of a stream lie back to back in one image. A descriptor says where
one of them lies; `layout` places buffers of given sizes, and `firstBreak?` finds
the first descriptor of a list that does not lie where `layout` would have put it.
-/

namespace SlimInterface

/-- A run of bytes in the image. -/
structure Span where
  start : Nat
  size : Nat
  deriving DecidableEq, Repr

namespace Span

/-- The bytes of a span. -/
def read (s : Span) (image : Bytes) : Bytes := (image.drop s.start).take s.size

/-- Place bytes into a span. Bytes past the end of the span are dropped; too few bytes
leave the rest of the span as it is. -/
def place (s : Span) (bytes image : Bytes) : Bytes := image.overwrite s.start (bytes.take s.size)

@[simp] theorem length_place (s : Span) (bytes image : Bytes) :
    (s.place bytes image).length = image.length :=
  Bytes.length_overwrite ..

end Span

/-- Where one buffer lies in the image. -/
structure Descriptor where
  id : BufferId
  offset : Nat
  size : Nat
  deriving DecidableEq, Repr

namespace Descriptor

/-- The bytes of the image that belong to the buffer. -/
def span (d : Descriptor) : Span := ⟨d.offset, d.size⟩

/-- Place buffers from position `index` and `offset` on. -/
def layoutFrom (index offset : Nat) : List Nat → List Descriptor
  | [] => []
  | size :: rest =>
    ⟨⟨UInt8.ofNat index⟩, offset, size⟩ :: layoutFrom (index + 1) (offset + size) rest

/-- Buffers of the given sizes, back to back from the start of the image. -/
def layout (sizes : List Nat) : List Descriptor := layoutFrom 0 0 sizes

/-- The first descriptor that is empty or not at its place. -/
def firstBreak? (index offset : Nat) : List Descriptor → Option Descriptor
  | [] => none
  | d :: rest =>
    if d.id.index ≠ index ∨ d.offset ≠ offset ∨ d.size = 0 then some d
    else firstBreak? (index + 1) (offset + d.size) rest

/-- The size of the image that holds all the buffers. -/
def totalSize (ds : List Descriptor) : Nat := (ds.map (·.size)).foldr (· + ·) 0

/-- The span of the buffers from `first` up to, but not including, `last`. -/
def spanOf (ds : List Descriptor) (first last : Nat) : Span :=
  ⟨(ds[first]?.map (·.offset)).getD 0, totalSize ((ds.drop first).take (last - first))⟩

end Descriptor

end SlimInterface
