/-!
# Serializers

A type that can be serialized is known to a serializer by its declaration: a record is the list
of its fields, under their names and in the order in which they are declared. A serializer makes
a text of that. Which text it is, and when it refuses to make one, is its own affair; the
monitor works with any of them.
-/

namespace SlimInterface

/-- A value as its type is declared. -/
inductive Datum
  | bool (value : Bool)
  /-- A number without a sign. -/
  | number (value : Nat)
  | text (value : String)
  | option (value : Option Datum)
  | list (items : List Datum)
  /-- The fields of a record, in the order of their declaration. -/
  | record (fields : List (String × Datum))

/-- A serializer that refuses with an error of type `ε`. -/
structure Serializer (ε : Type) where
  /-- The text of a value. -/
  text : Datum → Except ε String

end SlimInterface
