import SlimInterface.Monitor.Serializer
import SlimInterface.Text.Numeral

/-!
# JSON documents

JSON values without fractions, and how they are written: no blanks, members in the order given,
numbers in decimal. How the characters of a text stand between its quotes is left open.

`Json.escape` is the usual choice: the quote and the backslash are escaped; control characters
below 32 have a short escape or are written as `\u` and four lower-case hexadecimal digits;
everything else stands as it is. `Json.serializer` writes with it: records as objects, what is
absent as null.
-/

namespace SlimInterface

/-- A JSON value. -/
inductive Json
  | null
  | bool (value : Bool)
  | number (value : Nat)
  | text (value : String)
  | array (items : List Json)
  | object (members : List (String × Json))

namespace Json

section Write

-- how a character is written
variable (form : Char → List Char)

/-- A text between quotes. -/
def quoted (text : String) : List Char :=
  '"' :: text.toList.flatMap form ++ ['"']

mutual

/-- Write a value. -/
def write : Json → List Char
  | null => "null".toList
  | bool true => "true".toList
  | bool false => "false".toList
  | number n => Nat.toDigits 10 n
  | text s => quoted form s
  | array items => '[' :: writeItems items ++ [']']
  | object members => '\x7b' :: writeMembers members ++ ['\x7d']

/-- Write values with commas between them. -/
def writeItems : List Json → List Char
  | [] => []
  | [v] => write v
  | v :: rest => write v ++ ',' :: writeItems rest

/-- Write members with commas between them. -/
def writeMembers : List (String × Json) → List Char
  | [] => []
  | [(name, v)] => quoted form name ++ ':' :: write v
  | (name, v) :: rest => quoted form name ++ ':' :: write v ++ ',' :: writeMembers rest

end

/-- The document of a value. -/
def render (v : Json) : String := String.ofList (v.write form)

end Write

/-- One character of a text. -/
def escape (c : Char) : List Char :=
  if c = '"' then ['\\', '"']
  else if c = '\\' then ['\\', '\\']
  else if c = '\x08' then ['\\', 'b']
  else if c = '\t' then ['\\', 't']
  else if c = '\n' then ['\\', 'n']
  else if c = '\x0c' then ['\\', 'f']
  else if c = '\r' then ['\\', 'r']
  else if c.toNat < 32 then ['\\', 'u'] ++ Numeral.hexDigits 4 c.toNat
  else [c]

end Json

namespace Datum

mutual

/-- The JSON value of a datum. -/
def json : Datum → Json
  | bool b => .bool b
  | number n => .number n
  | text s => .text s
  | option none => .null
  | option (some d) => d.json
  | list items => .array (jsonItems items)
  | record fields => .object (jsonFields fields)

/-- The JSON values of the items of a list. -/
def jsonItems : List Datum → List Json
  | [] => []
  | d :: rest => d.json :: jsonItems rest

/-- The members of an object for the fields of a record. -/
def jsonFields : List (String × Datum) → List (String × Json)
  | [] => []
  | (name, d) :: rest => (name, d.json) :: jsonFields rest

end

end Datum

/-- A serializer that never refuses. -/
def Json.serializer : Serializer Empty where
  text d := .ok (d.json.render escape)

end SlimInterface
