import SlimInterface.Text.Glyph
import SlimInterface.Text.Numeral

/-!
# The inspection form of values

Log lines show some values the way a developer writes them down: a record is its
name and its fields in braces, a tagged value its name and one argument in
parentheses, and a text is quoted. Inside quotes the zero character, tab, line
feed, carriage return, the quote and the backslash have a short escape, and every
other character that does not show itself is written by its code point.
-/

namespace SlimInterface.Inspect

/-- One character of a quoted text. -/
def escape (c : Char) : List Char :=
  if c = '\x00' then ['\\', '0']
  else if c = '\t' then ['\\', 't']
  else if c = '\n' then ['\\', 'n']
  else if c = '\r' then ['\\', 'r']
  else if c = '"' then ['\\', '"']
  else if c = '\\' then ['\\', '\\']
  else if Glyph.standsAlone c then [c]
  else ['\\', 'u', '\x7b'] ++ Numeral.hexDigits 1 c.toNat ++ ['\x7d']

/-- A text between quotes. -/
def quoted (text : String) : String :=
  "\"" ++ String.ofList (text.toList.flatMap escape) ++ "\""

/-- A name and one argument: `Name(argument)`. -/
def tagged (name argument : String) : String :=
  name ++ "(" ++ argument ++ ")"

/-- A name and its fields in order, in braces. -/
def record (name : String) (fields : List (String × String)) : String :=
  name ++ " \x7b " ++ ", ".intercalate (fields.map fun f => f.1 ++ ": " ++ f.2) ++ " \x7d"

end SlimInterface.Inspect
