/-!
# The journal

What the interface logs: lines with a level and a text. A line names its source
in square brackets, either a unit of the interface or one numbered channel.
Operations return the lines they logged, oldest first; who keeps them, and from
which level on, is decided by whoever runs the operation.
-/

namespace SlimInterface

/-- How urgent a line is, most urgent first. -/
inductive Level
  | error
  | warn
  | info
  | debug
  | trace
  deriving DecidableEq, Repr

namespace Level

/-- The rank of a level; a smaller rank is more urgent. -/
def rank : Level → Nat
  | error => 0
  | warn => 1
  | info => 2
  | debug => 3
  | trace => 4

/-- The word a level is written with. -/
def name : Level → String
  | error => "ERROR"
  | warn => "WARN"
  | info => "INFO"
  | debug => "DEBUG"
  | trace => "TRACE"

end Level

/-- One logged line. -/
structure Line where
  level : Level
  text : String
  deriving DecidableEq, Repr

namespace Line

/-- A line of the source `tag`. -/
def tagged (level : Level) (tag message : String) : Line :=
  ⟨level, "[" ++ tag ++ "] " ++ message⟩

/-- The level and the text of a line. -/
def render (line : Line) : String :=
  line.level.name ++ " " ++ line.text

/-- A line is kept when it is at least as urgent as `limit`. -/
def kept (limit : Level) (line : Line) : Bool :=
  line.level.rank ≤ limit.rank

end Line

/-- The channel a line is about. -/
structure ChannelTag where
  component : String
  id : Nat
  deriving DecidableEq, Repr

namespace ChannelTag

/-- The system every channel belongs to. -/
def system : String := "psi"

/-- The tag between the brackets. -/
def text (tag : ChannelTag) : String :=
  "system=" ++ system ++ ", component=" ++ tag.component ++ ", id=" ++ toString tag.id

/-- A line about the channel. -/
def line (tag : ChannelTag) (level : Level) (message : String) : Line :=
  Line.tagged level tag.text message

end ChannelTag

end SlimInterface
