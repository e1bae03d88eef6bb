import SensorGateway.Text.Blank

namespace SensorGateway

/-- What a line asks for. -/
inductive Command where
  | send (item text : String)
  | list
  | help
  deriving DecidableEq, Repr

namespace Command

/-- How lines are written. -/
def usage : String := "commands: <item> <value> | show | help"

/-- The command of a line that is a single word. -/
def ofWord? (word : String) : Option Command :=
  if Text.lower word = "show" then some .list
  else if Text.lower word = "help" then some .help
  else none

/-- The command that a line spells. A blank line spells none. The error is a word that is no
command. -/
def parse (line : String) : Except Unit (Option Command) :=
  let line := Text.trim line
  if line.isEmpty then .ok none
  else match Text.firstWord? line with
    | some (item, text) => .ok (some (.send item (Text.trim text)))
    | none =>
      match ofWord? line with
      | some command => .ok (some command)
      | none => .error ()

end Command

end SensorGateway
