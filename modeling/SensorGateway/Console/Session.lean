import SensorGateway.Bridge.Outbound
import SensorGateway.Console.Command
import SensorGateway.Value.Command

namespace SensorGateway

/-- Why a line was not carried out. -/
inductive InputError where
  | usage
  | conversion (cause : ConversionError)
  | command (cause : CommandError)
  deriving DecidableEq, Repr

namespace InputError

/-- The cause in words. -/
def message : InputError → String
  | .usage => Command.usage
  | .conversion cause => cause.message
  | .command cause => cause.message

end InputError

namespace Bridge

variable {ω : Type} [Outside ω]

/-- The line of the listing for one item: name, binding and latest value. -/
def itemLine (b : Bridge ω) (item : String) : String :=
  let binding := ((b.items.binding? item).map Binding.text).getD ""
  let value := ((b.store.current? item).map Value.display).getD "-"
  Text.padEnd 20 item ++ " " ++ Text.padEnd 24 binding ++ " " ++ value

/-- Every bound item with its latest value, a line each. -/
def listing (b : Bridge ω) : String :=
  let lines := b.items.names.map b.itemLine
  if lines.isEmpty then "no items configured" else "\n".intercalate lines

/-- Sends the value that a text spells to an item. The first kind of the item that the text spells a
value of decides. -/
def sendText (b : Bridge ω) (item text : String) : Except InputError String × Bridge ω :=
  let kinds := b.items.kinds item
  if kinds.isEmpty then (.error (.command (.notBound item)), b)
  else match Value.ofCommandAny kinds text with
    | .error cause => (.error (.conversion cause), b)
    | .ok value =>
      match b.receiveCommand item value with
      | (.ok (), b) => (.ok (item ++ " <- " ++ value.display), b)
      | (.error cause, b) => (.error (.command cause), b)

/-- Carries out a command. Gives the text to print. -/
def execute (b : Bridge ω) : Command → Except InputError String × Bridge ω
  | .send item text => b.sendText item text
  | .list => (.ok b.listing, b)
  | .help => (.ok Command.usage, b)

/-- Carries out a line. Gives the text to print; a blank line has none. -/
def executeLine (b : Bridge ω) (line : String) : Except InputError (Option String) × Bridge ω :=
  match Command.parse line with
  | .error () => (.error .usage, b)
  | .ok none => (.ok none, b)
  | .ok (some command) =>
    let (outcome, b) := b.execute command
    (outcome.map some, b)

end Bridge

end SensorGateway
