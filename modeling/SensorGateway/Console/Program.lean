import SensorGateway.Bridge.Health
import SensorGateway.Configuration.Reading
import SensorGateway.Console.Invocation
import SensorGateway.Console.Session

namespace SensorGateway

/-- What was printed, a line each: as output, and as errors. -/
structure Printed where
  output : List String
  errors : List String
  deriving DecidableEq, Repr

/-- What the program does before the first line is typed: it ends at once with an exit code, or goes on
with a configuration whose items are bound. -/
inductive Opening where
  | ended (code : UInt8) (printed : Printed)
  | ready (configuration : Configuration) (items : BindingTable)

namespace Printed

/-- Nothing. -/
def nothing : Printed := ⟨[], []⟩

/-- The lines of a text. -/
def lines (text : String) : List String :=
  (text.toList.splitOn '\n').map String.ofList

/-- One output after another. -/
def append (a b : Printed) : Printed :=
  ⟨a.output ++ b.output, a.errors ++ b.errors⟩

/-- What is printed after a line was carried out. -/
def ofAnswer : Except InputError (Option String) → Printed
  | .ok (some text) => ⟨lines text, []⟩
  | .ok none => nothing
  | .error cause => ⟨[], lines cause.message⟩

end Printed

namespace Configuration

/-- The configuration with the period that an option gives. -/
def override (c : Configuration) (options : Options) : Configuration :=
  match options.refreshMs with
  | some period => { c with settings := { c.settings with intervalMs := period } }
  | none => c

end Configuration

namespace Opening

/-- What follows from the content of the configuration file. A file that cannot be used is reported; an
item that cannot be bound only goes to the log. -/
def ofFile (options : Options) (bytes : Except FileError (List UInt8)) : Opening :=
  match Configuration.ofFile bytes with
  | .error cause =>
    .ended 1 ⟨[], Printed.lines ("Error: cannot load " ++ options.configPath ++ ": " ++ cause.message)⟩
  | .ok c =>
    match c.bindingTable with
    | .error _ => .ended 1 .nothing
    | .ok items => .ready (c.override options) items

/-- What follows from the command line, with a way to read files. -/
def ofArguments (read : String → Except FileError (List UInt8)) (arguments : List String) : Opening :=
  match Invocation.parse arguments with
  | .error cause => .ended 2 ⟨[], ["error: " ++ cause.message]⟩
  | .ok .help => .ended 0 ⟨Invocation.helpLines, []⟩
  | .ok .version => .ended 0 ⟨[Invocation.versionText], []⟩
  | .ok (.run options) => ofFile options (read options.configPath)

end Opening

namespace Bridge

variable {ω : Type} [Outside ω]

/-- Carries out lines one after the other. -/
def converse (b : Bridge ω) : List String → Printed × Bridge ω
  | [] => (.nothing, b)
  | line :: rest =>
    let (answer, b) := b.executeLine line
    let (printed, b) := b.converse rest
    ((Printed.ofAnswer answer).append printed, b)

/-- A bridge with a configuration, its first link opened if that is possible. -/
def launch (c : Configuration) (items : BindingTable) (outside : ω) : Bridge ω :=
  (Bridge.new c.settings items .empty outside).start.2

end Bridge

end SensorGateway
