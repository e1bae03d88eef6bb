import SensorGateway.Binding.Table
import SensorGateway.Transport
import SensorGateway.Yaml.Datum

namespace SensorGateway

/-- An item with the text of its binding. -/
structure ItemEntry where
  name : String
  type : ItemType
  binding : String
  deriving DecidableEq, Repr

/-- What a configuration file says. -/
structure Configuration where
  settings : Settings
  items : List ItemEntry
  logLevel : Option String
  deriving DecidableEq, Repr

/-- Why a file cannot be read. -/
inductive FileError where
  | missing
  | directory
  | notDirectory
  | notText
  | other (cause : String)
  deriving DecidableEq, Repr

/-- What is wrong with the content of a configuration. -/
inductive ContentError where
  | malformed (fault : Yaml.Fault)
  | unresolved (cause : Yaml.Unresolved)
  | unexpected (place : String)
  | missing (field : String)
  | repeated (field : String)
  | unknown (word : String)
  | outOfRange (field : String)
  | wrongLength
  deriving DecidableEq, Repr

/-- Why there is no configuration, or why its items cannot be bound. -/
inductive ConfigurationError where
  | file (cause : FileError)
  | content (cause : ContentError)
  | item (name : String) (cause : BindingError)
  deriving DecidableEq, Repr

namespace FileError

/-- The cause in words. -/
def message : FileError → String
  | .missing => "No such file or directory (os error 2)"
  | .directory => "Is a directory (os error 21)"
  | .notDirectory => "Not a directory (os error 20)"
  | .notText => "stream did not contain valid UTF-8"
  | .other cause => cause

end FileError

namespace ContentError

/-- The cause in words. -/
def message : ContentError → String
  | .malformed fault => fault.message
  | .unresolved cause => cause.message
  | .unexpected place => "unexpected value for " ++ place
  | .missing field => "missing field " ++ field
  | .repeated field => "duplicate field " ++ field
  | .unknown word => "unknown variant " ++ word
  | .outOfRange field => field ++ " is out of range"
  | .wrongLength => "wrong number of values"

end ContentError

namespace ConfigurationError

/-- The cause in words. -/
def message : ConfigurationError → String
  | .file cause => "IO error: " ++ cause.message
  | .content cause => "YAML parsing error: " ++ cause.message
  | .item name cause => "item " ++ name ++ ": " ++ cause.message

end ConfigurationError

namespace BindingTable

/-- Binds items one after the other, onto those bound already. The error names the item that could not
be bound. -/
def bindAll (table : BindingTable) : List ItemEntry → Except ConfigurationError BindingTable
  | [] => .ok table
  | entry :: rest =>
    match table.bind entry.name entry.type entry.binding with
    | .ok (_, table) => table.bindAll rest
    | .error cause => .error (.item entry.name cause)

end BindingTable

namespace Configuration

/-- The table of all configured items. -/
def bindingTable (c : Configuration) : Except ConfigurationError BindingTable :=
  BindingTable.empty.bindAll c.items

end Configuration

end SensorGateway
