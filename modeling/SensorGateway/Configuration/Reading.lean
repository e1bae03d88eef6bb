import SensorGateway.Configuration.Basic
import SensorGateway.Yaml.Document

namespace SensorGateway

open Yaml (Node Datum Visit)

/-- A step of reading a configuration. -/
abbrev Parsed := Except ContentError

/-- A step of reading a configuration in which nodes are visited. -/
abbrev Visited := Visit ContentError

namespace Parsed

/-- The value of a field. It must not be given twice. -/
def once? {α : Type} (field : String) : List α → Parsed (Option α)
  | [] => .ok none
  | [value] => .ok (some value)
  | _ => .error (.repeated field)

/-- The value of a field. It has to be given once. -/
def once {α : Type} (field : String) (values : List α) : Parsed α := do
  match ← once? field values with
  | some value => return value
  | none => throw (.missing field)

/-- The values of the entries with a key. -/
def under {κ α : Type} [BEq κ] (key : κ) (entries : List (κ × α)) : List α :=
  (entries.filter (·.1 == key)).map (·.2)

/-- A text that means text. -/
def text (field : String) : Datum → Parsed String
  | .text chars => .ok chars
  | _ => .error (.unexpected field)

/-- A truth value. -/
def bool (field : String) : Datum → Parsed Bool
  | .bool value => .ok value
  | _ => .error (.unexpected field)

/-- A whole number below a limit. -/
def natural (field : String) (limit : Nat) : Datum → Parsed Nat
  | .natural value => if value < limit then .ok value else .error (.outOfRange field)
  | .negative 0 => .ok 0
  | .negative _ => .error (.outOfRange field)
  | _ => .error (.unexpected field)

end Parsed

namespace Visited

/-- A node, or the node that an alias stands for. -/
def follow (node : Node) : Visited Node :=
  Visit.follow (.unresolved .tooManyAliases) node

/-- The text of a node, whatever it stands for. -/
def chars (place : String) (node : Node) : Visited String := do
  match ← follow node with
  | .text _ _ chars => return chars
  | _ => throw (.unexpected place)

/-- The entries of a mapping with the texts of the keys. -/
def fields (entries : List (Node × Node)) : Visited (List (String × Node)) :=
  entries.mapM fun (key, value) => do return (← chars "key" key, value)

/-- The meaning of a node that stands in the mapping of the whole configuration. -/
def datum (node : Node) : Visited Datum :=
  (Datum.ofNode (Datum.depthLimit - 1) node).mapError .unresolved

end Visited

open Parsed Visited

namespace Transport

/-- The two kinds of transport, as far as reading them differs. -/
inductive Family where
  | serial | network
  deriving DecidableEq, Repr

/-- The family of a word, or of its number. -/
def familyOf : Datum → Parsed Family
  | .text "serial" | .natural 0 => .ok .serial
  | .text "network" | .text "ethernet" | .natural 1 => .ok .network
  | .text word => .error (.unknown word)
  | _ => .error (.unexpected "kind")

/-- The names of a family's two fields. -/
def Family.fields : Family → String × String
  | .serial => ("port", "baud")
  | .network => ("host", "port")

/-- Which of two fields a key means, if any: by name, or by number. -/
def slotOf (names : String × String) : Datum → Parsed (Option Nat)
  | .text name => .ok (if name = names.1 then some 0 else if name = names.2 then some 1 else none)
  | .natural n => .ok (if n < 2 then some n else none)
  | _ => .error (.unexpected "key")

/-- The transport of a family, from where it is and a number that may be left out. -/
def ofFields (family : Family) (place : Datum) (number : Option Datum) : Parsed Transport := do
  match family with
  | .serial =>
    let device ← Parsed.text "port" place
    match number with
    | some number => return .serial device (UInt32.ofNat (← natural "baud" UInt32.size number))
    | none => return .serial device defaultBaud
  | .network =>
    let host ← Parsed.text "host" place
    match number with
    | some number => return .network host (UInt16.ofNat (← natural "port" UInt16.size number))
    | none => return .network host defaultPort

/-- Whether a key is the word for the kind. -/
def isKindKey : Datum → Bool
  | .text "kind" => true
  | _ => false

/-- The transport that a mapping describes, or a sequence with the values in order. -/
def ofDatum : Datum → Parsed Transport
  | .mapping entries => do
    let family ← familyOf (← once "kind" ((entries.filter (isKindKey ·.1)).map (·.2)))
    let slots ← (entries.filter (!isKindKey ·.1)).mapM fun (key, value) =>
      do return (← slotOf family.fields key, value)
    let place ← once family.fields.1 (under (some 0) slots)
    let number ← once? family.fields.2 (under (some 1) slots)
    ofFields family place number
  | .sequence [kind, place] => do ofFields (← familyOf kind) place none
  | .sequence [kind, place, number] => do ofFields (← familyOf kind) place (some number)
  | .sequence _ => .error .wrongLength
  | _ => .error (.unexpected "transport")

end Transport

namespace Settings

/-- The settings among the fields of a configuration. -/
def ofFields (fields : List (String × Datum)) : Parsed Settings := do
  let transport ← once "transport" (under "transport" fields)
  let interval ← once? "refresh_interval_ms" (under "refresh_interval_ms" fields)
  let metric ← once? "metric" (under "metric" fields)
  let base := ofTransport (← Transport.ofDatum transport)
  let intervalMs ← match interval with
    | some d => do pure (UInt64.ofNat (← natural "refresh_interval_ms" UInt64.size d))
    | none => pure base.intervalMs
  let metric ← match metric with
    | some d => bool "metric" d
    | none => pure base.metric
  return ⟨base.transport, intervalMs, metric⟩

end Settings

namespace ItemType

/-- The type of a word. -/
def ofWord (word : String) : Parsed ItemType :=
  match ofName? word with
  | some type => .ok type
  | none => .error (.unknown word)

/-- The type that a node names: by its text, or by a tag of an application on nothing. -/
def ofNode (node : Node) : Visited ItemType := do
  match ← follow node with
  | .text p plain chars =>
    match p.tag.bind Yaml.Tag.word? with
    | some word =>
      if plain && (chars.isEmpty || Yaml.Scalar.isNull chars) then ofWord word else throw (.unexpected "kind")
    | none => ofWord chars
  | _ => throw (.unexpected "kind")

end ItemType

namespace ItemEntry

/-- The item that a mapping describes. -/
def ofNode (node : Node) : Visited ItemEntry := do
  match ← follow node with
  | .mapping _ entries =>
    let fields ← Visited.fields entries
    let name ← chars "name" (← once "name" (under "name" fields))
    let type ← ItemType.ofNode (← once "kind" (under "kind" fields))
    let binding ← chars "binding" (← once "binding" (under "binding" fields))
    return ⟨name, type, binding⟩
  | _ => throw (.unexpected "item")

/-- The items that a node lists. Nothing at all lists none. -/
def listOf (node : Node) : Visited (List ItemEntry) := do
  match ← follow node with
  | .sequence _ items => items.mapM ofNode
  | .text _ true "" => return []
  | _ => throw (.unexpected "items")

end ItemEntry

namespace Configuration

/-- The log level that a node gives. A plain word for nothing gives none. -/
def logLevelOf (node : Node) : Visited (Option String) := do
  match ← follow node with
  | .text p true chars =>
    match p.tag with
    | none => return if chars.isEmpty || Yaml.Scalar.isNull chars then none else some chars
    | some tag =>
      if tag = .standard "null" then
        if Yaml.Scalar.isNull chars then return none else throw (.unexpected "log_level")
      else return some chars
  | .text _ false chars => return some chars
  | _ => throw (.unexpected "log_level")

/-- The fields that are read as text. -/
def isTextual (field : String) : Bool :=
  field = "items" || field = "log_level"

/-- The configuration that the node of a document gives. -/
def ofNode (node : Node) : Visited Configuration := do
  match ← follow node with
  | .mapping _ entries =>
    let fields ← Visited.fields entries
    let items ← once? "items" (under "items" fields)
    let logLevel ← once? "log_level" (under "log_level" fields)
    let settings ← (fields.filter (!isTextual ·.1)).mapM fun (field, node) => do return (field, ← datum node)
    let items ← match items with
      | some node => ItemEntry.listOf node
      | none => pure []
    let logLevel ← match logLevel with
      | some node => logLevelOf node
      | none => pure none
    return ⟨← Settings.ofFields settings, items, logLevel⟩
  | _ => throw (.unexpected "configuration")

/-- The configuration that a text gives. -/
def ofText (text : String) : Except ConfigurationError Configuration :=
  match Yaml.document text with
  | .ok document => ((ofNode document.root).run document).mapError .content
  | .error fault => .error (.content (.malformed fault))

/-- The configuration in the bytes of a file, if the file could be read. -/
def ofFile (bytes : Except FileError (List UInt8)) : Except ConfigurationError Configuration :=
  match bytes with
  | .error cause => .error (.file cause)
  | .ok bytes =>
    match String.fromUTF8? ⟨bytes.toArray⟩ with
    | some text => ofText text
    | none => .error (.file .notText)

end Configuration

end SensorGateway
