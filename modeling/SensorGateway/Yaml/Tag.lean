namespace SensorGateway.Yaml

/-- The tag of a node: a text, or bytes that are no text. -/
inductive Tag where
  | text (chars : String)
  | garbled (bytes : List UInt8)
  deriving DecidableEq, Repr

namespace Tag

/-- The tag that is spelled with bytes. -/
def ofBytes (bytes : List UInt8) : Tag :=
  match String.fromUTF8? ⟨bytes.toArray⟩ with
  | some chars => .text chars
  | none => .garbled bytes

/-- The tag of a standard type. -/
def standard (name : String) : Tag :=
  .text ("tag:yaml.org,2002:" ++ name)

/-- A tag that says nothing but that a text is no plain one. -/
def mark : Tag := .text "!"

/-- The word of a tag that belongs to an application. A tag that is no text has none. -/
def word? : Tag → Option String
  | .text chars => if chars.startsWith "!" then some (chars.drop 1).toString else none
  | .garbled _ => none

/-- Whether a tag begins as those of applications do and yet is no text. -/
def isGarbledWord : Tag → Bool
  | .text _ => false
  | .garbled bytes => bytes.head? == some 0x21

end Tag

end SensorGateway.Yaml
