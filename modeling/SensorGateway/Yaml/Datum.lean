import SensorGateway.Number.Reading
import SensorGateway.Yaml.Visit

namespace SensorGateway.Yaml

open Text (hexDigit? digitsValue isDigits)

/-- The meaning of a node. A whole number keeps whether a minus sign was written. -/
inductive Datum where
  | nothing
  | bool (value : Bool)
  | natural (value : Nat)
  | negative (magnitude : Nat)
  | decimal
  | text (chars : String)
  | sequence (items : List Datum)
  | mapping (entries : List (Datum × Datum))

/-- Why a node has no meaning: its tag belongs to an application, its text is not what its tag demands, its
whole number is too large, it is nested too deeply, or aliases were followed too often. -/
inductive Unresolved where
  | localTag (word : String)
  | misfit (type chars : String)
  | tooLarge (chars : String)
  | tooDeep
  | tooManyAliases
  deriving DecidableEq, Repr

namespace Scalar

/-- The words for nothing. -/
def isNull (s : String) : Bool :=
  ["null", "Null", "NULL", "~"].contains s

/-- The truth value that a word stands for. -/
def bool? (s : String) : Option Bool :=
  if ["true", "True", "TRUE"].contains s then some true
  else if ["false", "False", "FALSE"].contains s then some false
  else none

/-- The number that digits to a base spell. -/
def radixValue? (base : Nat) (cs : List Char) : Option Nat :=
  if cs.isEmpty then none
  else cs.foldl (fun value c => do
    let value ← value
    let digit ← hexDigit? c
    if digit < base then some (value * base + digit) else none) (some 0)

/-- Digits behind a zero, which are no number. -/
def isPadded (cs : List Char) : Bool :=
  match cs with
  | '0' :: rest => isDigits rest
  | _ => false

/-- A whole number without a sign: digits, or digits to the base that a letter after a zero gives. -/
def magnitude? : List Char → Option Nat
  | '0' :: 'x' :: rest => radixValue? 16 rest
  | '0' :: 'o' :: rest => radixValue? 8 rest
  | '0' :: 'b' :: rest => radixValue? 2 rest
  | cs => if isDigits cs && !isPadded cs then some (digitsValue cs) else none

/-- A whole number: whether it has a minus sign, and the number behind the sign. -/
def integer? (s : String) : Option (Bool × Nat) :=
  match s.toList with
  | '-' :: rest => (magnitude? rest).map (true, ·)
  | '+' :: rest => (magnitude? rest).map (false, ·)
  | cs => (magnitude? cs).map (false, ·)

/-- The text without a sign in front. -/
def unsigned (cs : List Char) : List Char :=
  match cs with
  | '-' :: rest | '+' :: rest => rest
  | cs => cs

/-- Whether the text is a decimal number: finite, or one of the words for infinity and for an undefined
result that start with a point. -/
def isDecimal (s : String) : Bool :=
  let word := String.ofList (unsigned s.toList)
  [".inf", ".Inf", ".INF"].contains word || [".nan", ".NaN", ".NAN"].contains s ||
    (Number.readFinite? s).isSome

/-- The whole number that a text spells, if it fits in 64 bits. One that fits in 128 bits is too
large, and one beyond that is no whole number. -/
def integer (s : String) : Except Unresolved (Option Datum) :=
  match integer? s with
  | none => .ok none
  | some (true, n) =>
    if n ≤ UInt64.size / 2 then .ok (some (.negative n))
    else if n ≤ UInt64.size * UInt64.size / 2 then .error (.tooLarge s) else .ok none
  | some (false, n) =>
    if n < UInt64.size then .ok (some (.natural n))
    else if n < UInt64.size * UInt64.size then .error (.tooLarge s) else .ok none

/-- The meaning of a plain text without a tag. -/
def plain (s : String) : Except Unresolved Datum := do
  if s.isEmpty || isNull s then return .nothing
  else match bool? s with
    | some value => return .bool value
    | none =>
      match ← integer s with
      | some datum => return datum
      | none => return if !isPadded (unsigned s.toList) && isDecimal s then .decimal else .text s

/-- The meaning of a text that has to be of a type. -/
def demanded (type s : String) : Option Datum → Except Unresolved Datum
  | some datum => .ok datum
  | none => .error (.misfit type s)

/-- The meaning of a text with a tag. -/
def tagged (tag : Tag) (isPlain : Bool) (s : String) : Except Unresolved Datum := do
  if let some word := tag.word? then throw (.localTag word)
  else if tag = .standard "null" then demanded "null" s (if isNull s then some .nothing else none)
  else if tag = .standard "bool" then demanded "bool" s ((bool? s).map .bool)
  else if tag = .standard "int" then demanded "int" s (← integer s)
  else if tag = .standard "float" then demanded "float" s (if isDecimal s then some .decimal else none)
  else if tag.isGarbledWord && isPlain then plain s
  else return .text s

/-- The meaning of a text. -/
def meaning (tag : Option Tag) (isPlain : Bool) (s : String) : Except Unresolved Datum :=
  match tag with
  | some tag => tagged tag isPlain s
  | none => if isPlain then plain s else .ok (.text s)

end Scalar

namespace Datum

/-- How deeply nodes may be nested. -/
def depthLimit : Nat := 128

/-- Refuses the tag of an application. -/
def checkTag (tag : Option Tag) : Except Unresolved Unit :=
  match tag.bind Tag.word? with
  | some word => .error (.localTag word)
  | none => .ok ()

/-- The meaning of a node with so many levels of sequences and mappings at most. Aliases are followed. -/
def ofNode : Nat → Node → Visit Unresolved Datum
  | 0, node => do
    match ← Visit.follow .tooManyAliases node with
    | .text p isPlain chars => Scalar.meaning p.tag isPlain chars
    | _ => throw .tooDeep
  | depth + 1, node => do
    match ← Visit.follow .tooManyAliases node with
    | .text p isPlain chars => Scalar.meaning p.tag isPlain chars
    | .sequence p items =>
      checkTag p.tag
      return .sequence (← items.mapM (ofNode depth))
    | .mapping p entries =>
      checkTag p.tag
      return .mapping (← entries.mapM fun (key, value) => do return (← ofNode depth key, ← ofNode depth value))
    | .alias _ => throw .tooManyAliases

end Datum

namespace Unresolved

/-- The cause in words. -/
def message : Unresolved → String
  | .localTag word => "unknown tag !" ++ word
  | .misfit type chars => chars ++ " is not of type " ++ type
  | .tooLarge chars => "number " ++ chars ++ " is too large"
  | .tooDeep => "nested too deeply"
  | .tooManyAliases => "aliases are followed too often"

end Unresolved

end SensorGateway.Yaml
