import SensorGateway.Yaml.Spot

namespace SensorGateway.Yaml

/-- White space after a word: none, blanks, or line breaks. The first break may have been escaped.
Characters are kept in reverse order. -/
inductive Gap where
  | none
  | blanks (reversed : List Char)
  | breaks (first : Option Char) (reversed : List Char)
  deriving DecidableEq, Repr

namespace Gap

/-- The gap after one more blank or break. -/
def add (gap : Gap) (c : Char) : Gap :=
  match gap with
  | .none => if isBreak c then .breaks (some c) [] else .blanks [c]
  | .blanks reversed => if isBreak c then .breaks (some c) [] else .blanks (c :: reversed)
  | .breaks first reversed => if isBreak c then .breaks first (c :: reversed) else gap

/-- What stands for the gap in the text, in reverse order: a space for one line feed, and if more breaks follow it, only
those. -/
def folded : Gap → List Char
  | .none => []
  | .blanks reversed => reversed
  | .breaks first reversed =>
    if first = some '\n' then if reversed.isEmpty then [' '] else reversed
    else reversed ++ first.toList

/-- Puts the gap behind the characters of a text in reverse order. -/
def after (gap : Gap) (text : List Char) : List Char :=
  gap.folded ++ text

/-- Whether the gap has a line break. -/
def hasBreak : Gap → Bool
  | .breaks _ _ => true
  | _ => false

end Gap

end SensorGateway.Yaml
