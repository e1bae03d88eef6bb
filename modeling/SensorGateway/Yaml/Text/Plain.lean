import SensorGateway.Yaml.Fault
import SensorGateway.Yaml.Gap

namespace SensorGateway.Yaml

/-- A text that was read: its characters, whether a line break was passed behind them, and what
follows. -/
structure PlainText where
  text : String
  passedBreak : Bool
  rest : List Spot

/-- A character that separates or encloses entries of a flow collection. -/
def isFlowMark (c : Char) : Bool :=
  c == ',' || c == '[' || c == ']' || c == '{' || c == '}'

/-- Whether a plain text ends before what is ahead. -/
def endsPlain (inFlow : Bool) (rest : List Spot) : Bool :=
  (Spot.ahead rest 0 == ':' && isSeparator (Spot.ahead rest 1)) ||
    (inFlow && isFlowMark (Spot.ahead rest 0))

/-- Whether a colon ahead is followed by a mark of a flow collection, where it must not stand. -/
def isLostColon (inFlow : Bool) (rest : List Spot) : Bool :=
  let next := Spot.ahead rest 1
  inFlow && Spot.ahead rest 0 == ':' && (isFlowMark next || next == '?')

/-- Whether a word ahead, which starts a text or follows a gap, belongs to something else: it marks a
document, starts a comment, or is not indented enough. -/
def leavesPlain (inFlow : Bool) (leastColumn : Nat) (gap : Gap) (s : Spot) (rest : List Spot) : Bool :=
  Spot.isDocumentMarker (s :: rest) || s.char == '#' ||
    (gap.hasBreak && !inFlow && decide (s.column < leastColumn))

/-- Reads a plain text, given what was read of it in reverse order and the gap behind that. -/
def plainFrom (inFlow : Bool) (leastColumn : Nat) (text : List Char) (gap : Gap) :
    List Spot → Except Fault PlainText
  | [] => .ok ⟨String.ofList text.reverse, gap.hasBreak, []⟩
  | s :: rest =>
    if s.char = endChar then .ok ⟨String.ofList text.reverse, gap.hasBreak, s :: rest⟩
    else if isBlank s.char || isBreak s.char then
      if gap.hasBreak && s.char == '\t' && decide (s.column < leastColumn) then .error .tab
      else plainFrom inFlow leastColumn text (gap.add s.char) rest
    else if (gap != .none || text.isEmpty) && leavesPlain inFlow leastColumn gap s rest then
      .ok ⟨String.ofList text.reverse, gap.hasBreak, s :: rest⟩
    else if isLostColon inFlow (s :: rest) then .error .colonInFlow
    else if endsPlain inFlow (s :: rest) then .ok ⟨String.ofList text.reverse, gap.hasBreak, s :: rest⟩
    else plainFrom inFlow leastColumn (s.char :: gap.after text) .none rest

/-- Reads a plain text. Its lines after the first start at the given column or after it, unless it
stands in a flow collection. -/
def plainText (inFlow : Bool) (leastColumn : Nat) (rest : List Spot) : Except Fault PlainText :=
  plainFrom inFlow leastColumn [] .none rest

end SensorGateway.Yaml
