import SensorGateway.Text.Digits
import SensorGateway.Yaml.Fault
import SensorGateway.Yaml.Gap

namespace SensorGateway.Yaml

/-- Reads a text in single quotes, given what was read of it in reverse order and the gap behind
that. -/
def singleFrom (text : List Char) (gap : Gap) : List Spot → Except Fault (String × List Spot)
  | [] => .error .unclosedQuote
  | s :: rest =>
    if s.char = endChar then .error .unclosedQuote
    else if isBlank s.char || isBreak s.char then singleFrom text (gap.add s.char) rest
    else if Spot.isDocumentMarker (s :: rest) then .error .markerInQuote
    else if s.char = '\'' then
      match rest with
      | quote :: more =>
        if quote.char = '\'' then singleFrom ('\'' :: gap.after text) .none more
        else .ok (String.ofList (gap.after text).reverse, quote :: more)
      | [] => .ok (String.ofList (gap.after text).reverse, [])
    else singleFrom (s.char :: gap.after text) .none rest

/-- What an escape character stands for, if it stands for a character. -/
def escaped? (c : Char) : Option Char :=
  [('0', '\x00'), ('a', '\x07'), ('b', '\x08'), ('t', '\t'), ('\t', '\t'), ('n', '\n'), ('v', '\x0b'),
   ('f', '\x0c'), ('r', '\r'), ('e', '\x1b'), (' ', ' '), ('"', '"'), ('/', '/'), ('\\', '\\'),
   ('N', '\u0085'), ('_', '\u00a0'), ('L', '\u2028'), ('P', '\u2029')].lookup c

/-- How many hex digits an escape character announces. -/
def hexWidth? (c : Char) : Option Nat :=
  [('x', 2), ('u', 4), ('U', 8)].lookup c

/-- The character with this number, if there is one. -/
def charOf? (value : Nat) : Option Char :=
  if value.isValidChar then some (Char.ofNat value) else none

/-- What a text in double quotes is to go on with: a character, an escape, or so many more hex digits
after those of this value. -/
inductive QuoteState where
  | text
  | escape
  | hex (left value : Nat)
  deriving DecidableEq, Repr

/-- Reads a text in double quotes, given what was read of it in reverse order and the gap behind
that. -/
def doubleFrom (state : QuoteState) (text : List Char) (gap : Gap) :
    List Spot → Except Fault (String × List Spot)
  | [] => .error .unclosedQuote
  | s :: rest =>
    match state with
    | .hex left value =>
      match Text.hexDigit? s.char with
      | none => .error .badHexDigits
      | some digit =>
        if left = 1 then
          match charOf? (value * 16 + digit) with
          | some c => doubleFrom .text (c :: text) .none rest
          | none => .error .badCodePoint
        else doubleFrom (.hex (left - 1) (value * 16 + digit)) text gap rest
    | .escape =>
      if isBreak s.char then doubleFrom .text text (.breaks none []) rest
      else match escaped? s.char, hexWidth? s.char with
        | some c, _ => doubleFrom .text (c :: text) .none rest
        | none, some width => doubleFrom (.hex width 0) text gap rest
        | none, none => .error (.unknownEscape s.char)
    | .text =>
      if s.char = endChar then .error .unclosedQuote
      else if isBlank s.char || isBreak s.char then doubleFrom .text text (gap.add s.char) rest
      else if Spot.isDocumentMarker (s :: rest) then .error .markerInQuote
      else if s.char = '"' then .ok (String.ofList (gap.after text).reverse, rest)
      else if s.char = '\\' then doubleFrom .escape (gap.after text) .none rest
      else doubleFrom .text (s.char :: gap.after text) .none rest

/-- Reads a text up to its closing quote. -/
def quotedText (quote : Char) (rest : List Spot) : Except Fault (String × List Spot) :=
  if quote = '\'' then singleFrom [] .none rest else doubleFrom .text [] .none rest

end SensorGateway.Yaml
