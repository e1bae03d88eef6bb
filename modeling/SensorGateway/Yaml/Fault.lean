namespace SensorGateway.Yaml

/-- What is wrong with a text. -/
inductive Fault where
  | forbidden (char : Char)
  | stray (char : Char)
  | tab
  | unclosedQuote
  | markerInQuote
  | unknownEscape (char : Char)
  | badHexDigits
  | badCodePoint
  | colonInFlow
  | badBlockHeader
  | badAnchor
  | badTag
  | unknownHandle (handle : String)
  | badDirective
  | badVersion
  | repeatedDirective
  | keyWithoutValue
  | entryNotAllowed
  | keyNotAllowed
  | valueNotAllowed
  | unexpectedToken
  | unknownAlias (name : String)
  | noDocument
  | secondDocument
  deriving DecidableEq, Repr

namespace Fault

/-- The fault in words. -/
def message : Fault → String
  | .forbidden c => "character " ++ toString c.toNat ++ " is not allowed"
  | .stray c => "character " ++ toString c.toNat ++ " cannot start a token"
  | .tab => "a tab stands where indentation is expected"
  | .unclosedQuote => "a quoted text is not closed"
  | .markerInQuote => "a document marker stands in a quoted text"
  | .unknownEscape c => "unknown escape character " ++ toString c.toNat
  | .badHexDigits => "an escape has too few hex digits"
  | .badCodePoint => "an escape is no character"
  | .colonInFlow => "unexpected ':'"
  | .badBlockHeader => "malformed header of a block text"
  | .badAnchor => "malformed anchor or alias"
  | .badTag => "malformed tag"
  | .unknownHandle handle => "undefined tag handle " ++ handle
  | .badDirective => "malformed directive"
  | .badVersion => "incompatible version"
  | .repeatedDirective => "a directive is repeated"
  | .keyWithoutValue => "could not find expected ':'"
  | .entryNotAllowed => "sequence entries are not allowed here"
  | .keyNotAllowed => "mapping keys are not allowed here"
  | .valueNotAllowed => "mapping values are not allowed here"
  | .unexpectedToken => "unexpected token"
  | .unknownAlias name => "unknown anchor " ++ name
  | .noDocument => "there is no document"
  | .secondDocument => "there is more than one document"

end Fault

end SensorGateway.Yaml
