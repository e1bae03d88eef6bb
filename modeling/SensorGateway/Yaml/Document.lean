import SensorGateway.Yaml.Node
import SensorGateway.Yaml.Token.Scan

namespace SensorGateway.Yaml

/-- A document: its node, the anchored nodes in it, and how many nodes and ends of nodes it was written
with. -/
structure Document where
  root : Node
  anchored : List (Nat × Node)
  events : Nat

/-- The node that an alias with a number stands for: the last one whose anchor has the number. -/
def Document.target? (d : Document) (number : Nat) : Option Node :=
  d.anchored.reverse.lookup number

/-- The handles that need no directive. -/
def standardHandles : List (String × List UInt8) :=
  [("!", Text.utf8 "!"), ("!!", Text.utf8 "tag:yaml.org,2002:")]

/-- Reads the directives before a document. Gives the handles of tags. One version may be given, and
each handle once. -/
def readDirectives (versioned : Bool) (handles : List (String × List UInt8)) :
    List Token → Except Fault (List (String × List UInt8) × List Token)
  | .version major minor :: rest =>
    if versioned then .error .repeatedDirective
    else if major = 1 ∧ (minor = 1 ∨ minor = 2) then readDirectives true handles rest
    else .error .badVersion
  | .handle name expansion :: rest =>
    if (handles.lookup name).isSome then .error .repeatedDirective
    else readDirectives versioned (handles ++ [(name, expansion)]) rest
  | rest => .ok (handles ++ standardHandles, rest)

/-- Whether a document has no node: it ends at once, or another begins. -/
def endsDocument : List Token → Bool
  | [] => true
  | token :: _ => match token with
    | .documentStart | .documentEnd | .version _ _ | .handle _ _ => true
    | _ => false

/-- Reads the node of a document. -/
def readRoot (handles : List (String × List UInt8)) (tokens : List Token) :
    Except Fault (Document × List Token) := do
  let (root, reading) ← (readNode true false (4 * tokens.length + 4)).run ⟨tokens, handles, [], 0⟩
  .ok (⟨root, root.anchored, reading.events⟩, reading.tokens)

/-- Reads the first document. A document with directives has a mark of its start. -/
def readDocument (tokens : List Token) : Except Fault (Document × List Token) := do
  let (handles, rest) ← readDirectives false [] tokens
  match rest with
  | .documentStart :: rest =>
    if endsDocument rest then .ok (⟨.blank .none, [], 1⟩, rest) else readRoot handles rest
  | _ =>
    if rest.length < tokens.length then .error .unexpectedToken
    else if rest.isEmpty then .error .noDocument
    else readRoot handles rest

/-- The one document that a text holds. -/
def document (text : String) : Except Fault Document := do
  let (document, rest) ← readDocument (← tokens text)
  match rest.dropWhile (· = .documentEnd) with
  | [] => .ok document
  | .documentStart :: _ => .error .secondDocument
  | _ => .error .unexpectedToken

end SensorGateway.Yaml
