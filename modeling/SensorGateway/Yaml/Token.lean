namespace SensorGateway.Yaml

/-- A token. Starts and ends of block collections are found from the indentation. What a tag is put together
from is kept as bytes. -/
inductive Token where
  | version (major minor : Nat)
  | handle (name : String) (expansion : List UInt8)
  | documentStart
  | documentEnd
  | blockSequence
  | blockMapping
  | blockEnd
  | flowSequence
  | flowSequenceEnd
  | flowMapping
  | flowMappingEnd
  | item
  | comma
  | key
  | value
  | alias (name : String)
  | anchor (name : String)
  | tag (handle : String) (suffix : List UInt8)
  | text (plain : Bool) (chars : String)
  deriving DecidableEq, Repr

end SensorGateway.Yaml
