namespace SensorGateway

/-- A numbered word: its number on the wire, the word, a description, and what it carries. -/
structure Row (α : Type) where
  code : UInt8
  name : String
  description : String
  carries : List α

end SensorGateway
