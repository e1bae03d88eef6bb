import SensorGateway.Number.Reading
import SensorGateway.Number.Shortest

namespace SensorGateway

/-- A position: degrees of latitude and longitude, and meters of altitude. -/
structure GeoPoint where
  latitude : Number
  longitude : Number
  altitude : Number
  deriving DecidableEq, Repr

namespace GeoPoint

/-- Whether all three numbers are finite. -/
def isFinite (p : GeoPoint) : Bool :=
  p.latitude.isFinite && p.longitude.isFinite && p.altitude.isFinite

/-- The three numbers with a separator between them. -/
def text (separator : String) (p : GeoPoint) : String :=
  p.latitude.text ++ separator ++ p.longitude.text ++ separator ++ p.altitude.text

/-- Two or three finite numbers with semicolons or commas between them. The altitude is 0 when it is
left out. -/
def read? (s : String) : Option GeoPoint := do
  let fields := s.toList.splitOnP fun c => c == ';' || c == ','
  let numbers ← fields.mapM fun field => Number.readFinite? (Text.trim (String.ofList field))
  match numbers with
  | [latitude, longitude] => some ⟨latitude, longitude, .zero⟩
  | [latitude, longitude, altitude] => some ⟨latitude, longitude, altitude⟩
  | _ => none

end GeoPoint

end SensorGateway
