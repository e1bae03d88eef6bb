import SensorGateway.Proofs.Number.ReadBack
import SensorGateway.Proofs.Value.Payload

namespace SensorGateway

theorem Text.isBlank_digitChar : ∀ n < 16, Text.isBlank n.digitChar = false := by
  decide

theorem Rgb.mem_hexChars {c : Rgb} {digit : Char} (member : digit ∈ c.hexChars) :
    ∃ n < 16, digit = Nat.digitChar n := by
  have byte {b : UInt8} (member : digit ∈ byteHex b) : ∃ n < 16, digit = Nat.digitChar n := by
    have bound := b.toNat_lt
    rcases List.mem_pair.mp member with high | low
    · exact ⟨b.toNat / 16, by omega, high⟩
    · exact ⟨b.toNat % 16, by omega, low⟩
  rcases List.mem_append.mp member with front | blue
  · rcases List.mem_append.mp front with red | green
    · exact byte red
    · exact byte green
  · exact byte blue

theorem Rgb.solid_hex (c : Rgb) : Text.Solid c.hex.toList := by
  rw [hex, String.toList_ofList]
  intro digit member
  obtain ⟨n, small, rfl⟩ := mem_hexChars member
  exact Text.isBlank_digitChar n small

theorem GeoPoint.solid_text (p : GeoPoint) : Text.Solid (p.text ";").toList := by
  have separator : Text.Solid ";".toList := by decide
  simp only [GeoPoint.text, String.toList_append]
  exact (((p.latitude.solid_text.append separator).append p.longitude.solid_text).append separator).append
    p.altitude.solid_text

namespace Value

/-- No payload has a blank, except that of a text. -/
theorem solid_payload {v : Value} {channel : Channel} {payload : String} (spelled : v.payload channel = .ok payload)
    (word : ∀ s, v ≠ .text s) : Text.Solid payload.toList := by
  have carried := carried_of_payload spelled
  unfold Value.payload at spelled
  rw [if_pos carried] at spelled
  cases v with
  | text s => exact absurd rfl (word s)
  | onOff on =>
    rw [← Except.ok.inj spelled]
    cases channel.isColor <;> cases on <;> decide
  | openClosed isOpen =>
    rw [← Except.ok.inj spelled]
    cases isOpen <;> decide
  | decimal n =>
    rw [← Except.ok.inj spelled]
    exact n.solid_text
  | percent p =>
    rw [← Except.ok.inj spelled]
    exact Text.solid_nat _
  | step increase =>
    rw [← Except.ok.inj spelled]
    cases increase <;> decide
  | color c =>
    rw [← Except.ok.inj spelled]
    exact c.solid_hex
  | point p =>
    rw [← Except.ok.inj spelled]
    exact p.solid_text
  | time t =>
    rw [← Except.ok.inj spelled]
    exact Text.solid_int _

/-- No payload that a value is sent with has a line break. -/
theorem hasLineBreak_payload {v : Value} {channel : Channel} {payload : String}
    (spelled : v.payload channel = .ok payload) : Text.hasLineBreak payload = false := by
  cases v with
  | text s =>
    obtain ⟨rfl, line⟩ := of_payload_text spelled
    exact line
  | onOff | openClosed | decimal | percent | step | color | point | time =>
    exact (solid_payload spelled nofun).hasLineBreak

end Value

end SensorGateway
