import SensorGateway.Proofs.Value.OneLine

namespace SensorGateway

theorem Text.hexDigit?_digitChar : ∀ n < 16, Text.hexDigit? n.digitChar = some n := by
  decide

namespace Rgb

theorem hexByte?_digits (b : UInt8) :
    hexByte? (Nat.digitChar (b.toNat / 16)) (Nat.digitChar (b.toNat % 16)) = some b := by
  have bound := b.toNat_lt
  have high := Text.hexDigit?_digitChar (b.toNat / 16) (by omega)
  have low := Text.hexDigit?_digitChar (b.toNat % 16) (by omega)
  simp only [hexByte?, high, low, Option.bind_eq_bind, Option.bind_some, Nat.div_add_mod, UInt8.ofNat_toNat]

theorem ofHex?_hex (c : Rgb) : ofHex? c.hex = some c := by
  have hexDigits : c.hexChars.all (fun d => (Text.hexDigit? d).isSome) = true := by
    refine List.all_eq_true.mpr fun digit member => ?_
    obtain ⟨n, small, rfl⟩ := mem_hexChars member
    rw [Text.hexDigit?_digitChar n small, Option.isSome_some]
  have six : ofSix? c.hexChars = some c := by
    simp only [hexChars, byteHex, List.cons_append, List.nil_append, ofSix?, hexByte?_digits, Option.bind_eq_bind,
      Option.bind_some]
  have all : c.hexChars.take 6 = c.hexChars := rfl
  rw [ofHex?, hex, String.toList_ofList, ofHexChars?, if_pos ⟨hexDigits, .inl rfl⟩, all, six]

end Rgb

namespace GeoPoint

theorem not_separator_of_mem_chars {n : Number} {c : Char} (member : c ∈ n.chars) :
    (c == ';' || c == ',') = false := by
  have apart {separator : Char} (noDigit : separator.isDigit = false) (other : separator ∉ Number.otherChars) :
      c ≠ separator := by
    rintro rfl
    rcases Number.mem_chars member with digit | mark
    · exact nomatch noDigit.symm.trans digit
    · exact other mark
  rw [Bool.or_eq_false_iff, beq_eq_false_iff_ne, beq_eq_false_iff_ne]
  exact ⟨apart rfl (by decide), apart rfl (by decide)⟩

/-- A position is read back from its three numbers, if they are finite; otherwise none is read. -/
theorem read?_text (p : GeoPoint) : read? (p.text ";") = if p.isFinite then some p else none := by
  have field (n : Number) :
      Number.readFinite? (Text.trim (String.ofList n.chars)) = if n.isFinite then some n else none := by
    rw [← Number.text, n.solid_text.trim, Number.readFinite?_text]
  have spelled : (p.text ";").toList =
      p.latitude.chars ++ ';' :: (p.longitude.chars ++ ';' :: p.altitude.chars) := by
    simp only [text, Number.text, String.toList_append, String.toList_ofList, List.append_assoc]
    rfl
  unfold read?
  rw [spelled, List.splitOnP_append_cons_of_forall_mem (fun _ => not_separator_of_mem_chars) _ rfl,
    List.splitOnP_append_cons_of_forall_mem (fun _ => not_separator_of_mem_chars) _ rfl,
    List.splitOnP_eq_singleton (fun _ => not_separator_of_mem_chars)]
  simp only [List.mapM_cons, List.mapM_nil, field, isFinite]
  by_cases latitude : p.latitude.isFinite = true
  · by_cases longitude : p.longitude.isFinite = true
    · by_cases altitude : p.altitude.isFinite = true
      · simp [latitude, longitude, altitude]
      · simp [latitude, longitude, altitude]
    · simp [latitude, longitude]
  · simp [latitude]

end GeoPoint

theorem Instant.read?_seconds (t : Instant) : read? (toString t.seconds) = some t.wholeSeconds := by
  have lower := t.seconds_ge
  have upper := t.seconds_le
  unfold read?
  rw [Text.readInt64?_int (by omega) (by omega)]
  exact t.of?_seconds_zero

namespace Value

theorem readBit?_bit (set : Bool) : readBit? (bit set) = some set := by
  cases set <;> decide

/-- The hex digits of white and black are no state with two values. -/
theorem readBit?_colorBit (on : Bool) : readBit? (colorBit on) = none := by
  cases on <;> decide

theorem readStep?_stepWord (increase : Bool) : readStep? (stepWord increase) = some increase := by
  cases increase <;> decide

/-- The channels that take a full color. -/
theorem isColor_iff (channel : Channel) :
    channel.isColor = true ↔ channel = .signal .rgb ∨ channel = .signal .rgbw := by
  cases channel with
  | signal t => simp [Channel.isColor, Signal.isColor]
  | housekeeping t => simp [Channel.isColor]

/-- Whether the payload of the value on the channel spells a value of its kind. White and black, which two channels take
for on and off, spell neither of these, a percentage above a hundred is out of range, and a number that is not finite is
no number to a reader. -/
def isLegible (channel : Channel) : Value → Bool
  | .onOff _ => channel ≠ .signal .rgb ∧ channel ≠ .signal .rgbw
  | .percent p => p.toNat ≤ 100
  | .decimal n => n.isFinite
  | .point p => p.isFinite
  | .openClosed _ | .step _ | .color _ | .time _ | .text _ => true

/-- The value as it can be read back: a time without the part of its second. -/
def wholeSeconds : Value → Value
  | .time t => .time t.wholeSeconds
  | v => v

theorem readPayload?_percent (p : UInt8) :
    readPayload? .percent (toString p.toNat) = if p.toNat ≤ 100 then some (.percent p) else none := by
  have bound := p.toNat_lt
  have small : p.toNat < 2 ^ 53 := by omega
  obtain ⟨rank, whole, read⟩ := Number.readFinite?_nat small
  rw [readPayload?, (Text.solid_nat _).trim, read, Option.bind_some, Number.percent?_of_units whole, UInt8.ofNat_toNat]
  split
  · rfl
  · rfl

theorem readPayload?_payload {v : Value} {channel : Channel} {payload : String}
    (spelled : v.payload channel = .ok payload) :
    readPayload? v.kind payload = if v.isLegible channel then some v.wholeSeconds else none := by
  have carried := carried_of_payload spelled
  have sent := spelled
  unfold Value.payload at sent
  rw [if_pos carried] at sent
  cases v with
  | onOff on =>
    obtain rfl := Except.ok.inj sent
    cases color : channel.isColor with
    | true =>
      have illegible : isLegible channel (.onOff on) = false := by
        rcases (isColor_iff channel).mp color with rfl | rfl <;> rfl
      simp [kind, readPayload?, illegible, readBit?_colorBit]
    | false =>
      have legible : isLegible channel (.onOff on) = true := by
        have other := mt (isColor_iff channel).mpr (Bool.eq_false_iff.mp color)
        exact decide_eq_true (not_or.mp other)
      simp [kind, readPayload?, legible, readBit?_bit, wholeSeconds]
  | openClosed isOpen =>
    obtain rfl := Except.ok.inj sent
    simp only [kind, readPayload?, readBit?_bit, Option.map_some]
    rfl
  | decimal n =>
    obtain rfl := Except.ok.inj sent
    simp only [kind, readPayload?, n.solid_text.trim, Number.readFinite?_text, Option.map_if]
    rfl
  | percent p =>
    obtain rfl := Except.ok.inj sent
    simp only [isLegible, decide_eq_true_eq]
    exact readPayload?_percent p
  | step increase =>
    obtain rfl := Except.ok.inj sent
    simp only [kind, readPayload?, readStep?_stepWord, Option.map_some]
    rfl
  | color c =>
    obtain rfl := Except.ok.inj sent
    simp only [kind, readPayload?, c.solid_hex.trim, Rgb.ofHex?_hex, Option.map_some]
    rfl
  | point p =>
    obtain rfl := Except.ok.inj sent
    simp only [kind, readPayload?, GeoPoint.read?_text, Option.map_if]
    rfl
  | time t =>
    obtain rfl := Except.ok.inj sent
    simp only [kind, readPayload?, (Text.solid_int t.seconds).trim, Instant.read?_seconds, Option.map_some]
    rfl
  | text s =>
    obtain ⟨rfl, _⟩ := of_payload_text spelled
    rfl

theorem payload_wholeSeconds (v : Value) (channel : Channel) : v.wholeSeconds.payload channel = v.payload channel := by
  cases v <;> rfl

theorem wholeSeconds_eq_self_iff (v : Value) : v.wholeSeconds = v ↔ ∀ t, v = .time t → t.nanos = 0 := by
  cases v with
  | time t =>
    constructor
    · intro same instant held
      have cut := congrArg Instant.nanos (Value.time.inj (same.trans held))
      exact cut.symm
    · intro whole
      have nanos := whole t rfl
      cases t
      cases nanos
      rfl
  | onOff | openClosed | decimal | percent | step | color | point | text => simp [wholeSeconds]

/-- A channel carries the values of its kinds, except a text that does not fit on a line. What a payload spells is read
from it: nothing where the value is illegible, and otherwise a value that is sent with the same payload. That is the value
itself, but for the part of a second in a time. -/
theorem payload_readBack (v : Value) (channel : Channel) :
    ((∃ payload, v.payload channel = .ok payload) ↔
        v.kind ∈ channel.kinds ∧ ∀ s, v = .text s → Text.hasLineBreak s = false) ∧
      ∀ payload, v.payload channel = .ok payload →
        ((∃ cause, ofPayload v.kind payload = .error cause) ↔ v.isLegible channel = false) ∧
          (v.isLegible channel = true →
            ofPayload v.kind payload = .ok v.wholeSeconds ∧ v.wholeSeconds.payload channel = .ok payload ∧
              (v.wholeSeconds = v ↔ ∀ t, v = .time t → t.nanos = 0)) := by
  refine ⟨exists_payload_iff v channel, fun payload spelled => ?_⟩
  have read := readPayload?_payload spelled
  unfold ofPayload
  cases legible : v.isLegible channel with
  | false => simp [read, legible]
  | true => simp [read, legible, payload_wholeSeconds, spelled, wholeSeconds_eq_self_iff]

/-- Half a second past the start of a second. -/
def halfPast : Instant :=
  ⟨1700000000, 500000000, by decide, by decide, by decide⟩

/-- A time is sent in whole seconds and read back without its half second; white is sent for a light that is on, and is no
state of a light to a reader. -/
theorem payload_readBack_time :
    (Value.time halfPast).payload (.signal .var1) = .ok "1700000000" ∧
      ofPayload .time "1700000000" = .ok (.time halfPast.wholeSeconds) ∧
        (Value.time halfPast).wholeSeconds ≠ .time halfPast ∧ ∃ cause, ofPayload .onOff "ffffff" = .error cause := by
  have sent : (Value.time halfPast).payload (.signal .var1) = .ok "1700000000" := by decide
  have white : (Value.onOff true).payload (.signal .rgb) = .ok "ffffff" := by decide
  obtain ⟨_, read⟩ := payload_readBack (.time halfPast) (.signal .var1)
  obtain ⟨back, _, same⟩ := (read _ sent).2 rfl
  obtain ⟨_, light⟩ := payload_readBack (.onOff true) (.signal .rgb)
  exact ⟨sent, back, fun whole => absurd (same.mp whole _ rfl) (by decide), (light _ white).1.mpr rfl⟩

end Value

end SensorGateway
