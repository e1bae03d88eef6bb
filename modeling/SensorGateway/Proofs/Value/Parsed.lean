import SensorGateway.Proofs.Text.Blank
import SensorGateway.Proofs.Value.Typed

namespace SensorGateway

/-- Blanks at the ends make no difference to the trimmed fields of a text that is not cut at blanks. -/
theorem Text.trimmed_splitOnP {separates : Char → Bool} (apart : ∀ c, isBlank c = true → separates c = false)
    {front back : List Char} (before : Blank front) (after : Blank back) (cs : List Char) :
    ((front ++ cs ++ back).splitOnP separates).map (fun field => trim (String.ofList field)) =
      (cs.splitOnP separates).map fun field => trim (String.ofList field) := by
  have free {pad : List Char} (blank : Blank pad) : ∀ c ∈ pad, separates c = false :=
    fun c member => apart c (blank c member)
  -- What has been passed of a field goes along, for the blanks in front of it.
  have general (cs field front : List Char) (before : Blank front) (whole : ∀ c ∈ field, separates c = false) :
      ((front ++ field ++ cs ++ back).splitOnP separates).map (fun field => trim (String.ofList field)) =
        ((field ++ cs).splitOnP separates).map fun field => trim (String.ofList field) := by
    induction cs generalizing field front with
    | nil =>
      have padded : ∀ c ∈ front ++ field ++ back, separates c = false :=
        List.forall_mem_append.mpr ⟨List.forall_mem_append.mpr ⟨free before, whole⟩, free after⟩
      rw [List.append_nil, List.append_nil, List.splitOnP_eq_singleton padded, List.splitOnP_eq_singleton whole,
        List.map_singleton, List.map_singleton, trim_padded before after]
    | cons c cs ih =>
      cases cut : separates c with
      | true =>
        have padded : ∀ c ∈ front ++ field, separates c = false := List.forall_mem_append.mpr ⟨free before, whole⟩
        have first := trim_padded before .nil field
        rw [List.append_nil] at first
        rw [List.append_assoc, List.cons_append, List.splitOnP_append_cons_of_forall_mem padded c cut,
          List.splitOnP_append_cons_of_forall_mem whole c cut, List.map_cons, List.map_cons, first]
        exact congrArg _ (ih [] [] .nil nofun)
      | false =>
        have longer : ∀ d ∈ field ++ [c], separates d = false :=
          List.forall_mem_append.mpr ⟨whole, List.forall_mem_singleton.mpr cut⟩
        have same := ih (field ++ [c]) front before longer
        rwa [← List.append_assoc front, ← List.append_cons, ← List.append_cons] at same
  have same := general cs [] front before nofun
  rwa [List.append_nil, List.nil_append] at same

namespace GeoPoint

/-- Blanks around a position make no difference. -/
theorem read?_trim (s : String) : read? (Text.trim s) = read? s := by
  have apart (c : Char) (blank : Text.isBlank c = true) : (c == ';' || c == ',') = false := by
    rw [Bool.or_eq_false_iff, beq_eq_false_iff_ne, beq_eq_false_iff_ne]
    refine ⟨?_, ?_⟩ <;> rintro rfl <;> exact absurd blank (by decide)
  obtain ⟨front, back, before, after, padded⟩ := Text.exists_padding s
  have fields := Text.trimmed_splitOnP apart before after (Text.trim s).toList
  have read (cs : List Char) : (cs.splitOnP fun c => c == ';' || c == ',').mapM
      (fun field => Number.readFinite? (Text.trim (String.ofList field))) =
        ((cs.splitOnP fun c => c == ';' || c == ',').map fun field => Text.trim (String.ofList field)).mapM
          Number.readFinite? := by
    simp only [List.mapM_map, Function.comp_def]
  have whole : s.toList = front ++ (Text.trim s).toList ++ back := by
    conv_lhs => rw [padded, String.toList_ofList]
  unfold read?
  simp only [read, whole, fields]

end GeoPoint

namespace Value

/-- What is typed for a kind is in its range. -/
theorem inRange_of_ofCommand {kind : Kind} {text : String} {v : Value} (read : ofCommand kind text = .ok v) :
    v.InRange := by
  cases kind with
  | onOff | openClosed | color =>
    simp only [ofCommand, orUnreadable_eq_ok_iff, Option.map_eq_some_iff] at read
    obtain ⟨_, _, rfl⟩ := read
    trivial
  | text =>
    simp only [ofCommand] at read
    obtain rfl := Except.ok.inj read
    trivial
  | decimal | percent | step | point | time =>
    simp only [ofCommand] at read
    exact inRange_of_ofPayload read

/-- The digit for a state can be typed as it is sent. -/
theorem readState?_of_readBit? {set s : String} (word : set ≠ "0") (clear : String) {on : Bool}
    (read : readBit? s = some on) : readState? set clear s = some on := by
  have kept : Text.upper (Text.trim "1") = "1" ∧ Text.upper (Text.trim "0") = "0" := by decide
  unfold readBit? at read
  split at read
  · rename_i one
    rw [← Option.some.inj read, one, readState?, kept.1, if_pos (.inr rfl)]
  split at read
  · rename_i zero
    rw [← Option.some.inj read, zero, readState?, kept.2, if_neg, if_pos (.inr rfl)]
    exact not_or.mpr ⟨word.symm, by decide⟩
  · cases read

theorem readStep?_trim (s : String) : readStep? (Text.trim s) = readStep? s := by
  simp only [readStep?, Text.trim_trim]

/-- What a payload spells can be typed, except for a color. -/
theorem ofCommand_of_ofPayload {kind : Kind} {text : String} {v : Value} (other : kind ≠ .color)
    (read : ofPayload kind text = .ok v) : ofCommand kind text = .ok v := by
  have found := readPayload?_of_ofPayload read
  cases kind with
  | onOff =>
    obtain ⟨on, digit, rfl⟩ := Option.map_eq_some_iff.mp found
    rw [ofCommand, readState?_of_readBit? (by decide) "OFF" digit]
    rfl
  | openClosed =>
    obtain ⟨isOpen, digit, rfl⟩ := Option.map_eq_some_iff.mp found
    rw [ofCommand, readState?_of_readBit? (by decide) "CLOSED" digit]
    rfl
  | color => exact absurd rfl other
  | text => exact read
  | decimal | percent | time =>
    rw [readPayload?, ← Text.trim_trim] at found
    simp only [ofCommand, ofPayload, readPayload?, found]
  | step =>
    rw [readPayload?, ← readStep?_trim] at found
    simp only [ofCommand, ofPayload, readPayload?, found]
  | point =>
    rw [readPayload?, ← GeoPoint.read?_trim] at found
    simp only [ofCommand, ofPayload, readPayload?, found]

/-- A value that a text spells, on the wire or typed, is of the kind asked for and in its range, and each channel that
carries the kind takes it, unless it is a text that does not fit on a line. What is a payload of a kind, except of a
color, is a command for the same value. -/
theorem parsed_value (kind : Kind) (text : String) :
    (∀ v, ofPayload kind text = .ok v ∨ ofCommand kind text = .ok v →
      v.kind = kind ∧ v.InRange ∧ ∀ channel : Channel, kind ∈ channel.kinds →
        ((∃ payload, v.payload channel = .ok payload) ↔ ¬ ∃ s, v = .text s ∧ Text.hasLineBreak s = true)) ∧
      (kind ≠ .color → ∀ v, ofPayload kind text = .ok v → ofCommand kind text = .ok v) := by
  refine ⟨fun v read => ?_, fun other v => ofCommand_of_ofPayload other⟩
  have same : v.kind = kind := read.elim kind_of_ofPayload kind_of_ofCommand
  refine ⟨same, read.elim inRange_of_ofPayload inRange_of_ofCommand, fun channel carries => ?_⟩
  rw [exists_payload_iff, same]
  simp only [carries, true_and, not_exists, not_and, Bool.not_eq_true]

/-- Just below a hundred is a hundred, and a channel for lights with colors takes it. -/
theorem parsed_value_percent :
    ofPayload .percent " 99.6" = .ok (.percent 100) ∧ (percent 100).InRange ∧
      (∃ payload, (percent 100).payload (.signal .rgbw) = .ok payload) ∧
      ofCommand .percent " 99.6" = .ok (.percent 100) := by
  have sent : ofPayload .percent " 99.6" = .ok (.percent 100) := by decide +kernel
  have carries : Kind.percent ∈ (Channel.signal .rgbw).kinds := by decide
  obtain ⟨formed, typed⟩ := parsed_value .percent " 99.6"
  obtain ⟨_, inRange, taken⟩ := formed _ (.inl sent)
  exact ⟨sent, inRange, (taken _ carries).mpr nofun, typed (by decide) _ sent⟩

end Value

end SensorGateway
