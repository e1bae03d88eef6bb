import SensorGateway.Proofs.Value.Payload
import SensorGateway.Value.Command

namespace SensorGateway.Value

theorem orUnreadable_eq_ok_iff (kind : Kind) (text : String) (found : Option Value) (v : Value) :
    orUnreadable kind text found = .ok v ↔ found = some v := by
  cases found <;> simp [orUnreadable]

/-- What is read as a value of a kind is one. -/
theorem kind_of_ofCommand {kind : Kind} {text : String} {v : Value} (read : ofCommand kind text = .ok v) :
    v.kind = kind := by
  cases kind with
  | onOff | openClosed | color =>
    simp only [ofCommand, orUnreadable_eq_ok_iff, Option.map_eq_some_iff] at read
    obtain ⟨_, _, rfl⟩ := read
    rfl
  | text =>
    simp only [ofCommand] at read
    obtain rfl := Except.ok.inj read
    rfl
  | decimal | percent | step | point | time =>
    simp only [ofCommand] at read
    exact kind_of_ofPayload read

/-- What comes of trying kinds in their order: the value of the first that reads the text, which is of that kind, or if
none does, why the last does not. -/
inductive Tried (text : String) : List Kind → Except ConversionError Value → Prop
  | read {before later : List Kind} {kind : Kind} {v : Value} :
    (∀ other ∈ before, ∃ cause, ofCommand other text = .error cause) → ofCommand kind text = .ok v → v.kind = kind →
    Tried text (before ++ kind :: later) (.ok v)
  | refused {before : List Kind} {kind : Kind} {cause : ConversionError} :
    (∀ other ∈ before, ∃ cause, ofCommand other text = .error cause) → ofCommand kind text = .error cause →
    Tried text (before ++ [kind]) (.error cause)

theorem Tried.cons {text : String} {kinds : List Kind} {outcome : Except ConversionError Value} {kind : Kind}
    {cause : ConversionError} (refuses : ofCommand kind text = .error cause) (tried : Tried text kinds outcome) :
    Tried text (kind :: kinds) outcome := by
  have longer {before : List Kind} (earlier : ∀ other ∈ before, ∃ cause, ofCommand other text = .error cause) :
      ∀ other ∈ kind :: before, ∃ cause, ofCommand other text = .error cause := by
    intro other member
    rcases List.mem_cons.mp member with rfl | further
    · exact ⟨cause, refuses⟩
    · exact earlier other further
  cases tried with
  | read earlier reads same => exact .read (longer earlier) reads same
  | refused earlier last => exact .refused (longer earlier) last

theorem tried_tryEach (text : String) (last : ConversionError) {kinds : List Kind} (typed : kinds ≠ []) :
    Tried text kinds (ofCommandAny.tryEach text last kinds) := by
  induction kinds generalizing last with
  | nil => exact absurd rfl typed
  | cons kind rest ih =>
    rw [ofCommandAny.tryEach]
    cases outcome : ofCommand kind text with
    | ok v => exact @Tried.read text [] rest kind v nofun outcome (kind_of_ofCommand outcome)
    | error cause =>
      by_cases more : rest = []
      · rw [more]
        exact @Tried.refused text [] kind cause nofun outcome
      · exact (ih cause more).cons outcome

theorem tried_ofCommandAny (text : String) {kinds : List Kind} (typed : kinds ≠ []) :
    Tried text kinds (ofCommandAny kinds text) :=
  tried_tryEach text _ typed

end SensorGateway.Value
