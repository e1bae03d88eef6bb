import SensorGateway.Console.Session
import SensorGateway.Proofs.Bridge.Commands
import SensorGateway.Proofs.Text.Blank
import SensorGateway.Proofs.Value.Typed

namespace SensorGateway

namespace Text

theorem firstWord?_append {word : List Char} (solid : Solid word) {c : Char} (blank : isBlank c = true)
    (rest : List Char) :
    firstWord? (String.ofList (word ++ c :: rest)) = some (String.ofList word, String.ofList rest) := by
  have kept : ∀ d ∈ word, (!isBlank d) = true := fun d member => by rw [solid d member]; rfl
  have split : (word ++ c :: rest).span (!isBlank ·) = (word, c :: rest) := by
    rw [List.span_eq_takeWhile_dropWhile, List.takeWhile_append_of_pos kept, List.dropWhile_append_of_pos kept]
    simp [blank]
  rw [firstWord?, String.toList_ofList, split]

theorem Solid.firstWord? {s : String} (solid : Solid s.toList) : firstWord? s = none := by
  have kept : ∀ d ∈ s.toList, (!isBlank d) = true := fun d member => by rw [solid d member]; rfl
  rw [Text.firstWord?, List.span_eq_takeWhile_dropWhile, List.dropWhile_eq_nil_iff.mpr kept]

end Text

namespace Command

/-- A line names an item and has a text for it: a name without blanks, and behind at least one blank a text that is more
than blanks. Blanks at the ends make no difference. -/
def Addresses (line item text : String) : Prop :=
  ∃ pad gap rest, line.toList = pad ++ item.toList ++ gap ++ rest ∧ Text.Blank pad ∧
    item.toList ≠ [] ∧ Text.Solid item.toList ∧ gap ≠ [] ∧ Text.Blank gap ∧ ¬ Text.Blank rest ∧
    text = Text.trim (String.ofList rest)

/-- A line is a single word. -/
def Single (line word : String) : Prop :=
  ∃ pad back, line.toList = pad ++ word.toList ++ back ∧ Text.Blank pad ∧ word.toList ≠ [] ∧
    Text.Solid word.toList ∧ Text.Blank back

/-- Every line is blank, a single word, or a name with a text. -/
theorem line_cases (line : String) :
    Text.Blank line.toList ∨ (∃ word, Single line word) ∨ ∃ item text, Addresses line item text := by
  by_cases blank : Text.Blank line.toList
  · exact .inl blank
  obtain ⟨pad, c, body, whole, before, shown⟩ := Text.exists_cons_of_not_blank blank
  let word := (c :: body).takeWhile (!Text.isBlank ·)
  let rest := (c :: body).dropWhile (!Text.isBlank ·)
  have split : c :: body = word ++ rest := List.takeWhile_append_dropWhile.symm
  have nonempty : word ≠ [] := by
    have start : word = c :: body.takeWhile (!Text.isBlank ·) := List.takeWhile_cons_of_pos (by simp [shown])
    rw [start]
    exact List.cons_ne_nil _ _
  have solid : Text.Solid word := by
    intro d member
    have none := List.mem_takeWhile_imp member
    simpa using none
  by_cases after : Text.Blank rest
  · refine .inr (.inl ⟨String.ofList word, pad, rest, ?_, before, ?_, ?_, after⟩)
    · rw [String.toList_ofList, whole, split, List.append_assoc]
    · rwa [String.toList_ofList]
    · rwa [String.toList_ofList]
  · have more : rest ≠ [] := by
      intro nothing
      rw [nothing] at after
      exact after nofun
    have first : Text.isBlank (rest.head more) = true := by
      have stopped := List.head_dropWhile_not (!Text.isBlank ·) more
      simpa using stopped
    have gap : Text.Blank [rest.head more] := by simpa [Text.Blank] using first
    have restSplit : rest = [rest.head more] ++ rest.tail := (List.cons_head_tail more).symm
    refine .inr (.inr ⟨String.ofList word, _, pad, [rest.head more], rest.tail, ?_, before, ?_, ?_,
      List.cons_ne_nil _ _, gap, ?_, rfl⟩)
    · rw [String.toList_ofList, whole, split, List.append_assoc, List.append_assoc, ← restSplit]
    · rwa [String.toList_ofList]
    · rwa [String.toList_ofList]
    · intro tail
      refine after ?_
      rw [restSplit]
      exact fun d member => (List.mem_append.mp member).elim (gap d) (tail d)

theorem parse_of_blank {line : String} (blank : Text.Blank line.toList) : parse line = .ok none := by
  have nothing : Text.trim line = "" := by
    rw [Text.trim, (Text.trimStart_eq_nil_iff _).mpr blank]
    rfl
  rw [parse, nothing]
  rfl

theorem parse_of_single {line word : String} (single : Single line word) :
    parse line = (ofWord? word).elim (.error ()) fun command => .ok (some command) := by
  obtain ⟨pad, back, whole, before, nonempty, solid, after⟩ := single
  have trimmed : Text.trim line = word := by
    rw [← String.ofList_toList (s := line), whole, Text.trim_padded before after, String.ofList_toList, solid.trim]
  have shown : word.isEmpty = false := by
    rw [Bool.eq_false_iff]
    intro empty
    rw [String.isEmpty_iff] at empty
    exact nonempty (by rw [empty]; rfl)
  rw [parse, trimmed]
  simp only [shown, Bool.false_eq_true, if_false, solid.firstWord?]
  cases ofWord? word with
  | none => rfl
  | some command => rfl

theorem parse_of_addresses {line item text : String} (addresses : Addresses line item text) :
    parse line = .ok (some (.send item text)) := by
  obtain ⟨pad, gap, rest, whole, before, nonempty, solid, apart, blank, shown, rfl⟩ := addresses
  obtain ⟨c, gap, rfl⟩ := List.exists_cons_of_ne_nil apart
  have first : Text.isBlank c = true := blank c List.mem_cons_self
  have later : Text.Blank gap := fun d member => blank d (List.mem_cons_of_mem c member)
  have visible : ¬ Text.Blank item.toList := by
    obtain ⟨d, rest, start⟩ := List.exists_cons_of_ne_nil nonempty
    intro all
    have member : d ∈ item.toList := start ▸ List.mem_cons_self
    exact nomatch (all d member).symm.trans (solid d member)
  have trimmed : Text.trim line = String.ofList (item.toList ++ c :: (gap ++ Text.trimEnd rest)) := by
    have regrouped : line.toList = pad ++ (item.toList ++ ((c :: gap) ++ rest)) := by
      simp only [whole, List.append_assoc]
    have behind : ¬ Text.Blank ((c :: gap) ++ rest) :=
      fun all => shown fun d member => all d (List.mem_append_right _ member)
    rw [Text.trim, regrouped, before.trimStart_append, Text.trimStart_append_of_not_blank visible, solid.trimStart,
      Text.trimEnd_append_of_not_blank _ behind, Text.trimEnd_append_of_not_blank _ shown]
    rfl
  -- The text lost the blanks at its end with the line, and loses those of the gap by itself.
  have text : Text.trim (String.ofList (gap ++ Text.trimEnd rest)) = Text.trim (String.ofList rest) := by
    obtain ⟨back, after, ends⟩ := Text.exists_eq_trimEnd_append rest
    have alone := Text.trim_padded .nil after (Text.trimEnd rest)
    have padded := Text.trim_padded later .nil (Text.trimEnd rest)
    rw [List.append_nil] at padded
    rw [List.nil_append, ← ends] at alone
    exact padded.trans alone.symm
  have typed : (String.ofList (item.toList ++ c :: (gap ++ Text.trimEnd rest))).isEmpty = false := by
    rw [Bool.eq_false_iff]
    intro empty
    have nothing := congrArg String.toList (String.isEmpty_iff.mp empty)
    rw [String.toList_ofList] at nothing
    exact nonempty (List.append_eq_nil_iff.mp nothing).1
  rw [parse, trimmed]
  simp only [typed, Bool.false_eq_true, if_false, Text.firstWord?_append solid first, String.ofList_toList, text]

end Command

namespace Bridge

section

variable {ω : Type} [Outside ω]

/-- What comes of a text for a bound item, and the bridge afterwards. The first of the item's kinds in which the text
can be read decides on the value. If there is none, the last one's refusal is reported, and nothing else is done. A
value goes the way of every command. -/
inductive Sends (b : Bridge ω) (item text : String) : Except InputError (Option String) → Bridge ω → Prop where
  | unread {cause : ConversionError} : Value.Tried text (b.items.kinds item) (.error cause) →
    Sends b item text (.error (.conversion cause)) b
  | sent {value : Value} : Value.Tried text (b.items.kinds item) (.ok value) →
    (b.receiveCommand item value).1 = .ok () →
    Sends b item text (.ok (some (item ++ " <- " ++ value.display))) (b.receiveCommand item value).2
  | failed {value : Value} {cause : CommandError} : Value.Tried text (b.items.kinds item) (.ok value) →
    (b.receiveCommand item value).1 = .error cause →
    Sends b item text (.error (.command cause)) (b.receiveCommand item value).2

variable {b : Bridge ω}

theorem executeLine_of_blank {line : String} (blank : Text.Blank line.toList) : b.executeLine line = (.ok none, b) := by
  rw [executeLine, Command.parse_of_blank blank]

theorem executeLine_of_single {line word : String} (single : Command.Single line word) :
    b.executeLine line =
      (if Text.lower word = "show" then .ok (some b.listing)
        else if Text.lower word = "help" then .ok (some Command.usage)
        else .error .usage, b) := by
  rw [executeLine, Command.parse_of_single single, Command.ofWord?]
  by_cases listing : Text.lower word = "show"
  · rw [if_pos listing, if_pos listing]
    rfl
  rw [if_neg listing, if_neg listing]
  by_cases help : Text.lower word = "help"
  · rw [if_pos help, if_pos help]
    rfl
  · rw [if_neg help, if_neg help]
    rfl

theorem executeLine_of_addresses {line item text : String} (addresses : Command.Addresses line item text) :
    b.executeLine line = ((b.sendText item text).1.map some, (b.sendText item text).2) := by
  rw [executeLine, Command.parse_of_addresses addresses]
  rfl

theorem sendText_of_unbound (built : b.items.Built) {item : String} (unbound : b.items.binding? item = none)
    (text : String) : b.sendText item text = (.error (.command (.notBound item)), b) := by
  have none : b.items.kinds item = [] := (built.consistent.unbound unbound).2
  rw [sendText, none]
  rfl

theorem sends_sendText (built : b.items.Built) {item : String} {binding : Binding}
    (bound : b.items.binding? item = some binding) (text : String) :
    b.Sends item text ((b.sendText item text).1.map some) (b.sendText item text).2 := by
  obtain ⟨_, _, exchanges, _⟩ := built.consistent.bound bound
  have typed : (b.items.kinds item).isEmpty = false := List.isEmpty_eq_false_iff.mpr exchanges
  have tried := Value.tried_ofCommandAny text exchanges
  unfold sendText
  simp only [typed, Bool.false_eq_true, if_false]
  cases read : Value.ofCommandAny (b.items.kinds item) text with
  | error cause =>
    rw [read] at tried
    exact .unread tried
  | ok value =>
    rw [read] at tried
    rcases sent : b.receiveCommand item value with ⟨outcome, after⟩
    have came : (b.receiveCommand item value).1 = outcome := congrArg Prod.fst sent
    have left : (b.receiveCommand item value).2 = after := congrArg Prod.snd sent
    dsimp only
    cases outcome with
    | ok =>
      rw [sent, ← left]
      exact .sent tried came
    | error cause =>
      rw [sent, ← left]
      exact .failed tried came

/-- A line of any text, in any state. A blank line does nothing. One with a name and a text is read as just these: a name
that is not bound is reported, and nothing else is done, and for an item, its kinds are tried in their order. A single
word is looked up whatever the case of its letters, and nothing is done for it. There are no other lines, and none
changes the values that are recorded. -/
theorem executeLine_effect (built : b.items.Built) (line : String) :
    let outcome := (b.executeLine line).1
    let after := (b.executeLine line).2
    after.store = b.store ∧
      (Text.Blank line.toList ∨ (∃ word, Command.Single line word) ∨ ∃ item text, Command.Addresses line item text) ∧
      (Text.Blank line.toList → outcome = .ok none ∧ after = b) ∧
      (∀ item text, Command.Addresses line item text →
        Command.parse line = .ok (some (.send item text)) ∧
        (b.items.binding? item = none → outcome = .error (.command (.notBound item)) ∧ after = b) ∧
        ∀ binding, b.items.binding? item = some binding → b.Sends item text outcome after) ∧
      ∀ word, Command.Single line word →
        after = b ∧
          (Text.lower word = "show" → outcome = .ok (some b.listing)) ∧
          (Text.lower word = "help" → outcome = .ok (some Command.usage)) ∧
          (Text.lower word ≠ "show" → Text.lower word ≠ "help" → outcome = .error .usage) := by
  intro outcome after
  have done : b.executeLine line = (outcome, after) := (Prod.mk.eta (p := b.executeLine line)).symm
  have same : after.memory = b.memory := (steady_memory b.memory).executeLine rfl line
  clear_value outcome after
  refine ⟨congrArg Prod.snd same, Command.line_cases line, ?_, ?_, ?_⟩
  · intro blank
    rw [executeLine_of_blank blank] at done
    exact ⟨(congrArg Prod.fst done).symm, (congrArg Prod.snd done).symm⟩
  · intro item text addresses
    rw [executeLine_of_addresses addresses] at done
    obtain ⟨rfl, rfl⟩ := Prod.mk.inj done
    refine ⟨Command.parse_of_addresses addresses, ?_, ?_⟩
    · intro unbound
      rw [sendText_of_unbound built unbound]
      exact ⟨rfl, rfl⟩
    · intro binding bound
      exact sends_sendText built bound text
  · intro word single
    rw [executeLine_of_single single] at done
    obtain ⟨rfl, rfl⟩ := Prod.mk.inj done
    refine ⟨rfl, fun listing => if_pos listing, fun help => ?_, fun noListing noHelp => ?_⟩
    · have noListing : Text.lower word ≠ "show" := by
        rw [help]
        decide
      rw [if_neg noListing, if_pos help]
    · rw [if_neg noListing, if_neg noHelp]

end

theorem executeLine_effect_lamp :
    wiredLamp.items.Built ∧
      wiredLamp.Sends "Lamp" "on" (wiredLamp.executeLine " Lamp\t on ").1 (wiredLamp.executeLine " Lamp\t on ").2 ∧
      (wiredLamp.executeLine "Fan on").1 = .error (.command (.notBound "Fan")) ∧
      (wiredLamp.executeLine "SHOW").2 = wiredLamp := by
  have known : wiredLamp.items = lamps := items_after _ _ _ _ _
  have built : wiredLamp.items.Built := known ▸ built_lamps
  have binding : wiredLamp.items.binding? "Lamp" = some ⟨12, 2, .signal .status⟩ := by
    rw [known]
    cbv
  have unbound : wiredLamp.items.binding? "Fan" = none := by
    rw [known]
    cbv
  have lamp : Command.Addresses " Lamp\t on " "Lamp" "on" :=
    ⟨[' '], ['\t', ' '], "on ".toList, by decide, by decide, by decide, by decide, by decide, by decide, by decide, by cbv⟩
  have fan : Command.Addresses "Fan on" "Fan" "on" :=
    ⟨[], [' '], "on".toList, by decide, by decide, by decide, by decide, by decide, by decide, by decide, by cbv⟩
  have word : Command.Single "SHOW" "SHOW" := ⟨[], [], by decide, by decide, by decide, by decide, by decide⟩
  obtain ⟨_, _, _, send, _⟩ := executeLine_effect built " Lamp\t on "
  obtain ⟨_, _, _, stray, _⟩ := executeLine_effect built "Fan on"
  obtain ⟨_, _, _, _, list⟩ := executeLine_effect built "SHOW"
  have sent := (send "Lamp" "on" lamp).2.2 _ binding
  have refused := ((stray "Fan" "on" fan).2.1 unbound).1
  have kept := (list "SHOW" word).1
  exact ⟨built, sent, refused, kept⟩

end Bridge

end SensorGateway
