import SensorGateway.Discovery
import SensorGateway.Proofs.Binding.Spelling

namespace SensorGateway.Discovery

/-- What stands in front of a binding in a line of a report. -/
def mark : List Char :=
  " * binding: ".toList

/-- What stands between a binding and the words for its channel. -/
def dash : List Char :=
  " - ".toList

/-- The characters in front of the first place where a pattern stands. -/
def before? (pattern : List Char) : List Char → Option (List Char)
  | [] => if pattern.isEmpty then some [] else none
  | c :: cs => if pattern.isPrefixOf (c :: cs) then some [] else (before? pattern cs).map (c :: ·)

/-- What a line offers to paste: the part behind its mark, up to the first dash after it. -/
def pasted? (line : List Char) : Option String :=
  if mark.isPrefixOf line then (before? dash (line.drop mark.length)).map String.ofList else none

/-- The bindings of a node or a sensor that presents itself. The two profiles of nodes come first. -/
def offered (f : Frame) (profile : Profile) : List Binding :=
  if profile = .arduinoNode ∨ profile = .arduinoRepeaterNode then
    [⟨f.node, f.sensor, .housekeeping .batteryLevel⟩, ⟨f.node, f.sensor, .housekeeping .sketchName⟩,
      ⟨f.node, f.sensor, .housekeeping .sketchVersion⟩, ⟨f.node, 0, .housekeeping .inclusionMode⟩]
  else profile.signals.map fun signal => ⟨f.node, f.sensor, .signal signal⟩

theorem isNode_iff (profile : Profile) :
    profile.isNode = true ↔ profile = .arduinoNode ∨ profile = .arduinoRepeaterNode := by
  simp [Profile.isNode]

/-- The text of a binding with blanks up to the width of a column. -/
def column (b : Binding) : List Char :=
  b.text.toList ++ List.replicate (20 - b.channel.name.toList.length) ' '

/-- A line of a report, without the line feed in front. -/
def line (b : Binding) : List Char :=
  mark ++ (column b ++ (dash ++ (channelDescription b.channel).toList))

theorem toList_bindingLine (b : Binding) : (bindingLine b.node b.sensor b.channel).toList = '\n' :: line b := by
  have front : "\n * binding: ".toList = '\n' :: mark := by decide
  unfold bindingLine line column dash Binding.text Text.padEnd
  simp only [String.toList_append, String.toList_ofList, List.append_assoc, front, List.cons_append]

theorem toList_report (f : Frame) (profile : Profile) (subject : f.subject = .presentation profile) :
    ∃ text, report? f = some text ∧
      text.toList = (headline f profile).toList ++ (offered f profile).flatMap fun b => '\n' :: line b := by
  refine ⟨_, by rw [report?, subject], ?_⟩
  simp only [String.toList_append, String.toList_join, ← toList_bindingLine]
  refine congrArg _ ?_
  unfold channels offered
  by_cases node : profile.isNode = true
  · rw [if_pos node, if_pos ((isNode_iff profile).mp node)]
    rfl
  · rw [if_neg node, if_neg (mt (isNode_iff profile).mpr node), List.map_map, List.flatMap_map, List.flatMap_map]
    rfl

theorem not_dash_of_ne {c : Char} (other : c ≠ ' ') (cs : List Char) : dash.isPrefixOf (c :: cs) = false := by
  change (' ' == c && _) = false
  rw [beq_eq_false_iff_ne.mpr other.symm, Bool.false_and]

/-- A dash stands nowhere in a word and the blanks after it, and does not begin there either. -/
theorem before?_dash {word : List Char} (solid : Text.Solid word) (blanks : Nat) (rest : List Char) :
    before? dash (word ++ List.replicate blanks ' ' ++ (dash ++ rest)) = some (word ++ List.replicate blanks ' ') := by
  induction word with
  | nil =>
    induction blanks with
    | zero => rfl
    | succ blanks ih =>
      have two : dash.isPrefixOf (' ' :: (List.replicate blanks ' ' ++ (dash ++ rest))) = false := by
        cases blanks <;> rfl
      rw [List.nil_append] at ih ⊢
      rw [List.replicate_succ, List.cons_append, before?, two, if_neg Bool.false_ne_true, ih]
      rfl
  | cons c word ih =>
    have shown : c ≠ ' ' := by
      rintro rfl
      exact absurd (solid ' ' List.mem_cons_self) (by decide)
    rw [List.cons_append, List.cons_append, before?, not_dash_of_ne shown, if_neg Bool.false_ne_true,
      ih fun d member => solid d (List.mem_cons_of_mem c member)]
    rfl

theorem pasted?_line (b : Binding) : pasted? (line b) = some (String.ofList (column b)) := by
  have marked : mark.isPrefixOf (line b) = true := List.isPrefixOf_iff_prefix.mpr (List.prefix_append _ _)
  rw [pasted?, if_pos marked, line, List.drop_left, column, before?_dash b.solid_text, Option.map_some]

theorem parse_column (b : Binding) : Binding.parse (String.ofList (column b)) = .ok b := by
  have blank (n : Nat) : Text.Blank (List.replicate n ' ') := fun c member => by
    rw [List.eq_of_mem_replicate member]
    rfl
  have padded := b.parse_text_padded .nil (blank (20 - b.channel.name.toList.length))
  rwa [List.nil_append] at padded

/-- A literal is on one line if its characters are. -/
theorem oneLine_ofList {s : String} {cs : List Char} (spelled : s = String.ofList cs)
    (free : cs.any Text.isLineBreak = false) : Text.OneLine s.toList := by
  rw [spelled, String.toList_ofList]
  simpa [Text.OneLine] using free

set_option maxRecDepth 1024 in
theorem oneLine_channelDescription (channel : Channel) : Text.OneLine (channelDescription channel).toList := by
  cases channel with
  | signal t => cases t <;> exact oneLine_ofList rfl rfl
  | housekeeping t => cases t <;> exact oneLine_ofList rfl rfl

theorem oneLine_profile (profile : Profile) :
    Text.OneLine profile.name.toList ∧ Text.OneLine profile.description.toList := by
  cases profile <;> exact ⟨oneLine_ofList rfl rfl, oneLine_ofList rfl rfl⟩

theorem oneLine_line (b : Binding) : Text.OneLine (line b) := by
  have blanks (n : Nat) : Text.OneLine (List.replicate n ' ') := fun c member => by
    rw [List.eq_of_mem_replicate member]
    rfl
  have marked : Text.OneLine mark := by decide
  have dashed : Text.OneLine dash := by decide
  exact marked.append ((b.solid_text.oneLine.append (blanks _)).append
    (dashed.append (oneLine_channelDescription b.channel)))

theorem oneLine_headline {f : Frame} (encodable : f.isEncodable = true) (profile : Profile) :
    Text.OneLine (headline f profile).toList := by
  obtain ⟨name, description⟩ := oneLine_profile profile
  have payload : Text.OneLine f.payload.toList := by
    rw [← Text.hasLineBreak_eq_false_iff]
    simpa [Frame.isEncodable] using encodable
  have number (n : Nat) : Text.OneLine (toString n).toList := (Text.solid_nat n).oneLine
  unfold headline
  split
  · have repeater : Text.OneLine (if profile = .arduinoRepeaterNode then " (repeater)" else "").toList := by
      split <;> decide
    simp only [String.toList_append]
    exact (Text.OneLine.append (by decide) (number _)).append repeater
  · have label : Text.OneLine (if f.payload.isEmpty then profile.description else f.payload).toList := by
      split
      · exact description
      · exact payload
    simp only [String.toList_append]
    exact (((((Text.OneLine.append (by decide) label).append (by decide)).append (number _)).append
      (by decide)).append (number _)).append (by decide) |>.append name

theorem splitOn_lines {head : List Char} {lines : List (List Char)} (free : '\n' ∉ head)
    (each : ∀ line ∈ lines, '\n' ∉ line) :
    (head ++ lines.flatMap fun line => '\n' :: line).splitOn '\n' = head :: lines := by
  induction lines generalizing head with
  | nil => rw [List.flatMap_nil, List.append_nil, List.splitOn_eq_singleton free]
  | cons line lines ih =>
    obtain ⟨first, later⟩ := List.forall_mem_cons.mp each
    rw [List.flatMap_cons, List.cons_append, List.splitOn_append_cons_self_of_not_mem free, ih first later]

/-- Only presentations have a report. -/
theorem exists_report_iff (f : Frame) :
    (∃ text, report? f = some text) ↔ ∃ profile, f.subject = .presentation profile := by
  constructor
  · rintro ⟨text, reported⟩
    unfold report? at reported
    split at reported
    · rename_i profile subject
      exact ⟨profile, subject⟩
    · cases reported
  · rintro ⟨profile, subject⟩
    obtain ⟨text, reported, _⟩ := toList_report f profile subject
    exact ⟨text, reported⟩

theorem type_eq_presentation_iff (f : Frame) :
    f.type = .presentation ↔ ∃ profile, f.subject = .presentation profile := by
  unfold Frame.type
  cases f.subject <;> simp [Subject.type]

/-- Presentations have a report, and no other frame has one. The report of a frame that fits on one line has a first
line and then, whatever the first says, one line for each channel of the profile: what stands there between mark and
dash is read as the binding of that channel. -/
theorem report_bindings (f : Frame) :
    ((∃ text, report? f = some text) ↔ f.type = .presentation) ∧
      (f.isEncodable = true → ∀ text, report? f = some text →
        ∃ profile first lines, f.subject = .presentation profile ∧ text.toList.splitOn '\n' = first :: lines ∧
          (∀ line ∈ first :: lines, Text.OneLine line) ∧
          lines.map (fun line => (pasted? line).map Binding.parse) =
            (offered f profile).map fun b => some (.ok b)) := by
  refine ⟨by rw [exists_report_iff, type_eq_presentation_iff], fun encodable text reported => ?_⟩
  obtain ⟨profile, subject⟩ := (exists_report_iff f).mp ⟨text, reported⟩
  obtain ⟨same, again, whole⟩ := toList_report f profile subject
  obtain rfl := Option.some.inj (reported.symm.trans again)
  have each : ∀ piece ∈ (headline f profile).toList :: (offered f profile).map line, Text.OneLine piece := by
    rw [List.forall_mem_cons, List.forall_mem_map]
    exact ⟨oneLine_headline encodable profile, fun b _ => oneLine_line b⟩
  have free : ∀ piece ∈ (headline f profile).toList :: (offered f profile).map line, '\n' ∉ piece :=
    fun piece member ends => absurd (each piece member '\n' ends) (by decide)
  obtain ⟨first, later⟩ := List.forall_mem_cons.mp free
  refine ⟨profile, _, _, subject, ?_, each, ?_⟩
  · rw [whole, ← splitOn_lines first later, List.flatMap_map]
  · rw [List.map_map]
    refine List.map_congr_left fun b _ => ?_
    rw [Function.comp_apply, pasted?_line, Option.map_some, parse_column]

/-- The label of a sensor may look like a line of the report. A node has its own channels, and one on sensor 0. -/
theorem report_bindings_door :
    (∃ text first lines, report? (.about 3 1 (.presentation .door) " * binding: 9;9;V_TEMP - door") = some text ∧
        text.toList.splitOn '\n' = first :: lines ∧
        lines.map (fun line => (pasted? line).map Binding.parse) =
          [some (.ok ⟨3, 1, .signal .tripped⟩), some (.ok ⟨3, 1, .signal .armed⟩)]) ∧
      ∃ text first lines, report? (.about 3 255 (.presentation .arduinoRepeaterNode) "2.3.2") = some text ∧
        text.toList.splitOn '\n' = first :: lines ∧
        lines.map (fun line => (pasted? line).map Binding.parse) =
          [some (.ok ⟨3, 255, .housekeeping .batteryLevel⟩), some (.ok ⟨3, 255, .housekeeping .sketchName⟩),
            some (.ok ⟨3, 255, .housekeeping .sketchVersion⟩), some (.ok ⟨3, 0, .housekeeping .inclusionMode⟩)] := by
  constructor
  · obtain ⟨some, parts⟩ := report_bindings (.about 3 1 (.presentation .door) " * binding: 9;9;V_TEMP - door")
    obtain ⟨text, reported⟩ := some.mpr rfl
    obtain ⟨profile, first, lines, subject, cut, _, pasted⟩ := parts (by decide) text reported
    obtain rfl : Profile.door = profile := Subject.presentation.inj subject
    exact ⟨text, first, lines, reported, cut, pasted⟩
  · obtain ⟨some, parts⟩ := report_bindings (.about 3 255 (.presentation .arduinoRepeaterNode) "2.3.2")
    obtain ⟨text, reported⟩ := some.mpr rfl
    obtain ⟨profile, first, lines, subject, cut, _, pasted⟩ := parts (by decide) text reported
    obtain rfl : Profile.arduinoRepeaterNode = profile := Subject.presentation.inj subject
    exact ⟨text, first, lines, reported, cut, pasted⟩

end SensorGateway.Discovery
