import Mathlib
import SensorGateway.Binding.Basic
import SensorGateway.Proofs.Text.Blank
import SensorGateway.Proofs.Vocabulary.Lookup

namespace SensorGateway.Binding

/-- One to three digits, and the byte that is their value. -/
structure SpellsId (field : List Char) (n : UInt8) : Prop where
  digits : ∀ c ∈ field, c.isDigit = true
  size : 1 ≤ field.length ∧ field.length ≤ 3
  value : Text.digitsValue field = n.toNat

/-- Between blanks, a text has three fields with separators between them. -/
structure Cuts (text : String) (first second word : List Char) : Prop where
  whole : (Text.trim text).toList = first ++ ';' :: (second ++ ';' :: word)
  free : ';' ∉ first ∧ ';' ∉ second ∧ ';' ∉ word

/-- Between blanks, a text has three fields, two of which spell bytes. -/
def Reads (text : String) (node sensor : UInt8) (word : List Char) : Prop :=
  ∃ first second, Cuts text first second word ∧ SpellsId first node ∧ SpellsId second sensor

/-- A word that could be that of a channel: behind `V_` or `I_` come capitals, digits and underscores. -/
def LooksKnown (word : List Char) : Prop :=
  ∃ initial rest, word = initial :: '_' :: rest ∧ (initial = 'V' ∨ initial = 'I') ∧ rest ≠ [] ∧
    ∀ c ∈ rest, c.isUpper = true ∨ c.isDigit = true ∨ c = '_'

/-- The fields of a text without the blanks at its ends, each without zeros in front. -/
def bareFields (text : String) : List (List Char) :=
  ((Text.trim text).toList.splitOn ';').map (·.dropWhile (· = '0'))

theorem spellsId_iff (field : List Char) (n : UInt8) : SpellsId field n ↔ Text.Spells field n ∧ field.length ≤ 3 := by
  rw [Text.spells_iff, Text.isDigits_iff, ← List.length_pos_iff]
  constructor
  · rintro ⟨digits, size, value⟩
    exact ⟨⟨⟨size.1, digits⟩, value⟩, size.2⟩
  · rintro ⟨⟨⟨nonempty, digits⟩, value⟩, short⟩
    exact ⟨digits, ⟨nonempty, short⟩, value⟩

theorem readId_eq_ok_iff (field : List Char) (n : UInt8) : readId field = .ok n ↔ SpellsId field n := by
  rw [spellsId_iff, ← Text.readByte?_eq_some_iff, readId]
  constructor
  · intro read
    split at read
    · rename_i form
      split at read
      · rename_i value
        obtain rfl := Except.ok.inj read
        exact ⟨value, form.2⟩
      · cases read
    · cases read
  · rintro ⟨value, short⟩
    have digits := ((Text.spells_iff field n).mp ((Text.readByte?_eq_some_iff field n).mp value)).1
    rw [if_pos ⟨digits, short⟩, value]

theorem SpellsId.unique {field : List Char} {m n : UInt8} (first : SpellsId field m) (second : SpellsId field n) :
    m = n := by
  rw [spellsId_iff] at first second
  exact first.1.unique second.1

theorem SpellsId.eq_iff {a b : List Char} {m n : UInt8} (first : SpellsId a m) (second : SpellsId b n) :
    m = n ↔ a.dropWhile (· = '0') = b.dropWhile (· = '0') := by
  rw [spellsId_iff] at first second
  rw [first.1.eq_iff second.1, Text.sameButZeros_iff]

theorem SpellsId.free {field : List Char} {n : UInt8} (spells : SpellsId field n) : ';' ∉ field := by
  intro member
  have digit := spells.digits _ member
  exact absurd digit (by decide)

theorem all_isWordChar_iff (rest : List Char) :
    rest.all isWordChar = true ↔ ∀ c ∈ rest, c.isUpper = true ∨ c.isDigit = true ∨ c = '_' := by
  simp only [List.all_eq_true, isWordChar, Bool.or_eq_true, beq_iff_eq, or_assoc]

theorem hasWordForm_iff (word : List Char) : hasWordForm word = true ↔ LooksKnown word := by
  constructor
  · intro form
    unfold hasWordForm at form
    split at form
    · exact ⟨_, _, rfl, .inl rfl, List.cons_ne_nil _ _, (all_isWordChar_iff _).mp form⟩
    · exact ⟨_, _, rfl, .inr rfl, List.cons_ne_nil _ _, (all_isWordChar_iff _).mp form⟩
    · cases form
  · rintro ⟨initial, rest, rfl, initials, nonempty, each⟩
    obtain ⟨c, rest, rfl⟩ := List.exists_cons_of_ne_nil nonempty
    rcases initials with rfl | rfl
    · exact (all_isWordChar_iff _).mpr each
    · exact (all_isWordChar_iff _).mpr each

/-- Every channel's word has the form of one. -/
theorem hasWordForm_name (channel : Channel) : hasWordForm channel.name.toList = true := by
  cases channel with
  | signal t => cases t <;> decide
  | housekeeping t => cases t <;> decide

theorem looksKnown_name (channel : Channel) : LooksKnown channel.name.toList :=
  (hasWordForm_iff _).mp (hasWordForm_name channel)

theorem LooksKnown.free {word : List Char} (looks : LooksKnown word) : ';' ∉ word := by
  obtain ⟨initial, rest, rfl, initials, _, each⟩ := looks
  intro member
  rcases List.mem_cons.mp member with same | member
  · rcases initials with rfl | rfl <;> cases same
  rcases List.mem_cons.mp member with same | member
  · cases same
  · rcases each _ member with upper | digit | underscore
    · exact absurd upper (by decide)
    · exact absurd digit (by decide)
    · cases underscore

theorem splitOn_eq_singleton_iff {a : Char} {text field : List Char} :
    text.splitOn a = [field] ↔ text = field ∧ a ∉ field := by
  constructor
  · intro cut
    by_cases member : a ∈ text
    · obtain ⟨before, rest, rfl, free⟩ := List.eq_append_cons_of_mem member
      rw [List.splitOn_append_cons_self_of_not_mem free] at cut
      exact absurd (List.cons.inj cut).2 (List.splitOn_ne_nil a rest)
    · rw [List.splitOn_eq_singleton member] at cut
      obtain rfl := List.singleton_inj.mp cut
      exact ⟨rfl, member⟩
  · rintro ⟨rfl, free⟩
    exact List.splitOn_eq_singleton free

theorem splitOn_eq_cons_cons_iff {a : Char} {text field next : List Char} {fields : List (List Char)} :
    text.splitOn a = field :: next :: fields ↔
      ∃ rest, text = field ++ a :: rest ∧ a ∉ field ∧ rest.splitOn a = next :: fields := by
  constructor
  · intro cut
    by_cases member : a ∈ text
    · obtain ⟨before, rest, rfl, free⟩ := List.eq_append_cons_of_mem member
      rw [List.splitOn_append_cons_self_of_not_mem free] at cut
      obtain ⟨rfl, later⟩ := List.cons.inj cut
      exact ⟨rest, rfl, free, later⟩
    · rw [List.splitOn_eq_singleton member] at cut
      cases cut
  · rintro ⟨rest, rfl, free, later⟩
    rw [List.splitOn_append_cons_self_of_not_mem free, later]

theorem splitOn_eq_triple_iff {a : Char} {text first second third : List Char} :
    text.splitOn a = [first, second, third] ↔
      text = first ++ a :: (second ++ a :: third) ∧ a ∉ first ∧ a ∉ second ∧ a ∉ third := by
  rw [splitOn_eq_cons_cons_iff]
  constructor
  · rintro ⟨rest, whole, free, later⟩
    obtain ⟨last, rfl, free', later⟩ := splitOn_eq_cons_cons_iff.mp later
    obtain ⟨rfl, free''⟩ := splitOn_eq_singleton_iff.mp later
    exact ⟨whole, free, free', free''⟩
  · rintro ⟨whole, free, free', free''⟩
    refine ⟨_, whole, free, ?_⟩
    rw [List.splitOn_append_cons_self_of_not_mem free', List.splitOn_eq_singleton free'']

theorem cuts_iff (text : String) (first second word : List Char) :
    Cuts text first second word ↔ (Text.trim text).toList.splitOn ';' = [first, second, word] := by
  rw [splitOn_eq_triple_iff]
  exact ⟨fun cuts => ⟨cuts.whole, cuts.free⟩, fun ⟨whole, free⟩ => ⟨whole, free⟩⟩

theorem Cuts.unique {text : String} {first second word first' second' word' : List Char}
    (cuts : Cuts text first second word) (again : Cuts text first' second' word') :
    first = first' ∧ second = second' ∧ word = word' := by
  rw [cuts_iff] at cuts again
  simpa using cuts.symm.trans again

theorem Reads.unique {text : String} {node sensor node' sensor' : UInt8} {word word' : List Char}
    (reads : Reads text node sensor word) (again : Reads text node' sensor' word') :
    node = node' ∧ sensor = sensor' ∧ word = word' := by
  obtain ⟨first, second, cuts, spellsNode, spellsSensor⟩ := reads
  obtain ⟨first', second', cuts', spellsNode', spellsSensor'⟩ := again
  obtain ⟨rfl, rfl, rfl⟩ := cuts.unique cuts'
  exact ⟨spellsNode.unique spellsNode', spellsSensor.unique spellsSensor', rfl⟩

/-- What comes of reading a text: the binding that it spells, a word of the right form that no channel has, or else the
text has the wrong form. -/
inductive Outcome (text : String) : Except BindingError Binding → Prop
  | known {b : Binding} : Reads text b.node b.sensor b.channel.name.toList → Outcome text (.ok b)
  | unknown {node sensor : UInt8} {word : List Char} : Reads text node sensor word → LooksKnown word →
    (∀ channel : Channel, channel.name.toList ≠ word) → Outcome text (.error (.unknownType (String.ofList word)))
  | misshapen {fault : BindingFault} : (∀ node sensor word, Reads text node sensor word → ¬ LooksKnown word) →
    Outcome text (.error (.malformed text fault))

theorem outcome_ofFields {text : String} {first second word : List Char} (cuts : Cuts text first second word) :
    Outcome text (ofFields text first second word) := by
  unfold ofFields
  cases readNode : readId first with
  | error fault =>
    refine .misshapen fun node sensor other reads _ => ?_
    obtain ⟨_, _, again, spells, _⟩ := reads
    obtain ⟨rfl, _, _⟩ := cuts.unique again
    cases readNode.symm.trans ((readId_eq_ok_iff _ _).mpr spells)
  | ok node =>
    cases readSensor : readId second with
    | error fault =>
      refine .misshapen fun node sensor other reads _ => ?_
      obtain ⟨_, _, again, _, spells⟩ := reads
      obtain ⟨_, rfl, _⟩ := cuts.unique again
      cases readSensor.symm.trans ((readId_eq_ok_iff _ _).mpr spells)
    | ok sensor =>
      have reads : Reads text node sensor word :=
        ⟨first, second, cuts, (readId_eq_ok_iff _ _).mp readNode, (readId_eq_ok_iff _ _).mp readSensor⟩
      change Outcome text (if hasWordForm word then _ else _)
      by_cases form : hasWordForm word = true
      · rw [if_pos form]
        cases known : Channel.ofName? (String.ofList word) with
        | some channel =>
          have name := (Channel.ofName?_eq_some_iff _ channel).mp known
          have spelled : channel.name.toList = word := by rw [name, String.toList_ofList]
          exact .known (b := ⟨node, sensor, channel⟩) (by rw [spelled]; exact reads)
        | none =>
          refine .unknown reads ((hasWordForm_iff word).mp form) ?_
          rintro channel rfl
          rw [String.ofList_toList, Channel.ofName?_name] at known
          cases known
      · rw [if_neg form]
        refine .misshapen fun _ _ other again looks => form ?_
        obtain ⟨_, _, rfl⟩ := reads.unique again
        exact (hasWordForm_iff word).mpr looks

theorem outcome_parse (text : String) : Outcome text (parse text) := by
  unfold parse
  split
  · rename_i first second word cut
    exact outcome_ofFields ((cuts_iff _ _ _ _).mpr cut)
  · rename_i uncut
    refine .misshapen fun node sensor word reads _ => ?_
    obtain ⟨first, second, cuts, _⟩ := reads
    exact uncut _ _ _ ((cuts_iff _ _ _ _).mp cuts)

theorem parse_eq_ok_iff (text : String) (b : Binding) :
    parse text = .ok b ↔ Reads text b.node b.sensor b.channel.name.toList := by
  have outcome := outcome_parse text
  generalize parse text = result at outcome
  cases outcome with
  | @known found reads =>
    constructor
    · intro same
      obtain rfl := Except.ok.inj same
      exact reads
    · intro again
      obtain ⟨node, sensor, word⟩ := reads.unique again
      have channel : found.channel = b.channel := Channel.name_inj (String.toList_inj.mp word)
      obtain ⟨_, _, _⟩ := found
      obtain ⟨_, _, _⟩ := b
      congr
  | unknown reads _ missing =>
    refine ⟨nofun, fun again => ?_⟩
    exact absurd (reads.unique again).2.2.symm (missing b.channel)
  | misshapen never =>
    refine ⟨nofun, fun again => ?_⟩
    exact absurd (looksKnown_name b.channel) (never _ _ _ again)

theorem parse_eq_unknownType_iff (text name : String) :
    parse text = .error (.unknownType name) ↔
      (∃ node sensor, Reads text node sensor name.toList) ∧ LooksKnown name.toList ∧
        ∀ channel : Channel, channel.name ≠ name := by
  have outcome := outcome_parse text
  generalize parse text = result at outcome
  cases outcome with
  | @known found reads =>
    refine ⟨nofun, fun ⟨⟨node, sensor, again⟩, _, missing⟩ => ?_⟩
    exact absurd (String.toList_inj.mp (reads.unique again).2.2) (missing found.channel)
  | @unknown node sensor word reads looks missing =>
    constructor
    · intro same
      obtain rfl := BindingError.unknownType.inj (Except.error.inj same)
      rw [String.toList_ofList]
      refine ⟨⟨node, sensor, reads⟩, looks, fun channel same => missing channel ?_⟩
      rw [same, String.toList_ofList]
    · rintro ⟨⟨_, _, again⟩, _⟩
      obtain ⟨_, _, rfl⟩ := reads.unique again
      rw [String.ofList_toList]
  | misshapen never =>
    refine ⟨nofun, fun ⟨⟨node, sensor, again⟩, looks, _⟩ => ?_⟩
    exact absurd looks (never _ _ _ again)

theorem spellsId_toDigits (n : UInt8) : SpellsId (Nat.toDigits 10 n.toNat) n := by
  have bound := n.toNat_lt
  have digits := (Text.isDigits_iff _).mp (Text.isDigits_toDigits n.toNat)
  refine ⟨digits.2, ⟨List.length_pos_iff.mpr digits.1, ?_⟩, Text.digitsValue_toDigits _⟩
  rw [Nat.length_toDigits_le_iff (by decide) (by decide)]
  omega

theorem toList_text (b : Binding) :
    b.text.toList =
      Nat.toDigits 10 b.node.toNat ++ ';' :: (Nat.toDigits 10 b.sensor.toNat ++ ';' :: b.channel.name.toList) := by
  simp only [text, String.toList_append, Text.toList_nat, List.append_assoc]
  rfl

theorem isBlank_of_isUpper {c : Char} (upper : c.isUpper = true) : Text.isBlank c = false := by
  have bounds : 65 ≤ c.toNat ∧ c.toNat ≤ 90 := by
    have range : 'A'.val ≤ c.val ∧ c.val ≤ 'Z'.val := of_decide_eq_true upper
    simpa [UInt32.le_iff_toNat_le] using range
  simp only [Text.isBlank, Bool.or_eq_false_iff, Bool.and_eq_false_iff, beq_eq_false_iff_ne, decide_eq_false_iff_not]
  omega

theorem LooksKnown.solid {word : List Char} (looks : LooksKnown word) : Text.Solid word := by
  obtain ⟨initial, rest, rfl, initials, _, each⟩ := looks
  have start : Text.isBlank initial = false := by rcases initials with rfl | rfl <;> decide
  intro c member
  rcases List.mem_cons.mp member with rfl | member
  · exact start
  rcases List.mem_cons.mp member with rfl | member
  · decide
  rcases each c member with upper | digit | rfl
  · exact isBlank_of_isUpper upper
  · exact Text.isBlank_of_isDigit digit
  · decide

theorem solid_text (b : Binding) : Text.Solid b.text.toList := by
  have separator : Text.Solid [';'] := by decide
  rw [toList_text]
  refine (Text.solid_toDigits _).append (separator.append ?_)
  exact (Text.solid_toDigits _).append (separator.append (looksKnown_name b.channel).solid)

/-- A binding is read back from its text, with blanks around it or without. -/
theorem parse_text_padded (b : Binding) {front back : List Char} (before : Text.Blank front) (after : Text.Blank back) :
    parse (String.ofList (front ++ b.text.toList ++ back)) = .ok b := by
  rw [parse_eq_ok_iff]
  have node := spellsId_toDigits b.node
  have sensor := spellsId_toDigits b.sensor
  refine ⟨_, _, ⟨?_, node.free, sensor.free, (looksKnown_name b.channel).free⟩, node, sensor⟩
  rw [Text.trim_padded before after, String.ofList_toList, b.solid_text.trim, toList_text]

theorem Cuts.bareFields_eq {text : String} {first second word : List Char} (cuts : Cuts text first second word)
    (looks : LooksKnown word) :
    bareFields text = [first.dropWhile (· = '0'), second.dropWhile (· = '0'), word] := by
  have kept : word.dropWhile (· = '0') = word := by
    obtain ⟨initial, rest, rfl, initials, _⟩ := looks
    rcases initials with rfl | rfl <;> rfl
  rw [bareFields, (cuts_iff _ _ _ _).mp cuts, List.map_cons, List.map_cons, List.map_singleton, kept]

/-- Two texts spell the same binding when they are the same but for blanks at the ends and zeros in front. -/
theorem eq_iff_bareFields_eq {text other : String} {b c : Binding} (parsed : parse text = .ok b)
    (parsed' : parse other = .ok c) : b = c ↔ bareFields text = bareFields other := by
  obtain ⟨first, second, cuts, node, sensor⟩ := (parse_eq_ok_iff text b).mp parsed
  obtain ⟨first', second', cuts', node', sensor'⟩ := (parse_eq_ok_iff other c).mp parsed'
  rw [cuts.bareFields_eq (looksKnown_name b.channel), cuts'.bareFields_eq (looksKnown_name c.channel)]
  simp only [List.cons.injEq, and_true, ← node.eq_iff node', ← sensor.eq_iff sensor', String.toList_inj]
  constructor
  · rintro rfl
    exact ⟨rfl, rfl, rfl⟩
  · rintro ⟨sameNode, sameSensor, name⟩
    have channel : b.channel = c.channel := Channel.name_inj name
    obtain ⟨_, _, _⟩ := b
    obtain ⟨_, _, _⟩ := c
    congr

/-- The texts that are read as bindings are those that spell one between blanks. Where two numbers are followed by a
word that no channel has, the word is to blame, and for all other texts it is their form. Every binding is read back
from its text, whatever blanks stand around it, and texts that are read as the same binding differ in nothing but
blanks at the ends and zeros in front. -/
theorem parse_spelling (text : String) :
    (∀ b, parse text = .ok b ↔ Reads text b.node b.sensor b.channel.name.toList) ∧
      (∀ name, parse text = .error (.unknownType name) ↔
        (∃ node sensor, Reads text node sensor name.toList) ∧ LooksKnown name.toList ∧
          ∀ channel : Channel, channel.name ≠ name) ∧
      ((∀ b, parse text ≠ .ok b) → (∀ name, parse text ≠ .error (.unknownType name)) →
        ∃ fault, parse text = .error (.malformed text fault)) ∧
      (∀ b : Binding, parse b.text = .ok b ∧ ∀ front back, Text.Blank front → Text.Blank back →
        parse (String.ofList (front ++ b.text.toList ++ back)) = .ok b) ∧
      ∀ other b c, parse text = .ok b → parse other = .ok c → (b = c ↔ bareFields text = bareFields other) := by
  refine ⟨parse_eq_ok_iff text, parse_eq_unknownType_iff text, fun unread known => ?_, fun b => ⟨?_, ?_⟩, ?_⟩
  · have outcome := outcome_parse text
    generalize parse text = result at outcome unread known
    cases outcome with
    | known => exact absurd rfl (unread _)
    | unknown => exact absurd rfl (known _)
    | misshapen => exact ⟨_, rfl⟩
  · have unpadded := b.parse_text_padded .nil .nil
    rwa [List.nil_append, List.append_nil, String.ofList_toList] at unpadded
  · exact fun _ _ before after => b.parse_text_padded before after
  · exact fun _ _ _ => eq_iff_bareFields_eq

/-- Blanks and zeros make no difference, and a number that is no byte makes a text malformed. -/
theorem parse_spelling_lamp :
    parse "\t12;2;V_STATUS " = .ok ⟨12, 2, .signal .status⟩ ∧
      bareFields " 012;002;V_STATUS" = bareFields "12;2;V_STATUS" ∧
      ∃ fault, parse "5;256;V_TEMP" = .error (.malformed "5;256;V_TEMP" fault) := by
  have first : parse " 012;002;V_STATUS" = .ok ⟨12, 2, .signal .status⟩ := by cbv
  have second : parse "12;2;V_STATUS" = .ok ⟨12, 2, .signal .status⟩ := by cbv
  have third : parse "5;256;V_TEMP" = .error (.malformed "5;256;V_TEMP" .tooLarge) := by cbv
  obtain ⟨_, _, _, shown, same⟩ := parse_spelling " 012;002;V_STATUS"
  obtain ⟨_, _, malformed, _⟩ := parse_spelling "5;256;V_TEMP"
  refine ⟨?_, (same _ _ _ first second).mp rfl, malformed ?_ ?_⟩
  · exact (shown ⟨12, 2, .signal .status⟩).2 ['\t'] [' '] (by decide) (by decide)
  · intro b read
    cases third.symm.trans read
  · intro name read
    cases third.symm.trans read

end SensorGateway.Binding
