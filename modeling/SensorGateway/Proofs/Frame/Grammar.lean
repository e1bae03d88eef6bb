import Mathlib.Data.List.TakeWhile
import SensorGateway.Proofs.Frame.Wire
import SensorGateway.Proofs.Text.Digits
import SensorGateway.Proofs.Vocabulary.Lookup

namespace SensorGateway.Frame

/-- The six fields of a line. -/
structure Fields where
  node : List Char
  sensor : List Char
  type : List Char
  ack : List Char
  topic : List Char
  payload : List Char

namespace Fields

/-- The fields of a line that is cut at its first five separators. -/
structure Cuts (p : Fields) (body : List Char) : Prop where
  whole : body =
    p.node ++ ';' :: p.sensor ++ ';' :: p.type ++ ';' :: p.ack ++ ';' :: p.topic ++ ';' :: p.payload
  free : ∀ field ∈ [p.node, p.sensor, p.type, p.ack, p.topic], ';' ∉ field

/-- Fields spell a frame: its numbers, with any number of zeros in front of each, its flag, and its payload as it is. -/
structure Spell (p : Fields) (f : Frame) : Prop where
  node : Text.Spells p.node f.node
  sensor : Text.Spells p.sensor f.sensor
  type : Text.Spells p.type f.type.code
  ack : p.ack = [if f.ack then '1' else '0']
  topic : Text.Spells p.topic f.topic.code
  payload : p.payload = f.payload.toList

/-- Fields break the rule that stands at a place in the order of the rules, and what is reported of that. -/
inductive Breaks (p : Fields) : Nat → DecodeError → Prop
  | node : (∀ n, ¬ Text.Spells p.node n) → Breaks p 0 (.form (.badNumber .node (String.ofList p.node)))
  | sensor : (∀ n, ¬ Text.Spells p.sensor n) → Breaks p 1 (.form (.badNumber .sensor (String.ofList p.sensor)))
  | type : (∀ n, ¬ Text.Spells p.type n) → Breaks p 2 (.form (.badNumber .type (String.ofList p.type)))
  | ack : p.ack ≠ ['0'] → p.ack ≠ ['1'] → Breaks p 3 (.form (.badAck (String.ofList p.ack)))
  | topic : (∀ n, ¬ Text.Spells p.topic n) → Breaks p 4 (.form (.badNumber .topic (String.ofList p.topic)))
  | knownType {n : UInt8} : Text.Spells p.type n → 4 < n → Breaks p 5 (.rule (.unknownCode .frameType n))
  | knownTopic {type : FrameType} {n : UInt8} : Text.Spells p.type type.code → Text.Spells p.topic n →
      (∀ topic : Topic, topic.table = type.table → topic.code ≠ n) →
      Breaks p 6 (.rule (.unknownCode type.table n))
  | oneLine : '\n' ∈ p.payload ∨ '\r' ∈ p.payload → Breaks p 7 (.rule .lineBreak)

/-- Fields keep the rules before a place in the order. -/
def Keeps (p : Fields) (k : Nat) : Prop :=
  ∀ j < k, ∀ e, ¬ p.Breaks j e

/-- The first rule that fields break. -/
def FirstBreaks (p : Fields) (k : Nat) (e : DecodeError) : Prop :=
  p.Keeps k ∧ p.Breaks k e

/-- Fields that are the same but for zeros in front of the numbers. -/
structure SameButZeros (p q : Fields) : Prop where
  node : Text.SameButZeros p.node q.node
  sensor : Text.SameButZeros p.sensor q.sensor
  type : Text.SameButZeros p.type q.type
  ack : p.ack = q.ack
  topic : Text.SameButZeros p.topic q.topic
  payload : p.payload = q.payload

/-- The frame that the fields are read as. -/
def read (p : Fields) : Except DecodeError Frame :=
  ofFields p.node p.sensor p.type p.ack p.topic p.payload

end Fields

theorem exists_cut {body : List Char} {more : Nat} (enough : more + 1 ≤ body.count ';') :
    ∃ field rest, body = field ++ ';' :: rest ∧ ';' ∉ field ∧ more ≤ rest.count ';' := by
  have member : ';' ∈ body := List.count_pos_iff.mp (by omega)
  obtain ⟨field, rest, rfl, free⟩ := List.eq_append_cons_of_mem member
  refine ⟨field, rest, rfl, free, ?_⟩
  rw [List.count_append, List.count_eq_zero.mpr free, List.count_cons_self] at enough
  omega

theorem cutFields_of_free {line : List Char} (free : ';' ∉ line) (cuts : Nat) :
    cutFields cuts line = [line] := by
  cases cuts with
  | zero => rfl
  | succ cuts =>
    have nothing : line.dropWhile (· != ';') = [] := by
      rw [List.dropWhile_eq_nil_iff]
      intro c member
      simp only [bne_iff_ne]
      rintro rfl
      exact free member
    rw [cutFields, nothing]

/-- A line with fewer separators than cuts falls into one field more than it has separators. -/
theorem length_cutFields {cuts : Nat} {line : List Char} (few : line.count ';' < cuts) :
    (cutFields cuts line).length = 1 + line.count ';' := by
  induction cuts generalizing line with
  | zero => exact absurd few (Nat.not_lt_zero _)
  | succ cuts ih =>
    by_cases member : ';' ∈ line
    · obtain ⟨field, rest, rfl, free⟩ := List.eq_append_cons_of_mem member
      rw [List.count_append, List.count_eq_zero.mpr free, List.count_cons_self] at few ⊢
      rw [cutFields_append_cons free, List.length_cons, ih (by omega)]
      omega
    · rw [cutFields_of_free member, List.count_eq_zero.mpr member]
      rfl

theorem readNumber_eq_ok_iff (field : Field) (text : List Char) (n : UInt8) :
    readNumber field text = .ok n ↔ Text.Spells text n := by
  rw [← Text.readByte?_eq_some_iff, readNumber]
  cases Text.readByte? text <;> simp

theorem readNumber_eq_error_iff (field : Field) (text : List Char) (e : DecodeError) :
    readNumber field text = .error e ↔
      (∀ n, ¬ Text.Spells text n) ∧ .form (.badNumber field (String.ofList text)) = e := by
  rw [← Text.readByte?_eq_none_iff, readNumber]
  cases Text.readByte? text <;> simp

theorem readAck_eq_ok_iff (text : List Char) (ack : Bool) : readAck text = .ok ack ↔ text = ackChars ack := by
  constructor
  · intro read
    unfold readAck at read
    split at read
    · rw [← Except.ok.inj read]
      rfl
    · rw [← Except.ok.inj read]
      rfl
    · cases read
  · rintro rfl
    exact readAck_ackChars ack

theorem readAck_eq_error_iff (text : List Char) (e : DecodeError) :
    readAck text = .error e ↔
      (text ≠ ['0'] ∧ text ≠ ['1']) ∧ .form (.badAck (String.ofList text)) = e := by
  unfold readAck
  split <;> simp_all

theorem isEncodable_iff (f : Frame) :
    f.isEncodable = true ↔ '\n' ∉ f.payload.toList ∧ '\r' ∉ f.payload.toList := by
  simp only [isEncodable, Text.hasLineBreak, Bool.not_eq_true', List.any_eq_false, Text.isLineBreak, Bool.or_eq_true,
    beq_iff_eq, not_or]
  constructor
  · intro free
    exact ⟨fun member => (free _ member).1 rfl, fun member => (free _ member).2 rfl⟩
  · rintro ⟨noFeed, noReturn⟩ c member
    exact ⟨fun same => noFeed (same ▸ member), fun same => noReturn (same ▸ member)⟩

theorem checked_eq_error_iff (f : Frame) (cause : RuleError) :
    checked f = .error cause ↔ ('\n' ∈ f.payload.toList ∨ '\r' ∈ f.payload.toList) ∧ .lineBreak = cause := by
  have broken : ¬ f.isEncodable = true ↔ '\n' ∈ f.payload.toList ∨ '\r' ∈ f.payload.toList := by
    rw [isEncodable_iff, not_and_or, not_not, not_not]
  rw [← broken, checked]
  split <;> simp [*]

theorem checked_eq_ok_iff (f g : Frame) : checked f = .ok g ↔ f.isEncodable = true ∧ f = g := by
  rw [checked]
  split <;> simp [*]

theorem mapError_rule_bind {α β : Type} (first : Except RuleError α) (rest : α → Except RuleError β) :
    (first >>= rest).mapError DecodeError.rule = first.mapError .rule >>= fun a => (rest a).mapError .rule := by
  cases first <;> rfl

theorem mapError_rule_eq_ok_iff {α : Type} (first : Except RuleError α) (a : α) :
    first.mapError DecodeError.rule = .ok a ↔ first = .ok a := by
  cases first <;> simp [Except.mapError]

theorem mapError_rule_eq_error_iff {α : Type} (first : Except RuleError α) (e : DecodeError) :
    first.mapError DecodeError.rule = .error e ↔ ∃ cause, first = .error cause ∧ .rule cause = e := by
  cases first <;> simp [Except.mapError]

namespace Fields

theorem Cuts.exists_of_count {body : List Char} (enough : 5 ≤ body.count ';') : ∃ p : Fields, p.Cuts body := by
  obtain ⟨node, rest, rfl, free, enough⟩ := exists_cut enough
  obtain ⟨sensor, rest, rfl, free', enough⟩ := exists_cut enough
  obtain ⟨type, rest, rfl, free'', enough⟩ := exists_cut enough
  obtain ⟨ack, rest, rfl, free''', enough⟩ := exists_cut enough
  obtain ⟨topic, payload, rfl, free'''', _⟩ := exists_cut enough
  exact ⟨⟨node, sensor, type, ack, topic, payload⟩, by simp, by simp [*]⟩

theorem Cuts.cutFields {p : Fields} {body : List Char} (cuts : p.Cuts body) :
    Frame.cutFields 5 body = [p.node, p.sensor, p.type, p.ack, p.topic, p.payload] := by
  have free := cuts.free
  simp only [List.mem_cons, List.not_mem_nil, or_false, forall_eq_or_imp, forall_eq] at free
  obtain ⟨node, sensor, type, ack, topic⟩ := free
  rw [cuts.whole]
  simp only [List.append_assoc, List.cons_append]
  rw [cutFields_append_cons node, cutFields_append_cons sensor, cutFields_append_cons type, cutFields_append_cons ack,
    cutFields_append_cons topic, Frame.cutFields]

/-- What fields are read as is right: a frame that they spell, or the first rule that they break. -/
def Right (p : Fields) (outcome : Except DecodeError Frame) : Prop :=
  (∃ k e, outcome = .error e ∧ p.FirstBreaks k e) ∨ ∃ f, outcome = .ok f ∧ p.Spell f ∧ f.isEncodable = true

/-- When a step of the reading is refused exactly for breaking the next rule, the whole is right if the rest is. -/
theorem Keeps.next {p : Fields} {k : Nat} (keeps : p.Keeps k) {α : Type} {first : Except DecodeError α}
    {rest : α → Except DecodeError Frame} (refused : ∀ e, first = .error e ↔ p.Breaks k e)
    (right : ∀ a, first = .ok a → p.Keeps (k + 1) → p.Right (rest a)) : p.Right (first >>= rest) := by
  cases read : first with
  | error e => exact .inl ⟨k, e, rfl, keeps, (refused e).mp read⟩
  | ok a =>
    refine right a read fun j before e breaks => ?_
    rcases Nat.lt_succ_iff_lt_or_eq.mp before with earlier | rfl
    · exact keeps j earlier e breaks
    · cases read.symm.trans ((refused e).mpr breaks)

theorem node_refused_iff (p : Fields) (e : DecodeError) : readNumber .node p.node = .error e ↔ p.Breaks 0 e := by
  rw [readNumber_eq_error_iff]
  constructor
  · rintro ⟨fails, rfl⟩
    exact .node fails
  · intro breaks
    cases breaks with
    | node fails => exact ⟨fails, rfl⟩

theorem sensor_refused_iff (p : Fields) (e : DecodeError) : readNumber .sensor p.sensor = .error e ↔ p.Breaks 1 e := by
  rw [readNumber_eq_error_iff]
  constructor
  · rintro ⟨fails, rfl⟩
    exact .sensor fails
  · intro breaks
    cases breaks with
    | sensor fails => exact ⟨fails, rfl⟩

theorem type_refused_iff (p : Fields) (e : DecodeError) : readNumber .type p.type = .error e ↔ p.Breaks 2 e := by
  rw [readNumber_eq_error_iff]
  constructor
  · rintro ⟨fails, rfl⟩
    exact .type fails
  · intro breaks
    cases breaks with
    | type fails => exact ⟨fails, rfl⟩

theorem ack_refused_iff (p : Fields) (e : DecodeError) : readAck p.ack = .error e ↔ p.Breaks 3 e := by
  rw [readAck_eq_error_iff]
  constructor
  · rintro ⟨⟨notZero, notOne⟩, rfl⟩
    exact .ack notZero notOne
  · intro breaks
    cases breaks with
    | ack notZero notOne => exact ⟨⟨notZero, notOne⟩, rfl⟩

theorem topic_refused_iff (p : Fields) (e : DecodeError) : readNumber .topic p.topic = .error e ↔ p.Breaks 4 e := by
  rw [readNumber_eq_error_iff]
  constructor
  · rintro ⟨fails, rfl⟩
    exact .topic fails
  · intro breaks
    cases breaks with
    | topic fails => exact ⟨fails, rfl⟩

theorem knownType_refused_iff {p : Fields} {n : UInt8} (spelled : Text.Spells p.type n) (e : DecodeError) :
    (FrameType.ofCode n).mapError .rule = .error e ↔ p.Breaks 5 e := by
  rw [mapError_rule_eq_error_iff]
  constructor
  · rintro ⟨cause, refused, rfl⟩
    obtain ⟨large, rfl⟩ := (FrameType.ofCode_eq_error_iff n cause).mp refused
    exact .knownType spelled large
  · intro breaks
    cases breaks with
    | knownType again large =>
      obtain rfl := spelled.unique again
      exact ⟨_, (FrameType.ofCode_eq_error_iff n _).mpr ⟨large, rfl⟩, rfl⟩

theorem knownTopic_refused_iff {p : Fields} {type : FrameType} {n : UInt8} (spelledType : Text.Spells p.type type.code)
    (spelledTopic : Text.Spells p.topic n) (e : DecodeError) :
    (Subject.ofCode type n).mapError .rule = .error e ↔ p.Breaks 6 e := by
  rw [mapError_rule_eq_error_iff]
  constructor
  · rintro ⟨cause, refused, rfl⟩
    obtain ⟨missing, rfl⟩ := (Subject.ofCode_eq_error_iff type n cause).mp refused
    exact .knownTopic spelledType spelledTopic missing
  · intro breaks
    cases breaks with
    | knownTopic againType againTopic missing =>
      obtain rfl := FrameType.code_injective (spelledType.unique againType)
      obtain rfl := spelledTopic.unique againTopic
      exact ⟨_, (Subject.ofCode_eq_error_iff type n _).mpr ⟨missing, rfl⟩, rfl⟩

theorem oneLine_refused_iff {p : Fields} {f : Frame} (payload : p.payload = f.payload.toList) (e : DecodeError) :
    (checked f).mapError .rule = .error e ↔ p.Breaks 7 e := by
  rw [mapError_rule_eq_error_iff]
  constructor
  · rintro ⟨cause, refused, rfl⟩
    obtain ⟨broken, rfl⟩ := (checked_eq_error_iff f cause).mp refused
    exact .oneLine (payload ▸ broken)
  · intro breaks
    cases breaks with
    | oneLine broken => exact ⟨_, (checked_eq_error_iff f _).mpr ⟨payload ▸ broken, rfl⟩, rfl⟩

/-- The fields are read as a frame that they spell, or refused for the first rule that they break. -/
theorem read_right (p : Fields) : p.Right p.read := by
  unfold read ofFields
  have keeps : p.Keeps 0 := fun j before => absurd before (Nat.not_lt_zero j)
  -- The five fields before the payload are read in their order; then their numbers are looked up.
  refine keeps.next p.node_refused_iff fun node nodeRead keeps => ?_
  refine keeps.next p.sensor_refused_iff fun sensor sensorRead keeps => ?_
  refine keeps.next p.type_refused_iff fun typeCode typeRead keeps => ?_
  refine keeps.next p.ack_refused_iff fun ack ackRead keeps => ?_
  refine keeps.next p.topic_refused_iff fun topicCode topicRead keeps => ?_
  rw [readNumber_eq_ok_iff] at nodeRead sensorRead typeRead topicRead
  rw [readAck_eq_ok_iff] at ackRead
  rw [mapError_rule_bind]
  refine keeps.next (knownType_refused_iff typeRead) fun type known keeps => ?_
  rw [mapError_rule_eq_ok_iff, FrameType.ofCode_eq_ok_iff] at known
  obtain rfl := known
  rw [ofCode, mapError_rule_bind]
  refine keeps.next (knownTopic_refused_iff typeRead topicRead) fun subject found keeps => ?_
  rw [mapError_rule_eq_ok_iff, Subject.ofCode_eq_ok_iff] at found
  obtain ⟨rfl, rfl⟩ := found
  have payload : p.payload = (String.ofList p.payload).toList := String.toList_ofList.symm
  rw [← bind_pure (Except.mapError _ _)]
  refine keeps.next (oneLine_refused_iff payload) fun f fits _ => .inr ⟨f, rfl, ?_⟩
  rw [mapError_rule_eq_ok_iff, checked_eq_ok_iff] at fits
  obtain ⟨fits, rfl⟩ := fits
  exact ⟨⟨nodeRead, sensorRead, typeRead, ackRead, topicRead, payload⟩, fits⟩

theorem Spell.eq_iff {p q : Fields} {f g : Frame} (first : p.Spell f) (second : q.Spell g) :
    f = g ↔ p.SameButZeros q := by
  constructor
  · rintro rfl
    exact ⟨(first.node.eq_iff second.node).mp rfl, (first.sensor.eq_iff second.sensor).mp rfl,
      (first.type.eq_iff second.type).mp rfl, first.ack.trans second.ack.symm, (first.topic.eq_iff second.topic).mp rfl,
      first.payload.trans second.payload.symm⟩
  · intro same
    have node := (first.node.eq_iff second.node).mpr same.node
    have sensor := (first.sensor.eq_iff second.sensor).mpr same.sensor
    have type := (first.type.eq_iff second.type).mpr same.type
    have topic := (first.topic.eq_iff second.topic).mpr same.topic
    have flags : ackChars f.ack = ackChars g.ack := first.ack.symm.trans (same.ack.trans second.ack)
    have ack : f.ack = g.ack := Except.ok.inj (by rw [← readAck_ackChars f.ack, flags, readAck_ackChars])
    have payload := first.payload.symm.trans (same.payload.trans second.payload)
    obtain ⟨_, _, _, _, _⟩ := f
    obtain ⟨_, _, _, _, _⟩ := g
    obtain rfl := node
    obtain rfl := sensor
    obtain rfl := ack
    obtain rfl := Subject.eq_of_codes type topic
    obtain rfl := String.toList_inj.mp payload
    rfl

/-- Fields that spell a frame break no rule when its payload can travel on one line. -/
theorem Spell.not_breaks {p : Fields} {f : Frame} (spell : p.Spell f) (fits : f.isEncodable = true) (k : Nat)
    (e : DecodeError) : ¬ p.Breaks k e := by
  intro breaks
  cases breaks with
  | node fails => exact fails _ spell.node
  | sensor fails => exact fails _ spell.sensor
  | type fails => exact fails _ spell.type
  | topic fails => exact fails _ spell.topic
  | ack notZero notOne =>
    have flag := spell.ack
    cases asked : f.ack with
    | false => exact notZero (by rw [flag, asked]; rfl)
    | true => exact notOne (by rw [flag, asked]; rfl)
  | knownType spelled large =>
    obtain rfl := spelled.unique spell.type
    cases known : f.type <;> exact absurd (known ▸ large) (by decide)
  | knownTopic spelledType spelledTopic missing =>
    obtain rfl := FrameType.code_injective (spelledType.unique spell.type)
    exact missing f.topic f.subject.table_topic (spell.topic.unique spelledTopic)
  | oneLine broken =>
    rw [spell.payload] at broken
    obtain ⟨noFeed, noReturn⟩ := (isEncodable_iff f).mp fits
    exact broken.elim noFeed noReturn

theorem Breaks.le {p : Fields} {k : Nat} {e : DecodeError} (breaks : p.Breaks k e) : k ≤ 7 := by
  cases breaks <;> decide

/-- Only the last rule is about the payload. -/
theorem Breaks.withPayload {p : Fields} {k : Nat} {e : DecodeError} (breaks : p.Breaks k e) (earlier : k < 7)
    (payload : List Char) : Breaks { p with payload } k e := by
  cases breaks with
  | node fails => exact .node fails
  | sensor fails => exact .sensor fails
  | type fails => exact .type fails
  | ack notZero notOne => exact .ack notZero notOne
  | topic fails => exact .topic fails
  | knownType spelled large => exact .knownType spelled large
  | knownTopic spelledType spelledTopic missing => exact .knownTopic spelledType spelledTopic missing
  | oneLine _ => exact absurd earlier (Nat.lt_irrefl 7)

theorem Keeps.withPayload {p : Fields} {k : Nat} (keeps : p.Keeps k) (within : k ≤ 7) (payload : List Char) :
    Keeps { p with payload } k :=
  fun j before e breaks => keeps j before e (breaks.withPayload (Nat.lt_of_lt_of_le before within) p.payload)

/-- Fields of a frame keep the first seven rules, with whatever payload. -/
theorem Spell.keeps {p : Fields} {f : Frame} (spell : p.Spell f) (fits : f.isEncodable = true)
    (payload : List Char) : Keeps { p with payload } 7 := by
  have keeps : p.Keeps 7 := fun j _ => spell.not_breaks fits j
  exact keeps.withPayload (Nat.le_refl 7) payload

theorem SameButZeros.refl (p : Fields) : p.SameButZeros p :=
  ⟨.refl _, .refl _, .refl _, rfl, .refl _, rfl⟩

theorem Breaks.unique {p : Fields} {k : Nat} {e other : DecodeError} (first : p.Breaks k e)
    (second : p.Breaks k other) : e = other := by
  cases first with
  | knownType spelled =>
    cases second with
    | knownType again => rw [spelled.unique again]
  | knownTopic spelledType spelledTopic =>
    cases second with
    | knownTopic againType againTopic =>
      rw [FrameType.code_injective (spelledType.unique againType), spelledTopic.unique againTopic]
  | _ =>
    cases second
    rfl

theorem FirstBreaks.unique {p : Fields} {j k : Nat} {e other : DecodeError} (first : p.FirstBreaks j e)
    (second : p.FirstBreaks k other) : e = other := by
  rcases Nat.lt_trichotomy j k with before | rfl | after
  · exact absurd first.2 (second.1 j before e)
  · exact first.2.unique second.2
  · exact absurd second.2 (first.1 k after other)

theorem read_eq_error_iff (p : Fields) (e : DecodeError) : p.read = .error e ↔ ∃ k, p.FirstBreaks k e := by
  rcases p.read_right with ⟨j, found, refused, first⟩ | ⟨f, read, spell, fits⟩
  · rw [refused]
    constructor
    · intro same
      obtain rfl := Except.error.inj same
      exact ⟨j, first⟩
    · rintro ⟨k, second⟩
      rw [first.unique second]
  · rw [read]
    exact ⟨nofun, fun ⟨k, first⟩ => absurd first.2 (spell.not_breaks fits k e)⟩

theorem read_eq_ok_iff (p : Fields) (f : Frame) : p.read = .ok f ↔ p.Spell f ∧ ∀ k e, ¬ p.Breaks k e := by
  rcases p.read_right with ⟨j, found, refused, first⟩ | ⟨g, read, spell, fits⟩
  · rw [refused]
    exact ⟨nofun, fun ⟨_, kept⟩ => absurd first.2 (kept j found)⟩
  · rw [read]
    constructor
    · intro same
      obtain rfl := Except.ok.inj same
      exact ⟨spell, spell.not_breaks fits⟩
    · rintro ⟨also, _⟩
      rw [(spell.eq_iff also).mpr (.refl p)]

end Fields

theorem decode_of_cuts {p : Fields} {line : String} (cuts : p.Cuts (lineBody line.toList)) : decode line = p.read := by
  rw [decode, decodeChars, cuts.cutFields]
  rfl

theorem decode_of_count {line : String} (few : (lineBody line.toList).count ';' < 5) :
    decode line = .error (.form (.fieldCount (1 + (lineBody line.toList).count ';'))) := by
  have length := length_cutFields few
  rw [decode, decodeChars]
  split
  · rename_i cut
    rw [cut] at length
    simp only [List.length_cons, List.length_nil] at length
    omega
  · rw [length]

/-- The body of a line: the characters in front of its end, which is a line feed, a carriage return, one behind the
other, or nothing. -/
inductive IsBody (body : List Char) : List Char → Prop
  | whole : body.getLast? ≠ some '\n' → body.getLast? ≠ some '\r' → IsBody body body
  | carriageReturn : IsBody body (body ++ ['\r'])
  | lineFeed : body.getLast? ≠ some '\r' → IsBody body (body ++ ['\n'])
  | both : IsBody body (body ++ ['\r', '\n'])

theorem isBody_iff (body line : List Char) : IsBody body line ↔ lineBody line = body := by
  constructor
  · intro ends
    cases ends with
    | whole noFeed noReturn => rw [lineBody, dropEnd_of_last noFeed, dropEnd_of_last noReturn]
    | carriageReturn =>
      have noFeed : (body ++ ['\r']).getLast? ≠ some '\n' := by simp
      rw [lineBody, dropEnd_of_last noFeed, dropEnd_append_singleton]
    | lineFeed noReturn => rw [lineBody, dropEnd_append_singleton, dropEnd_of_last noReturn]
    | both => rw [List.append_cons, lineBody, dropEnd_append_singleton, dropEnd_append_singleton]
  · rintro rfl
    rw [lineBody]
    rcases dropEnd_cases '\n' line with ⟨rest, rfl, fed⟩ | ⟨noFeed, fed⟩
    · rcases dropEnd_cases '\r' rest with ⟨rest, rfl, returned⟩ | ⟨noReturn, returned⟩
      · rw [fed, returned, List.append_assoc]
        exact .both
      · rw [fed, returned]
        exact .lineFeed noReturn
    · rcases dropEnd_cases '\r' line with ⟨rest, rfl, returned⟩ | ⟨noReturn, returned⟩
      · rw [fed, returned]
        exact .carriageReturn
      · rw [fed, returned]
        exact .whole noFeed noReturn

/-- Decoding accepts the lines of the grammar and no others. Every line has one body. If the body holds fewer than five
separators, it has too few fields. Of any other body the six fields are read: the line is refused for the first rule
that they break, and if they break none, it is the frame that they spell, which two lines have in common when their
bodies are the same but for zeros in front of numbers. -/
theorem decode_grammar (line : String) :
    ∃ body, (∀ other, IsBody other line.toList ↔ other = body) ∧
      (body.count ';' < 5 → decode line = .error (.form (.fieldCount (1 + body.count ';')))) ∧
      (5 ≤ body.count ';' → ∃ p : Fields, p.Cuts body) ∧
      (∀ p : Fields, p.Cuts body →
        (∀ e, decode line = .error e ↔ ∃ k, p.FirstBreaks k e) ∧
          (∀ f, decode line = .ok f ↔ p.Spell f ∧ ∀ k e, ¬ p.Breaks k e) ∧
          ((∀ k e, ¬ p.Breaks k e) → ∃ f, decode line = .ok f)) ∧
      ∀ (other : String) (body' : List Char) (p q : Fields) (f g : Frame), IsBody body' other.toList → p.Cuts body →
        q.Cuts body' → decode line = .ok f → decode other = .ok g → (f = g ↔ p.SameButZeros q) := by
  refine ⟨lineBody line.toList, fun other => (isBody_iff _ _).trans eq_comm, decode_of_count,
    Fields.Cuts.exists_of_count, fun p cuts => ?_, fun other body' p q f g isBody cuts cuts' read read' => ?_⟩
  · rw [decode_of_cuts cuts]
    refine ⟨p.read_eq_error_iff, p.read_eq_ok_iff, fun kept => ?_⟩
    cases read : p.read with
    | ok f => exact ⟨f, rfl⟩
    | error e =>
      obtain ⟨k, first⟩ := (p.read_eq_error_iff e).mp read
      exact absurd first.2 (kept k e)
  · obtain rfl := (isBody_iff _ _).mp isBody
    rw [decode_of_cuts cuts, p.read_eq_ok_iff] at read
    rw [decode_of_cuts cuts', q.read_eq_ok_iff] at read'
    exact read.1.eq_iff read'.1

/-- The fields of a line with zeros in front of its numbers. -/
def padded : Fields :=
  ⟨['0', '0', '5'], ['3'], ['1'], ['1'], ['0', '4', '7'], ['a', ';', 'b']⟩

/-- The fields of a line whose sensor and flag are both wrong. -/
def twiceWrong : Fields :=
  ⟨['5'], ['3', '0', '0'], ['1'], ['2'], ['2'], []⟩

/-- The fields of a line that ends in two carriage returns and a line feed. -/
def twiceReturned : Fields :=
  ⟨['5'], ['3'], ['1'], ['0'], ['4', '7'], ['a', '\r']⟩

/-- Zeros in front make no difference, of two faults the first is told, and of two carriage returns one belongs to the
payload. -/
theorem decode_grammar_padded :
    decode "005;3;1;1;047;a;b\r\n" = .ok ⟨5, 3, true, .set .text, "a;b"⟩ ∧
      decode "5;300;1;2;2;" = .error (.form (.badNumber .sensor "300")) ∧
      decode "5;3;1;0;47;a\r\r\n" = .error (.rule .lineBreak) := by
  have spell : padded.Spell ⟨5, 3, true, .set .text, "a;b"⟩ :=
    ⟨⟨2, by decide⟩, ⟨0, by decide⟩, ⟨0, by decide⟩, by decide, ⟨1, by decide⟩, by decide⟩
  have first : twiceWrong.FirstBreaks 1 (.form (.badNumber .sensor "300")) := by
    refine ⟨fun j before e breaks => ?_, .sensor ((Text.readByte?_eq_none_iff _).mp (by decide))⟩
    obtain rfl := Nat.lt_one_iff.mp before
    cases breaks with
    | node fails => exact fails 5 ⟨0, by decide⟩
  have last : twiceReturned.FirstBreaks 7 (.rule .lineBreak) := by
    have once : Fields.Spell { twiceReturned with payload := [] } ⟨5, 3, false, .set .text, ""⟩ :=
      ⟨⟨0, by decide⟩, ⟨0, by decide⟩, ⟨0, by decide⟩, by decide, ⟨0, by decide⟩, by decide⟩
    exact ⟨once.keeps (by decide) _, .oneLine (.inr (by decide))⟩
  have ends : IsBody "005;3;1;1;047;a;b".toList "005;3;1;1;047;a;b\r\n".toList := .both
  have ends' : IsBody "5;300;1;2;2;".toList "5;300;1;2;2;".toList := .whole (by decide) (by decide)
  have ends'' : IsBody "5;3;1;0;47;a\r".toList "5;3;1;0;47;a\r\r\n".toList := .both
  obtain ⟨body, isBody, _, _, line, _⟩ := decode_grammar "005;3;1;1;047;a;b\r\n"
  obtain ⟨body', isBody', _, _, line', _⟩ := decode_grammar "5;300;1;2;2;"
  obtain ⟨body'', isBody'', _, _, line'', _⟩ := decode_grammar "5;3;1;0;47;a\r\r\n"
  obtain rfl := (isBody _).mp ends
  obtain rfl := (isBody' _).mp ends'
  obtain rfl := (isBody'' _).mp ends''
  exact ⟨((line padded ⟨by decide, by decide⟩).2.1 _).mpr ⟨spell, spell.not_breaks (by decide)⟩,
    ((line' twiceWrong ⟨by decide, by decide⟩).1 _).mpr ⟨1, first⟩,
    ((line'' twiceReturned ⟨by decide, by decide⟩).1 _).mpr ⟨7, last⟩⟩

end SensorGateway.Frame
