import SensorGateway.Vocabulary.Channel

namespace SensorGateway

/-- In a table whose entries stand at their numbers, the entry found under a number has it. -/
theorem code_of_getElem? {α : Type} {all : List α} {code : α → UInt8}
    (ordered : all.map code = (List.range all.length).map UInt8.ofNat) {n : UInt8} {t : α}
    (found : all[n.toNat]? = some t) : code t = n := by
  have inside : n.toNat < all.length := (List.getElem?_eq_some_iff.mp found).1
  have numbered : (all.map code)[n.toNat]? = some (code t) := by rw [List.getElem?_map, found, Option.map_some]
  rw [ordered, List.getElem?_map, List.getElem?_range inside, Option.map_some, UInt8.ofNat_toNat] at numbered
  exact (Option.some.inj numbered).symm

theorem Profile.code_of_ofCode? {n : UInt8} {t : Profile} (found : ofCode? n = some t) : t.code = n :=
  code_of_getElem? (by decide) found

theorem Signal.code_of_ofCode? {n : UInt8} {t : Signal} (found : ofCode? n = some t) : t.code = n :=
  code_of_getElem? (by decide) found

theorem Housekeeping.code_of_ofCode? {n : UInt8} {t : Housekeeping} (found : ofCode? n = some t) : t.code = n :=
  code_of_getElem? (by decide) found

theorem Bulk.code_of_ofCode? {n : UInt8} {t : Bulk} (found : ofCode? n = some t) : t.code = n :=
  code_of_getElem? (by decide) found

namespace FrameType

theorem ofCode_eq_ok_iff (n : UInt8) (t : FrameType) : ofCode n = .ok t ↔ t.code = n := by
  constructor
  · intro known
    unfold ofCode at known
    split at known
    · rename_i found
      cases known
      exact code_of_getElem? (by decide) found
    · cases known
  · rintro rfl
    rw [ofCode, ofCode?_code]

theorem code_injective {t u : FrameType} (same : t.code = u.code) : t = u :=
  Option.some.inj (by rw [← ofCode?_code t, same, ofCode?_code])

theorem ofCode_eq_error_iff (n : UInt8) (cause : RuleError) :
    ofCode n = .error cause ↔ 4 < n ∧ cause = .unknownCode .frameType n := by
  have past : ofCode? n = none ↔ 4 < n := by
    rw [ofCode?, List.getElem?_eq_none_iff, UInt8.lt_iff_toNat_lt]
    exact Nat.succ_le_iff
  rw [← past, ofCode]
  cases ofCode? n with
  | none => simp [eq_comm]
  | some t => simp

end FrameType

namespace Topic

/-- A topic of the table of a type makes a subject with it. -/
theorem exists_subject {type : FrameType} {topic : Topic} (fits : topic.table = type.table) :
    ∃ subject : Subject, subject.type = type ∧ subject.topic = topic := by
  cases type <;> cases topic <;> cases fits
  · exact ⟨.presentation _, rfl, rfl⟩
  · exact ⟨.set _, rfl, rfl⟩
  · exact ⟨.request _, rfl, rfl⟩
  · exact ⟨.internal _, rfl, rfl⟩
  · exact ⟨.stream _, rfl, rfl⟩

theorem orElse_eq_ok_iff (cause : RuleError) (found : Option Topic) (topic : Topic) :
    orElse cause found = .ok topic ↔ found = some topic := by
  cases found <;> simp [orElse]

theorem orElse_eq_error {cause found : RuleError} {topic : Option Topic} (missing : orElse cause topic = .error found) :
    found = cause := by
  cases topic with
  | none => exact (Except.error.inj missing).symm
  | some topic => cases missing

theorem ofCode_eq_ok_iff (type : FrameType) (n : UInt8) (topic : Topic) :
    ofCode type n = .ok topic ↔ topic.table = type.table ∧ topic.code = n := by
  unfold ofCode
  rw [orElse_eq_ok_iff]
  constructor
  · intro known
    cases type with
    | presentation =>
      obtain ⟨t, found, rfl⟩ := Option.map_eq_some_iff.mp known
      exact ⟨rfl, t.code_of_ofCode? found⟩
    | set | request =>
      obtain ⟨t, found, rfl⟩ := Option.map_eq_some_iff.mp known
      exact ⟨rfl, t.code_of_ofCode? found⟩
    | internal =>
      obtain ⟨t, found, rfl⟩ := Option.map_eq_some_iff.mp known
      exact ⟨rfl, t.code_of_ofCode? found⟩
    | stream =>
      obtain ⟨t, found, rfl⟩ := Option.map_eq_some_iff.mp known
      exact ⟨rfl, t.code_of_ofCode? found⟩
  · rintro ⟨fits, rfl⟩
    cases type <;> cases topic <;> cases fits
    · exact congrArg (Option.map profile) (Profile.ofCode?_code _)
    · exact congrArg (Option.map signal) (Signal.ofCode?_code _)
    · exact congrArg (Option.map signal) (Signal.ofCode?_code _)
    · exact congrArg (Option.map housekeeping) (Housekeeping.ofCode?_code _)
    · exact congrArg (Option.map bulk) (Bulk.ofCode?_code _)

theorem ofCode_eq_error_iff (type : FrameType) (n : UInt8) (cause : RuleError) :
    ofCode type n = .error cause ↔
      (∀ topic : Topic, topic.table = type.table → topic.code ≠ n) ∧ cause = .unknownCode type.table n := by
  cases known : ofCode type n with
  | ok topic =>
    obtain ⟨fits, same⟩ := (ofCode_eq_ok_iff type n topic).mp known
    exact ⟨nofun, fun ⟨missing, _⟩ => absurd same (missing topic fits)⟩
  | error found =>
    have missing (topic : Topic) (fits : topic.table = type.table) : topic.code ≠ n := fun same =>
      nomatch known.symm.trans ((ofCode_eq_ok_iff type n topic).mpr ⟨fits, same⟩)
    rw [orElse_eq_error known]
    exact ⟨fun same => ⟨missing, (Except.error.inj same).symm⟩, fun ⟨_, same⟩ => congrArg _ same.symm⟩

end Topic

namespace Subject

theorem table_topic (subject : Subject) : subject.topic.table = subject.type.table := by
  cases subject <;> rfl

theorem ofCode_eq_ok_iff (type : FrameType) (n : UInt8) (subject : Subject) :
    ofCode type n = .ok subject ↔ subject.type = type ∧ subject.topic.code = n := by
  constructor
  · intro known
    cases found : Topic.ofCode type n with
    | error cause =>
      rw [ofCode, found] at known
      cases known
    | ok topic =>
      obtain ⟨fits, rfl⟩ := (Topic.ofCode_eq_ok_iff type n topic).mp found
      obtain ⟨made, rfl, rfl⟩ := Topic.exists_subject fits
      obtain rfl := Except.ok.inj (made.ofCode_code.symm.trans known)
      exact ⟨rfl, rfl⟩
  · rintro ⟨rfl, rfl⟩
    exact subject.ofCode_code

theorem eq_of_codes {a b : Subject} (type : a.type.code = b.type.code) (topic : a.topic.code = b.topic.code) :
    a = b := by
  have known := a.ofCode_code
  rw [FrameType.code_injective type, topic, b.ofCode_code] at known
  exact (Except.ok.inj known).symm

/-- A number is refused when no topic of the table has it. -/
theorem ofCode_eq_error_iff (type : FrameType) (n : UInt8) (cause : RuleError) :
    ofCode type n = .error cause ↔
      (∀ topic : Topic, topic.table = type.table → topic.code ≠ n) ∧ cause = .unknownCode type.table n := by
  rw [← Topic.ofCode_eq_error_iff]
  cases found : Topic.ofCode type n with
  | error other =>
    rw [ofCode, found]
    exact ⟨fun same => congrArg _ (Except.error.inj same), fun same => congrArg _ (Except.error.inj same)⟩
  | ok topic =>
    obtain ⟨fits, rfl⟩ := (Topic.ofCode_eq_ok_iff type n topic).mp found
    obtain ⟨made, rfl, rfl⟩ := Topic.exists_subject fits
    rw [made.ofCode_code]
    simp only [reduceCtorEq]

end Subject

namespace Channel

theorem ofName?_eq_some_iff (name : String) (channel : Channel) :
    ofName? name = some channel ↔ channel.name = name := by
  constructor
  · intro found
    unfold ofName? at found
    split at found
    · obtain ⟨t, here, rfl⟩ := Option.map_eq_some_iff.mp found
      have same := List.find?_some here
      exact of_decide_eq_true same
    · obtain ⟨t, here, rfl⟩ := Option.map_eq_some_iff.mp found
      have same := List.find?_some here
      exact of_decide_eq_true same
    · cases found
  · rintro rfl
    exact channel.ofName?_name

end Channel

end SensorGateway
