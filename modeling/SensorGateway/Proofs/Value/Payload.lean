import Mathlib.Data.List.Basic
import SensorGateway.Value.Payload

namespace SensorGateway

namespace Number

theorem rounded_le {n one : Nat} (small : n ≤ 100 * one) : (2 * n + one) / (2 * one) ≤ 100 := by
  rcases Nat.eq_zero_or_pos one with rfl | positive
  · simp
  · exact Nat.le_of_lt_succ (Nat.div_lt_of_lt_mul (by omega))

theorem toNat_percent? {n : Number} {p : UInt8} (read : n.percent? = some p) : p.toNat ≤ 100 := by
  unfold percent? at read
  split at read
  · rename_i negative rank
    split at read
    · cases read
    split at read
    · rename_i small
      have rounded := rounded_le small
      rw [← Option.some.inj read, UInt8.toNat_ofNat', Nat.mod_eq_of_lt (by omega)]
      exact rounded
    · cases read
  · cases read

theorem isFinite_of_readFinite? {s : String} {n : Number} (read : readFinite? s = some n) : n.isFinite :=
  (Option.filter_eq_some_iff.mp read).2

end Number

/-- What reading all elements of a list gives was read from elements. -/
theorem exists_of_mem_mapM {α β : Type} {read : α → Option β} {l : List α} {values : List β}
    (all : l.mapM read = some values) {value : β} (member : value ∈ values) : ∃ a ∈ l, read a = some value := by
  induction l generalizing values with
  | nil =>
    obtain rfl := Option.some.inj all
    exact nomatch member
  | cons a rest ih =>
    simp only [List.mapM_cons, Option.bind_eq_bind, Option.bind_eq_some_iff, Option.pure_def, Option.some.injEq] at all
    obtain ⟨first, here, others, later, rfl⟩ := all
    rcases List.mem_cons.mp member with rfl | further
    · exact ⟨a, List.mem_cons_self, here⟩
    · obtain ⟨b, listed, known⟩ := ih later further
      exact ⟨b, List.mem_cons_of_mem a listed, known⟩

theorem GeoPoint.isFinite_of_read? {s : String} {p : GeoPoint} (read : GeoPoint.read? s = some p) : p.isFinite := by
  obtain ⟨numbers, spelled, picked⟩ := Option.bind_eq_some_iff.mp read
  have finite (n : Number) (member : n ∈ numbers) : n.isFinite := by
    obtain ⟨field, _, number⟩ := exists_of_mem_mapM spelled member
    exact Number.isFinite_of_readFinite? number
  split at picked
  · rw [← Option.some.inj picked]
    simp only [List.mem_cons, List.not_mem_nil, or_false, forall_eq_or_imp, forall_eq] at finite
    have origin : Number.zero.isFinite := rfl
    simp only [isFinite, finite, origin, Bool.and_self]
  · rw [← Option.some.inj picked]
    simp only [List.mem_cons, List.not_mem_nil, or_false, forall_eq_or_imp, forall_eq] at finite
    simp only [isFinite, finite, Bool.and_self]
  · cases picked

namespace Value

/-- A value within the range of its kind: a percentage is at most a hundred, numbers are finite, and a text fits on a
line. -/
def Fit : Value → Prop
  | .decimal n => n.isFinite
  | .percent p => p.toNat ≤ 100
  | .point p => p.isFinite
  | .text s => Text.hasLineBreak s = false
  | .onOff _ | .openClosed _ | .step _ | .color _ | .time _ => True

theorem readPayload?_of_ofPayload {kind : Kind} {payload : String} {v : Value}
    (read : ofPayload kind payload = .ok v) : readPayload? kind payload = some v := by
  unfold ofPayload at read
  split at read
  · rename_i found
    rw [found, Except.ok.inj read]
  · exact nomatch read

theorem kind_of_ofPayload {kind : Kind} {payload : String} {v : Value} (read : ofPayload kind payload = .ok v) :
    v.kind = kind := by
  have found := readPayload?_of_ofPayload read
  cases kind <;> simp only [readPayload?, Option.map_eq_some_iff, Option.some.injEq] at found
  case text =>
    rw [← found]
    rfl
  all_goals
    obtain ⟨_, _, rfl⟩ := found
    rfl

/-- A value within the range of its kind, and a text of any kind: a percentage is at most a hundred, and numbers are
finite. -/
def InRange : Value → Prop
  | .decimal n => n.isFinite
  | .percent p => p.toNat ≤ 100
  | .point p => p.latitude.isFinite ∧ p.longitude.isFinite ∧ p.altitude.isFinite
  | .onOff _ | .openClosed _ | .step _ | .color _ | .time _ | .text _ => True

theorem fit_iff (v : Value) : v.Fit ↔ v.InRange ∧ ∀ s, v = .text s → Text.hasLineBreak s = false := by
  cases v with
  | text s => simp [Fit, InRange]
  | point p => simp [Fit, InRange, GeoPoint.isFinite, and_assoc]
  | onOff | openClosed | decimal | percent | step | color | time => simp [Fit, InRange]

theorem inRange_of_ofPayload {kind : Kind} {payload : String} {v : Value} (read : ofPayload kind payload = .ok v) :
    v.InRange := by
  have found := readPayload?_of_ofPayload read
  cases kind <;> simp only [readPayload?, Option.map_eq_some_iff, Option.some.injEq] at found
  case text =>
    rw [← found]
    trivial
  case decimal =>
    obtain ⟨n, number, rfl⟩ := found
    exact Number.isFinite_of_readFinite? number
  case percent =>
    obtain ⟨p, percentage, rfl⟩ := found
    obtain ⟨_, _, inside⟩ := Option.bind_eq_some_iff.mp percentage
    exact Number.toNat_percent? inside
  case point =>
    obtain ⟨p, position, rfl⟩ := found
    have finite := GeoPoint.isFinite_of_read? position
    rw [GeoPoint.isFinite, Bool.and_eq_true, Bool.and_eq_true, and_assoc] at finite
    exact finite
  all_goals
    obtain ⟨_, _, rfl⟩ := found
    trivial

theorem text_of_ofPayload {kind : Kind} {payload s : String} (read : ofPayload kind payload = .ok (.text s)) :
    s = payload := by
  obtain rfl := kind_of_ofPayload read
  exact Value.text.inj (Except.ok.inj read).symm

theorem fit_of_ofPayload {kind : Kind} {payload : String} {v : Value} (read : ofPayload kind payload = .ok v)
    (line : Text.hasLineBreak payload = false) : v.Fit := by
  refine (fit_iff v).mpr ⟨inRange_of_ofPayload read, ?_⟩
  rintro s rfl
  rwa [text_of_ofPayload read]

theorem carried_of_payload {v : Value} {channel : Channel} {payload : String}
    (spelled : v.payload channel = .ok payload) : v.kind ∈ channel.kinds := by
  unfold Value.payload at spelled
  split at spelled
  · assumption
  · cases spelled

theorem of_payload_text {s : String} {channel : Channel} {payload : String}
    (spelled : (Value.text s).payload channel = .ok payload) : s = payload ∧ Text.hasLineBreak s = false := by
  have carried := carried_of_payload spelled
  unfold Value.payload at spelled
  rw [if_pos carried] at spelled
  dsimp only at spelled
  split at spelled
  · cases spelled
  · rename_i line
    exact ⟨Except.ok.inj spelled, (Bool.not_eq_true _).mp line⟩

/-- A channel that carries the kind of a value carries the value, unless it is a text that does not fit on a line. -/
theorem payload_cases {v : Value} {channel : Channel} (carried : v.kind ∈ channel.kinds) :
    (∃ payload, v.payload channel = .ok payload) ∨
      ∃ s, v = .text s ∧ Text.hasLineBreak s = true ∧ v.payload channel = .error (.unrepresentable .text channel) := by
  unfold payload
  rw [if_pos carried]
  cases v with
  | text s =>
    cases breaks : Text.hasLineBreak s with
    | false => exact .inl ⟨s, by simp [breaks]⟩
    | true => exact .inr ⟨s, rfl, breaks, by simp [breaks]⟩
  | onOff | openClosed | decimal | percent | step | color | point | time => exact .inl ⟨_, rfl⟩

theorem exists_payload_iff (v : Value) (channel : Channel) :
    (∃ payload, v.payload channel = .ok payload) ↔
      v.kind ∈ channel.kinds ∧ ∀ s, v = .text s → Text.hasLineBreak s = false := by
  constructor
  · rintro ⟨payload, spelled⟩
    refine ⟨carried_of_payload spelled, ?_⟩
    rintro s rfl
    exact (of_payload_text spelled).2
  · rintro ⟨carried, line⟩
    rcases payload_cases carried with sent | ⟨s, text, breaks, _⟩
    · exact sent
    · exact nomatch (line s text).symm.trans breaks

/-- A channel that carries the kind of a value carries the value, if it is within its range. -/
theorem exists_payload {v : Value} {channel : Channel} (carried : v.kind ∈ channel.kinds) (fit : v.Fit) :
    ∃ payload, v.payload channel = .ok payload := by
  refine (exists_payload_iff v channel).mpr ⟨carried, ?_⟩
  rintro s rfl
  exact fit

end Value

end SensorGateway
