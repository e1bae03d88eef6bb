import SensorGateway.Vocabulary.Topic

namespace SensorGateway

/-- A signal, or a housekeeping word. -/
inductive Channel where
  | signal (signal : Signal)
  | housekeeping (housekeeping : Housekeeping)
  deriving DecidableEq, Repr

namespace Channel

/-- The number that stands for the channel on the wire. -/
def code : Channel → UInt8
  | .signal t => t.code
  | .housekeeping t => t.code

/-- The word for the channel. -/
def name : Channel → String
  | .signal t => t.name
  | .housekeeping t => t.name

/-- The kinds of value the channel can carry, the preferred one first. -/
def kinds : Channel → List Kind
  | .signal t => t.kinds
  | .housekeeping t => t.kinds

/-- A light that takes a full color, not only on and off. -/
def isColor : Channel → Bool
  | .signal t => t.isColor
  | .housekeeping _ => false

/-- The channel that a word stands for. Words that begin with `V_` are signals, those that begin
with `I_` housekeeping. -/
def ofName? (name : String) : Option Channel :=
  match name.toList with
  | 'V' :: '_' :: _ => (Signal.ofName? name).map Channel.signal
  | 'I' :: '_' :: _ => (Housekeeping.ofName? name).map Channel.housekeeping
  | _ => none

/-- The channel that a word stands for, or that it stands for none. -/
def ofName (name : String) : Except RuleError Channel :=
  match ofName? name with
  | some channel => .ok channel
  | none => .error (.unknownName name)

/-- What a frame is about that carries a value to the channel. -/
def subject : Channel → Subject
  | .signal t => .set t
  | .housekeeping t => .internal t

/-- The channel that a frame about this concerns, if any. -/
def ofSubject? : Subject → Option Channel
  | .set t | .request t => some (.signal t)
  | .internal t => some (.housekeeping t)
  | .presentation _ | .stream _ => none

theorem ofName?_name (c : Channel) : ofName? c.name = some c := by
  cases c with
  | signal t =>
    obtain ⟨rest, spelled⟩ := t.toList_name
    simp [ofName?, name, spelled, Signal.ofName?_name]
  | housekeeping t =>
    obtain ⟨rest, spelled⟩ := t.toList_name
    simp [ofName?, name, spelled, Housekeeping.ofName?_name]

theorem ofSubject?_subject (c : Channel) : ofSubject? c.subject = some c := by
  cases c <;> rfl

theorem name_inj {a b : Channel} (h : a.name = b.name) : a = b := by
  have := congrArg ofName? h
  simpa [ofName?_name] using this

end Channel

end SensorGateway
