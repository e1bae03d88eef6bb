import SensorGateway.Frame.Wire

namespace SensorGateway.Frame

theorem dropEnd_append {c : Char} {before : List Char} (apart : before.getLast? ≠ some c) (after : List Char) :
    dropEnd c (before ++ after) = before ++ dropEnd c after := by
  cases after with
  | nil => simp [dropEnd, apart]
  | cons d after => by_cases last : (d :: after).getLast? = some c <;> simp [dropEnd, List.getLast?_append, last]

theorem dropEnd_append_singleton (c : Char) (line : List Char) : dropEnd c (line ++ [c]) = line := by
  simp [dropEnd]

theorem dropEnd_of_last {c : Char} {line : List Char} (other : line.getLast? ≠ some c) : dropEnd c line = line := by
  rw [dropEnd, if_neg other]

theorem dropEnd_cases (c : Char) (line : List Char) :
    (∃ rest, line = rest ++ [c] ∧ dropEnd c line = rest) ∨ (line.getLast? ≠ some c ∧ dropEnd c line = line) := by
  by_cases last : line.getLast? = some c
  · obtain ⟨rest, rfl⟩ := List.getLast?_eq_some_iff.mp last
    exact .inl ⟨rest, rfl, dropEnd_append_singleton c rest⟩
  · exact .inr ⟨last, dropEnd_of_last last⟩

theorem mem_of_mem_dropEnd {c d : Char} {line : List Char} (member : d ∈ dropEnd c line) : d ∈ line := by
  rcases dropEnd_cases c line with ⟨rest, rfl, dropped⟩ | ⟨_, dropped⟩
  · rw [dropped] at member
    exact List.mem_append_left _ member
  · rwa [dropped] at member

theorem dropEnd_of_notMem {c : Char} {line : List Char} (free : c ∉ line) : dropEnd c line = line :=
  dropEnd_of_last fun last => free (List.mem_of_getLast? last)

theorem cutFields_append_cons {field : List Char} (free : ';' ∉ field) (cuts : Nat) (rest : List Char) :
    cutFields (cuts + 1) (field ++ ';' :: rest) = field :: cutFields cuts rest := by
  have stays : ∀ c ∈ field, (c != ';') = true := by
    intro c member
    simp only [bne_iff_ne]
    rintro rfl
    exact free member
  rw [cutFields, List.dropWhile_append_of_pos stays, List.takeWhile_append_of_pos stays]
  simp

theorem separator_notMem_numberChars (n : UInt8) : ';' ∉ numberChars n := by
  intro member
  have digit := Nat.isDigit_of_mem_toDigits (by decide) (by decide) member
  exact absurd digit (by decide)

theorem readNumber_numberChars (field : Field) (n : UInt8) : readNumber field (numberChars n) = .ok n := by
  rw [readNumber, numberChars, Text.readByte?_toDigits]

/-- The ack field as characters. -/
def ackChars (ack : Bool) : List Char :=
  [if ack then '1' else '0']

theorem readAck_ackChars (ack : Bool) : readAck (ackChars ack) = .ok ack := by
  cases ack <;> rfl

theorem separator_notMem_ackChars (ack : Bool) : ';' ∉ ackChars ack := by
  cases ack <;> decide

/-- The first five fields of a frame's line, with the separators after them. -/
def headChars (f : Frame) : List Char :=
  numberChars f.node ++ ';' :: numberChars f.sensor ++ ';' :: numberChars f.type.code ++ ';' ::
    ackChars f.ack ++ ';' :: numberChars f.topic.code ++ [';']

theorem bodyChars_eq (f : Frame) : f.bodyChars = f.headChars ++ f.payload.toList := by
  simp [bodyChars, headChars, ackChars]

/-- The first five fields are cut off as they were written; separators in the payload stay in it. -/
theorem cutFields_headChars (f : Frame) (payload : List Char) :
    cutFields 5 (f.headChars ++ payload) =
      [numberChars f.node, numberChars f.sensor, numberChars f.type.code, ackChars f.ack,
        numberChars f.topic.code, payload] := by
  simp only [headChars, List.append_assoc, List.cons_append, List.nil_append]
  rw [cutFields_append_cons (separator_notMem_numberChars _), cutFields_append_cons (separator_notMem_numberChars _),
    cutFields_append_cons (separator_notMem_numberChars _), cutFields_append_cons (separator_notMem_ackChars _),
    cutFields_append_cons (separator_notMem_numberChars _), cutFields]

theorem ofCode_code (f : Frame) (payload : String) :
    ofCode f.node f.sensor f.type f.ack f.topic.code payload = checked { f with payload } := by
  rw [ofCode, type, topic, Subject.ofCode_code]
  rfl

/-- Reading the fields that a frame was written as leaves the check of the payload. -/
theorem ofFields_chars (f : Frame) (payload : List Char) :
    ofFields (numberChars f.node) (numberChars f.sensor) (numberChars f.type.code) (ackChars f.ack)
        (numberChars f.topic.code) payload =
      (checked { f with payload := String.ofList payload }).mapError .rule := by
  have known : FrameType.ofCode f.type.code = .ok f.type := by
    rw [FrameType.ofCode, FrameType.ofCode?_code]
  simp only [ofFields, readNumber_numberChars, readAck_ackChars, ← ofCode_code]
  change Except.mapError _ (do ofCode f.node f.sensor (← FrameType.ofCode f.type.code) _ _ _) = _
  rw [known]
  rfl

theorem decodeChars_of_lineBody (f : Frame) {line payload : List Char}
    (body : lineBody line = f.headChars ++ payload) :
    decodeChars line = (checked { f with payload := String.ofList payload }).mapError .rule := by
  rw [decodeChars, body, cutFields_headChars]
  exact ofFields_chars f payload

/-- The line feed that ends a frame's line is taken off again, and so is a carriage return at the end of the
payload. -/
theorem lineBody_encode (f : Frame) :
    lineBody f.encode.toList = f.headChars ++ dropEnd '\r' f.payload.toList := by
  have last : f.headChars.getLast? ≠ some '\r' := by
    rw [headChars, List.getLast?_concat]
    decide
  rw [encode, String.toList_ofList, lineBody, dropEnd_append_singleton, bodyChars_eq, dropEnd_append last]

/-- Decoding what a frame was encoded as checks the frame again, less one carriage return at the end of its
payload. -/
theorem decode_encode (f : Frame) :
    decode f.encode =
      (checked { f with payload := String.ofList (dropEnd '\r' f.payload.toList) }).mapError .rule :=
  decodeChars_of_lineBody f f.lineBody_encode

theorem checked_of_isEncodable {f : Frame} (encodable : f.isEncodable = true) : checked f = .ok f := by
  rw [checked, if_pos encodable]

theorem checked_of_not_isEncodable {f : Frame} (broken : f.isEncodable = false) :
    checked f = .error .lineBreak := by
  rw [checked, broken, if_neg Bool.false_ne_true]

/-- A payload without line breaks loses nothing at its end. -/
theorem dropEnd_payload {f : Frame} (encodable : f.isEncodable = true) :
    dropEnd '\r' f.payload.toList = f.payload.toList := by
  refine dropEnd_of_notMem fun member => ?_
  simp only [isEncodable, Text.hasLineBreak, Bool.not_eq_true', List.any_eq_false] at encodable
  exact encodable _ member rfl

theorem decode_encode_of_isEncodable {f : Frame} (encodable : f.isEncodable = true) :
    decode f.encode = .ok f := by
  rw [decode_encode, dropEnd_payload encodable, String.ofList_toList, checked_of_isEncodable encodable]
  rfl

theorem isEncodable_of_checked {f g : Frame} (passed : checked f = .ok g) : g = f ∧ f.isEncodable = true := by
  unfold checked at passed
  split at passed
  · rename_i encodable
    cases passed
    exact ⟨rfl, encodable⟩
  · cases passed

theorem decode_encode_iff (f : Frame) : decode f.encode = .ok f ↔ f.isEncodable = true := by
  constructor
  · intro same
    rw [decode_encode] at same
    cases passed : checked { f with payload := String.ofList (dropEnd '\r' f.payload.toList) } with
    | error cause =>
      rw [passed] at same
      cases same
    | ok g =>
      obtain ⟨whole, encodable⟩ := isEncodable_of_checked passed
      rw [passed] at same
      cases same
      rwa [← whole] at encodable
  · exact decode_encode_of_isEncodable

/-- A payload that ends in its only line break, a carriage return, loses it. -/
theorem decode_encode_push {f : Frame} {body : String} (ends : f.payload = body.push '\r')
    (free : Text.hasLineBreak body = false) : decode f.encode = .ok { f with payload := body } := by
  have kept : String.ofList (dropEnd '\r' f.payload.toList) = body := by
    rw [ends, String.toList_push, dropEnd_append_singleton, String.ofList_toList]
  have encodable : isEncodable { f with payload := body } = true := by
    simp only [isEncodable, free, Bool.not_false]
  rw [decode_encode, kept, checked_of_isEncodable encodable]
  rfl

/-- Any other line break in a payload makes decoding refuse the line. -/
theorem decode_encode_of_not_isEncodable {f : Frame} (broken : f.isEncodable = false)
    (other : ∀ body : String, f.payload = body.push '\r' → Text.hasLineBreak body = true) :
    decode f.encode = .error (.rule .lineBreak) := by
  have still : isEncodable { f with payload := String.ofList (dropEnd '\r' f.payload.toList) } = false := by
    by_cases last : f.payload.toList.getLast? = some '\r'
    · obtain ⟨chars, spelled⟩ := List.getLast?_eq_some_iff.mp last
      have ends : f.payload = (String.ofList chars).push '\r' := by
        rw [← String.toList_inj, String.toList_push, String.toList_ofList, spelled]
      rw [spelled, dropEnd_append_singleton, isEncodable, other _ ends, Bool.not_true]
    · rw [dropEnd, if_neg last, String.ofList_toList]
      exact broken
  rw [decode_encode, checked_of_not_isEncodable still]
  rfl

end SensorGateway.Frame
