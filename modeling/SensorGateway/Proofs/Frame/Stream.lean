import SensorGateway.Proofs.Frame.Wire
import SensorGateway.Proofs.LineBuffer
import SensorGateway.Proofs.Text.Utf8

namespace SensorGateway.Frame

/-- The bytes of the frame's line, the line feed left out. -/
def line (f : Frame) : List UInt8 :=
  Text.utf8 (String.ofList f.bodyChars)

/-- The bytes of frames on the wire, line after line. -/
def wire (frames : List Frame) : List UInt8 :=
  frames.flatMap fun f => Text.utf8 f.encode

theorem utf8_encode (f : Frame) : Text.utf8 f.encode = f.line ++ [LineBuffer.lineFeed] := by
  simp only [Text.utf8, line, encode, String.toList_ofList, List.flatMap_append]
  rfl

theorem wire_cons (f : Frame) (frames : List Frame) :
    wire (f :: frames) = f.line ++ LineBuffer.lineFeed :: wire frames := by
  simp only [wire, List.flatMap_cons, utf8_encode, List.append_assoc, List.singleton_append]

theorem wire_append (first second : List Frame) : wire (first ++ second) = wire first ++ wire second :=
  List.flatMap_append

theorem lineBreak_notMem_numberChars {c : Char} (ends : Text.isLineBreak c = true) (n : UInt8) :
    c ∉ numberChars n := by
  intro member
  have digit := Nat.isDigit_of_mem_toDigits (by decide) (by decide) member
  simp only [Text.isLineBreak, Bool.or_eq_true, beq_iff_eq] at ends
  rcases ends with rfl | rfl
  · exact absurd digit (by decide)
  · exact absurd digit (by decide)

theorem lineBreak_notMem_bodyChars {f : Frame} (encodable : f.isEncodable = true) {c : Char}
    (ends : Text.isLineBreak c = true) : c ∉ f.bodyChars := by
  have payload : c ∉ f.payload.toList := by
    intro member
    simp only [isEncodable, Text.hasLineBreak, Bool.not_eq_true', List.any_eq_false] at encodable
    exact encodable c member ends
  have separator : c ≠ ';' := by
    rintro rfl
    exact absurd ends (by decide)
  have ack : c ∉ ackChars f.ack := by
    intro member
    obtain rfl := List.mem_singleton.mp member
    cases asked : f.ack with
    | true => exact absurd (asked ▸ ends) (by decide)
    | false => exact absurd (asked ▸ ends) (by decide)
  simp only [bodyChars_eq, headChars, List.mem_append, List.mem_cons, List.not_mem_nil, or_false, not_or]
  simp [payload, separator, ack, lineBreak_notMem_numberChars ends]

/-- A byte of the line that stands for a line break would be one of the frame's characters. -/
theorem lineBreak_notMem_line {f : Frame} (encodable : f.isEncodable = true) {n : Nat} (small : n < 128)
    (ends : Text.isLineBreak (Char.ofNat n) = true) : UInt8.ofNat n ∉ f.line := by
  intro member
  have inside := Text.mem_utf8_ascii small member
  rw [String.toList_ofList] at inside
  exact lineBreak_notMem_bodyChars encodable ends inside

theorem lineFeed_notMem_line {f : Frame} (encodable : f.isEncodable = true) : LineBuffer.lineFeed ∉ f.line :=
  lineBreak_notMem_line encodable (by decide : 10 < 128) (by decide)

theorem line_ne_nil (f : Frame) : f.line ≠ [] := by
  rw [line, ne_eq, Text.utf8_eq_nil_iff, String.toList_ofList]
  simp [bodyChars]

/-- A reader takes the line of a frame for what it is. -/
theorem lineText?_line {f : Frame} (encodable : f.isEncodable = true) :
    LineBuffer.lineText? f.line = some (String.ofList f.bodyChars) := by
  have kept : LineBuffer.dropReturn f.line = f.line := by
    rw [LineBuffer.dropReturn, if_neg]
    intro last
    exact lineBreak_notMem_line encodable (by decide : 13 < 128) (by decide) (List.mem_of_getLast? last)
  rw [LineBuffer.lineText?, kept, if_neg (by simpa using f.line_ne_nil), line, Text.decodeLossy_utf8]

theorem decode_bodyChars {f : Frame} (encodable : f.isEncodable = true) :
    decode (String.ofList f.bodyChars) = .ok f := by
  have kept {c : Char} (ends : Text.isLineBreak c = true) : dropEnd c f.bodyChars = f.bodyChars :=
    dropEnd_of_notMem (lineBreak_notMem_bodyChars encodable ends)
  have body : lineBody (String.ofList f.bodyChars).toList = f.headChars ++ f.payload.toList := by
    rw [String.toList_ofList, lineBody, kept (by decide), kept (by decide), bodyChars_eq]
  rw [decode, decodeChars_of_lineBody f body, String.ofList_toList, checked_of_isEncodable encodable]
  rfl

/-- The lines of frames on the wire. -/
theorem lines_wire {frames : List Frame} (encodable : ∀ f ∈ frames, f.isEncodable = true) :
    LineBuffer.lines (wire frames) = frames.map fun f => String.ofList f.bodyChars := by
  induction frames with
  | nil => rfl
  | cons f frames ih =>
    have fits := encodable f List.mem_cons_self
    rw [wire_cons, LineBuffer.lines_append_cons, LineBuffer.lines_of_notMem (lineFeed_notMem_line fits),
      lineText?_line fits, ih fun g member => encodable g (List.mem_cons_of_mem _ member)]
    rfl

theorem splitOn_wire {frames : List Frame} (encodable : ∀ f ∈ frames, f.isEncodable = true) :
    (wire frames).splitOn LineBuffer.lineFeed = frames.map line ++ [[]] := by
  induction frames with
  | nil => rfl
  | cons f frames ih =>
    have free := lineFeed_notMem_line (encodable f List.mem_cons_self)
    rw [wire_cons, List.splitOn_append_cons_self_of_not_mem free,
      ih fun g member => encodable g (List.mem_cons_of_mem _ member)]
    rfl

theorem calm_wire {frames : List Frame} (encodable : ∀ f ∈ frames, f.isEncodable = true)
    (short : ∀ f ∈ frames, f.line.length ≤ LineBuffer.capacity) : LineBuffer.Calm (wire frames) := by
  refine LineBuffer.calm_of_pieces fun piece member => ?_
  rw [splitOn_wire encodable, List.mem_append, List.mem_map, List.mem_singleton] at member
  rcases member with ⟨f, sent, rfl⟩ | rfl
  · exact short f sent
  · exact Nat.zero_le _

end SensorGateway.Frame
