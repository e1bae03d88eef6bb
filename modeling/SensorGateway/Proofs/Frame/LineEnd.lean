import SensorGateway.Proofs.Frame.Grammar
import SensorGateway.Proofs.LineBuffer.Tail
import SensorGateway.Proofs.Text.Utf8

namespace SensorGateway

namespace Frame

/-- A line feed at the end makes no difference to the body of a line. -/
theorem lineBody_push (s : String) : lineBody (s.push '\n').toList = dropEnd '\r' s.toList := by
  rw [String.toList_push, lineBody, dropEnd_append_singleton]

theorem lineBody_of_notMem {line : List Char} (free : '\n' ∉ line) : lineBody line = dropEnd '\r' line := by
  rw [lineBody, dropEnd_of_notMem free]

/-- Decoding sees the body of a line only. -/
theorem decode_congr {first second : String} (same : lineBody first.toList = lineBody second.toList) :
    decode first = decode second := by
  rw [decode, decode, decodeChars, decodeChars, same]

namespace Fields

variable {p : Fields}

/-- If the first seven rules are kept, the payload is refused exactly for a line break. -/
theorem Keeps.read_eq_lineBreak_iff (keeps : p.Keeps 7) :
    p.read = .error (.rule .lineBreak) ↔ '\n' ∈ p.payload ∨ '\r' ∈ p.payload := by
  rw [read_eq_error_iff]
  constructor
  · rintro ⟨k, first⟩
    cases first.2 with
    | oneLine broken => exact broken
  · intro broken
    exact ⟨7, keeps, .oneLine broken⟩

/-- A carriage return more at the end of the payload is refused, but a fault in front of it is told first. -/
theorem read_return (p : Fields) :
    let more : Fields := { p with payload := p.payload ++ ['\r'] }
    (∀ e, p.read = .error e → more.read = .error e) ∧
      ∀ f, p.read = .ok f → more.read = .error (.rule .lineBreak) := by
  intro more
  have broken : '\n' ∈ more.payload ∨ '\r' ∈ more.payload := .inr (List.mem_append_right _ (List.mem_singleton_self _))
  constructor
  · intro e refused
    obtain ⟨k, keeps, breaks⟩ := (p.read_eq_error_iff e).mp refused
    refine (more.read_eq_error_iff e).mpr ⟨k, keeps.withPayload breaks.le _, ?_⟩
    rcases Nat.lt_or_eq_of_le breaks.le with earlier | rfl
    · exact breaks.withPayload earlier _
    · cases breaks with
      | oneLine _ => exact .oneLine broken
  · intro f read
    obtain ⟨_, kept⟩ := (p.read_eq_ok_iff f).mp read
    have keeps : p.Keeps 7 := fun j _ e => kept j e
    exact (keeps.withPayload (Nat.le_refl 7) _).read_eq_lineBreak_iff.mpr broken

/-- In front of the payload stand the other fields, each with its separator. -/
theorem Cuts.exists_head {body : List Char} (cuts : p.Cuts body) :
    ∃ head, body = head ++ p.payload ∧ head.getLast? = some ';' ∧
      ∀ payload, Cuts { p with payload } (head ++ payload) := by
  refine ⟨p.node ++ ';' :: p.sensor ++ ';' :: p.type ++ ';' :: p.ack ++ ';' :: p.topic ++ [';'], ?_,
    List.getLast?_concat, fun payload => ⟨?_, cuts.free⟩⟩
  · rw [cuts.whole, List.append_assoc _ [';']]
    rfl
  · rw [List.append_assoc _ [';']]
    rfl

end Fields

/-- A line with one carriage return more in its body is refused for it, but for an earlier fault if it has one. -/
theorem decode_return {line more : String} (longer : lineBody more.toList = lineBody line.toList ++ ['\r']) :
    (∀ e, decode line = .error e → decode more = .error e) ∧
      ∀ f, decode line = .ok f → decode more = .error (.rule .lineBreak) := by
  by_cases enough : 5 ≤ (lineBody line.toList).count ';'
  · obtain ⟨p, cuts⟩ := Fields.Cuts.exists_of_count enough
    obtain ⟨head, whole, _, others⟩ := cuts.exists_head
    have cuts' := others (p.payload ++ ['\r'])
    rw [← List.append_assoc, ← whole, ← longer] at cuts'
    rw [decode_of_cuts cuts, decode_of_cuts cuts']
    exact p.read_return
  · have same : (lineBody more.toList).count ';' = (lineBody line.toList).count ';' := by
      rw [longer, List.count_append]
      rfl
    rw [decode_of_count (Nat.lt_of_not_le enough), decode_of_count (same ▸ Nat.lt_of_not_le enough), same]
    exact ⟨fun e refused => refused, nofun⟩

end Frame

namespace LineBuffer

/-- Of a calm burst all is gathered, in whatever pieces it comes. -/
theorem Calm.gathered {buffer : LineBuffer} {pieces : List (List UInt8)}
    (calm : Calm (buffer.bytes ++ pieces.flatten)) :
    pieces.foldl pushed buffer = ⟨buffer.bytes ++ pieces.flatten⟩ := by
  induction pieces generalizing buffer with
  | nil => simp
  | cons piece pieces ih =>
    rw [List.flatten_cons, ← List.append_assoc] at calm ⊢
    have first : buffer.pushed piece = ⟨buffer.bytes ++ piece⟩ := by
      rw [pushed, (calm.part (List.prefix_append _ _).isInfix).push]
    rw [List.foldl_cons, first, ih calm]

theorem calm_line {line : List UInt8} (short : line.length ≤ capacity) : Calm (line ++ [lineFeed]) := by
  intro run inside runFree
  rcases infix_append_cons inside runFree with within | nothing
  · exact within.length_le.trans short
  · rw [List.infix_nil.mp nothing]
    exact Nat.zero_le _

theorem next_line {line : List UInt8} (free : lineFeed ∉ line) :
    (⟨line ++ [lineFeed]⟩ : LineBuffer).next = (lineText? line, empty) := by
  rw [next, nextOf_append_cons free]
  cases lineText? line with
  | some text => rfl
  | none => rw [nextOf_of_notMem List.not_mem_nil]; rfl

theorem lineFeed_notMem_utf8 {s : String} (oneLine : '\n' ∉ s.toList) : lineFeed ∉ Text.utf8 s :=
  fun member => oneLine (Text.mem_utf8_ascii (by decide : 10 < 128) member)

theorem utf8_push_lineFeed (s : String) : Text.utf8 (s.push '\n') = Text.utf8 s ++ [lineFeed] := by
  rw [Text.utf8, String.toList_push, List.flatMap_append]
  rfl

/-- A carriage return at the end is dropped from bytes as it is from characters. -/
theorem dropReturn_utf8 (s : String) :
    dropReturn (Text.utf8 s) = Text.utf8 (String.ofList (Frame.dropEnd '\r' s.toList)) := by
  rcases Frame.dropEnd_cases '\r' s.toList with ⟨rest, whole, dropped⟩ | ⟨last, dropped⟩
  · have bytes : Text.utf8 s = Text.utf8 (String.ofList rest) ++ [carriageReturn] := by
      rw [← String.ofList_toList (s := s), whole, Text.utf8_ofList_append]
      rfl
    rw [dropped, bytes, dropReturn, List.getLast?_concat, if_pos rfl, List.dropLast_concat]
  · rw [dropped, String.ofList_toList, dropReturn, if_neg]
    intro ends
    rcases List.eq_nil_or_concat' s.toList with nothing | ⟨rest, c, whole⟩
    · rw [(Text.utf8_eq_nil_iff s).mpr nothing] at ends
      cases ends
    · -- The last byte belongs to the last character, which must be a carriage return itself.
      have bytes : Text.utf8 s = Text.utf8 (String.ofList rest) ++ String.utf8EncodeChar c := by
        simp [Text.utf8, whole]
      rw [bytes, List.getLast?_append_of_ne_nil _ String.utf8EncodeChar_ne_nil] at ends
      obtain rfl := Text.mem_utf8EncodeChar_ascii (by decide : 13 < 128) (List.mem_of_getLast? ends)
      rw [whole, List.getLast?_concat] at last
      exact last rfl

theorem lineText?_utf8 (s : String) :
    lineText? (Text.utf8 s) =
      if Frame.dropEnd '\r' s.toList = [] then none else some (String.ofList (Frame.dropEnd '\r' s.toList)) := by
  rw [lineText?, dropReturn_utf8, Text.decodeLossy_utf8]
  simp only [List.isEmpty_iff, Text.utf8_eq_nil_iff, String.toList_ofList]

end LineBuffer

namespace Frame

/-- A text ends in two carriage returns. -/
def EndsTwice (s : String) : Prop :=
  ['\r', '\r'] <:+ s.toList

/-- What comes of a text as a line that was taken out of a buffer, and what comes of it directly. -/
structure Compared (s : String) (line? : Option String) (direct : Except DecodeError Frame) : Prop where
  /-- Only a lone carriage return is no line. -/
  skipped_iff : line? = none ↔ s = "\r"
  /-- Both come to the same, frame or error, unless the line is a frame and the text ends in two carriage returns. -/
  alike_iff : ∀ line, line? = some line → (decode line = direct ↔ ¬ (EndsTwice s ∧ ∃ f, decode line = .ok f))
  /-- In that case the text is directly refused for the first of the two. -/
  refused : ∀ line f, line? = some line → EndsTwice s → decode line = .ok f → direct = .error (.rule .lineBreak)
  /-- A payload with a carriage return in front of the one that ends the line is always refused directly, and as a line
  unless its only carriage return stands at its end. -/
  payload : ∀ (p : Fields) (body : List Char), s.toList = body ++ ['\r'] → p.Cuts body → p.Keeps 7 → '\r' ∈ p.payload →
    direct = .error (.rule .lineBreak) ∧
      ∃ line, line? = some line ∧
        (decode line = .error (.rule .lineBreak) ↔ ∃ before after, p.payload = before ++ '\r' :: after ∧ after ≠ [])

theorem endsTwice_iff (s : String) : EndsTwice s ↔ (dropEnd '\r' s.toList).getLast? = some '\r' := by
  constructor
  · rintro ⟨rest, whole⟩
    rw [← whole, List.append_cons, dropEnd_append_singleton, List.getLast?_concat]
  · intro last
    rcases dropEnd_cases '\r' s.toList with ⟨rest, whole, dropped⟩ | ⟨other, dropped⟩
    · rw [dropped] at last
      obtain ⟨front, rfl⟩ := List.getLast?_eq_some_iff.mp last
      exact ⟨front, by rw [whole, List.append_assoc, List.singleton_append]⟩
    · rw [dropped] at last
      exact absurd last other

/-- Of two carriage returns at the end, taking the line drops the one and decoding it the other. -/
theorem lineBody_taken_cases {s : String} (oneLine : '\n' ∉ s.toList) :
    let taken := String.ofList (dropEnd '\r' s.toList)
    (EndsTwice s ∧ lineBody s.toList = lineBody taken.toList ++ ['\r']) ∨
      (¬ EndsTwice s ∧ lineBody s.toList = lineBody taken.toList) := by
  intro taken
  have same : taken.toList = dropEnd '\r' s.toList := String.toList_ofList
  have free : '\n' ∉ taken.toList := fun member => oneLine (mem_of_mem_dropEnd (same ▸ member))
  rw [endsTwice_iff, lineBody_of_notMem oneLine, lineBody_of_notMem free, ← same]
  rcases dropEnd_cases '\r' taken.toList with ⟨rest, whole, dropped⟩ | ⟨last, dropped⟩
  · rw [dropped, whole]
    exact .inl ⟨List.getLast?_concat, rfl⟩
  · exact .inr ⟨last, dropped.symm⟩

theorem dropEnd_eq_nil_iff {s : String} (nonempty : s ≠ "") : dropEnd '\r' s.toList = [] ↔ s = "\r" := by
  constructor
  · intro nothing
    rcases dropEnd_cases '\r' s.toList with ⟨rest, whole, dropped⟩ | ⟨_, dropped⟩
    · rw [← dropped, nothing] at whole
      exact String.toList_injective whole
    · rw [dropped] at nothing
      exact absurd (String.toList_injective nothing) nonempty
  · rintro rfl
    rfl

theorem lineText?_return {s : String} {body : List Char} (whole : s.toList = body ++ ['\r']) (content : body ≠ []) :
    LineBuffer.lineText? (Text.utf8 s) = some (String.ofList body) := by
  rw [LineBuffer.lineText?_utf8, whole, dropEnd_append_singleton, if_neg content]

theorem mem_dropEnd_iff (c : Char) (line : List Char) :
    c ∈ dropEnd c line ↔ ∃ before after, line = before ++ c :: after ∧ after ≠ [] := by
  rcases dropEnd_cases c line with ⟨rest, rfl, dropped⟩ | ⟨last, dropped⟩
  · rw [dropped]
    constructor
    · intro member
      obtain ⟨before, after, rfl⟩ := List.append_of_mem member
      exact ⟨before, after ++ [c], List.append_assoc _ _ _, List.concat_ne_nil c after⟩
    · rintro ⟨before, after, whole, more⟩
      obtain ⟨after, d, rfl⟩ := (List.eq_nil_or_concat' after).resolve_left more
      rw [← List.cons_append, ← List.append_assoc] at whole
      rw [(List.append_inj' whole rfl).1]
      exact List.mem_append_right _ List.mem_cons_self
  · rw [dropped]
    constructor
    · intro member
      obtain ⟨before, after, rfl⟩ := List.append_of_mem member
      refine ⟨before, after, rfl, ?_⟩
      rintro rfl
      exact last List.getLast?_concat
    · rintro ⟨before, after, rfl, _⟩
      exact List.mem_append_right _ List.mem_cons_self

/-- A carriage return in the payload is seen if something stands behind it. -/
theorem decode_payload {s : String} (oneLine : '\n' ∉ s.toList) {p : Fields} (cuts : p.Cuts s.toList)
    (keeps : p.Keeps 7) :
    decode s = .error (.rule .lineBreak) ↔ ∃ before after, p.payload = before ++ '\r' :: after ∧ after ≠ [] := by
  obtain ⟨head, whole, last, others⟩ := cuts.exists_head
  have body : lineBody s.toList = head ++ dropEnd '\r' p.payload := by
    rw [lineBody_of_notMem oneLine, whole, dropEnd_append (by rw [last]; decide)]
  have noFeed : '\n' ∉ dropEnd '\r' p.payload := fun member =>
    oneLine (whole ▸ List.mem_append_right _ (mem_of_mem_dropEnd member))
  rw [decode_of_cuts (body ▸ others _), (keeps.withPayload (Nat.le_refl 7) _).read_eq_lineBreak_iff, ← mem_dropEnd_iff]
  exact or_iff_right noFeed

/-- What is read from the line that a text is taken as, and what is read from the text itself. -/
theorem decode_taken {s : String} (oneLine : '\n' ∉ s.toList) :
    let taken := String.ofList (dropEnd '\r' s.toList)
    (decode taken = decode s ↔ ¬ (EndsTwice s ∧ ∃ f, decode taken = .ok f)) ∧
      ∀ f, EndsTwice s → decode taken = .ok f → decode s = .error (.rule .lineBreak) := by
  intro taken
  rcases lineBody_taken_cases oneLine with ⟨twice, longer⟩ | ⟨once, same⟩
  · obtain ⟨errors, frames⟩ := decode_return longer
    refine ⟨?_, fun f _ => frames f⟩
    cases read : decode taken with
    | error e =>
      rw [errors e read]
      exact ⟨fun _ ⟨_, _, accepted⟩ => (nomatch accepted), fun _ => rfl⟩
    | ok f =>
      rw [frames f read]
      exact ⟨nofun, fun unlike => absurd ⟨twice, f, rfl⟩ unlike⟩
  · exact ⟨⟨fun _ both => once both.1, fun _ => (decode_congr same).symm⟩, fun _ twice => absurd twice once⟩

/-- The carriage return that ends a line does not hide one in front of it from decoding, but taking the line does if
nothing stands between them. -/
theorem decode_payload_return {s : String} (oneLine : '\n' ∉ s.toList) {p : Fields} {body : List Char}
    (whole : s.toList = body ++ ['\r']) (cuts : p.Cuts body) (keeps : p.Keeps 7) (broken : '\r' ∈ p.payload) :
    decode s = .error (.rule .lineBreak) ∧
      (decode (String.ofList body) = .error (.rule .lineBreak) ↔
        ∃ before after, p.payload = before ++ '\r' :: after ∧ after ≠ []) := by
  have direct : lineBody s.toList = body := by rw [lineBody_of_notMem oneLine, whole, dropEnd_append_singleton]
  have chars : (String.ofList body).toList = body := String.toList_ofList
  have free : '\n' ∉ (String.ofList body).toList := by
    rw [chars]
    exact fun member => oneLine (whole ▸ List.mem_append_left _ member)
  refine ⟨?_, decode_payload free (by rwa [chars]) keeps⟩
  rw [decode_of_cuts (direct ▸ cuts)]
  exact keeps.read_eq_lineBreak_iff.mpr (.inr broken)

theorem compared_lineText? {s : String} (nonempty : s ≠ "") (oneLine : '\n' ∉ s.toList) :
    Compared s (LineBuffer.lineText? (Text.utf8 s)) (decode s) := by
  have taken {line : String} (known : LineBuffer.lineText? (Text.utf8 s) = some line) :
      String.ofList (dropEnd '\r' s.toList) = line := by
    rw [LineBuffer.lineText?_utf8] at known
    split at known
    · cases known
    · exact Option.some.inj known
  obtain ⟨alike, refused⟩ := decode_taken oneLine
  refine ⟨?_, fun line known => ?_, fun line f known => ?_, fun p body whole cuts keeps broken => ?_⟩
  · rw [LineBuffer.lineText?_utf8, ← dropEnd_eq_nil_iff nonempty]
    split <;> simp [*]
  · obtain rfl := taken known
    exact alike
  · obtain rfl := taken known
    exact refused f
  · have content : body ≠ [] := by
      rintro rfl
      cases cuts.whole ▸ List.mem_append_right _ List.mem_cons_self
    obtain ⟨direct, seen⟩ := decode_payload_return oneLine whole cuts keeps broken
    exact ⟨direct, String.ofList body, lineText?_return whole content, seen⟩

/-- Where a frame ends, for texts of one line that fit into a buffer. However a text and its line feed, or the text
alone as an unterminated tail, come in pieces, the line that the buffer hands out for it compares with the text as
decoded directly, and nothing is left behind. -/
theorem framing_compared {s : String} (nonempty : s ≠ "") (oneLine : '\n' ∉ s.toList)
    (short : (Text.utf8 s).length ≤ LineBuffer.capacity) (pieces : List (List UInt8)) :
    let held := pieces.foldl LineBuffer.pushed .empty
    (pieces.flatten = Text.utf8 (s.push '\n') →
        held.next.2 = .empty ∧ Compared s held.next.1 (decode (s.push '\n'))) ∧
      (pieces.flatten = Text.utf8 s → held.next = (none, held) ∧ Compared s held.flush.1 (decode s)) := by
  intro held
  have free := LineBuffer.lineFeed_notMem_utf8 oneLine
  have calm := LineBuffer.calm_line short
  have compared := compared_lineText? nonempty oneLine
  constructor
  · intro come
    rw [LineBuffer.utf8_push_lineFeed] at come
    have gathered : held = ⟨Text.utf8 s ++ [LineBuffer.lineFeed]⟩ :=
      come ▸ LineBuffer.Calm.gathered (come ▸ calm)
    have same : decode (s.push '\n') = decode s :=
      decode_congr (by rw [lineBody_push, lineBody_of_notMem oneLine])
    rw [gathered, LineBuffer.next_line free, same]
    exact ⟨rfl, compared⟩
  · intro come
    have gathered : held = ⟨Text.utf8 s⟩ :=
      come ▸ LineBuffer.Calm.gathered (come ▸ calm.part (List.prefix_append _ _).isInfix)
    rw [gathered, LineBuffer.next, LineBuffer.nextOf_of_notMem free]
    exact ⟨rfl, compared⟩

/-- The fields of a line with a carriage return inside its payload. -/
def creased : Fields :=
  ⟨['5'], ['3'], ['1'], ['0'], ['4', '7'], ['a', '\r', 'b']⟩

theorem keeps_creased : creased.Keeps 7 := by
  have spell : Fields.Spell { creased with payload := [] } ⟨5, 3, false, .set .text, ""⟩ :=
    ⟨⟨0, by decide⟩, ⟨0, by decide⟩, ⟨0, by decide⟩, by decide, ⟨0, by decide⟩, by decide⟩
  exact spell.keeps (by decide) creased.payload

theorem framing_compared_inside :
    let ended := [Text.utf8 "5;3;1;0", Text.utf8 ";47;a\rb\r\n"].foldl LineBuffer.pushed .empty
    let tail := [Text.utf8 "5;3;1;0;47;a\rb\r"].foldl LineBuffer.pushed .empty
    decode "5;3;1;0;47;a\rb\r\n" = .error (.rule .lineBreak) ∧
      (∃ line, ended.next.1 = some line ∧ decode line = .error (.rule .lineBreak)) ∧
      ∃ line, tail.flush.1 = some line ∧ decode line = .error (.rule .lineBreak) := by
  intro ended tail
  have cuts : creased.Cuts (creased.node ++ ";3;1;0;47;a\rb".toList) := ⟨by decide, by decide⟩
  have broken : ∃ before after, creased.payload = before ++ '\r' :: after ∧ after ≠ [] := ⟨['a'], ['b'], rfl, by decide⟩
  have framed := framing_compared (s := "5;3;1;0;47;a\rb\r") (by decide) (by decide) (by decide)
  obtain ⟨ending, _⟩ := framed [Text.utf8 "5;3;1;0", Text.utf8 ";47;a\rb\r\n"]
  obtain ⟨_, flushing⟩ := framed [Text.utf8 "5;3;1;0;47;a\rb\r"]
  obtain ⟨_, compared⟩ := ending (by decide)
  obtain ⟨direct, line, handed, refused⟩ := compared.payload creased _ (by decide) cuts keeps_creased (by decide)
  obtain ⟨_, compared⟩ := flushing (by decide)
  obtain ⟨_, line', handed', refused'⟩ := compared.payload creased _ (by decide) cuts keeps_creased (by decide)
  exact ⟨direct, ⟨line, handed, refused.mpr broken⟩, line', handed', refused'.mpr broken⟩

/-- A frame that is refused directly may be read from a buffer. -/
theorem framing_differs :
    ¬ ∀ s : String, s ≠ "" → '\n' ∉ s.toList → (Text.utf8 s).length ≤ LineBuffer.capacity →
      ∀ line, (LineBuffer.empty.pushed (Text.utf8 (s.push '\n'))).next.1 = some line →
        decode line = decode (s.push '\n') := by
  intro alike
  have oneLine : '\n' ∉ "5;3;1;0;47;a\r\r".toList := by decide
  have free := LineBuffer.lineFeed_notMem_utf8 oneLine
  have whole : "5;3;1;0;47;a\r\r".toList = "5;3;1;0;47;a\r".toList ++ ['\r'] := by decide
  have handed : (LineBuffer.empty.pushed (Text.utf8 ("5;3;1;0;47;a\r\r".push '\n'))).next.1 =
      some "5;3;1;0;47;a\r" := by
    rw [LineBuffer.utf8_push_lineFeed, LineBuffer.pushed_of_mem (by simp), LineBuffer.empty, List.nil_append,
      LineBuffer.next_line free, lineText?_return whole (by decide), String.ofList_toList]
  have same := alike _ (by decide) oneLine (by decide) _ handed
  have read : decode "5;3;1;0;47;a\r" = .ok ⟨5, 3, false, .set .text, "a"⟩ := by decide
  have direct : decode ("5;3;1;0;47;a\r\r".push '\n') = .error (.rule .lineBreak) := by decide
  rw [read, direct] at same
  cases same

end Frame

end SensorGateway
