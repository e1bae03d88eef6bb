import Mathlib
import SensorGateway.Proofs.LineBuffer

namespace SensorGateway.LineBuffer

/-- What is kept of a stream of bytes: of each line that has ended, and of the bytes since the last line feed; `lost`
counts the other bytes. Noise is lost as a whole, once it is more than a buffer holds. -/
inductive Saved : List UInt8 → List (List UInt8) → List UInt8 → Nat → Prop
  | start : Saved [] [] [] 0
  | byte {stream tail : List UInt8} {lines : List (List UInt8)} {lost : Nat} {b : UInt8} :
      Saved stream lines tail lost → b ≠ lineFeed → Saved (stream ++ [b]) lines (tail ++ [b]) lost
  | lineFeed {stream tail : List UInt8} {lines : List (List UInt8)} {lost : Nat} :
      Saved stream lines tail lost → Saved (stream ++ [LineBuffer.lineFeed]) (lines ++ [tail]) [] lost
  | noise {stream tail : List UInt8} {lines : List (List UInt8)} {lost : Nat} :
      Saved stream lines tail lost → capacity < tail.length → Saved stream lines [] (lost + tail.length)

/-- What is kept of a line: its end, and all of it when it fits into a buffer. -/
def Survives (kept line : List UInt8) : Prop :=
  kept <:+ line ∧ (line.length ≤ capacity → kept = line)

section

variable {stream tail : List UInt8} {lines : List (List UInt8)} {lost : Nat} (saved : Saved stream lines tail lost)
include saved

theorem Saved.free : (∀ line ∈ lines, LineBuffer.lineFeed ∉ line) ∧ LineBuffer.lineFeed ∉ tail := by
  induction saved with
  | start => exact ⟨nofun, nofun⟩
  | byte _ other ih =>
    refine ⟨ih.1, fun member => ?_⟩
    rcases List.mem_append.mp member with member | member
    · exact ih.2 member
    · exact other (List.mem_singleton.mp member).symm
  | lineFeed _ ih =>
    refine ⟨fun line member => ?_, nofun⟩
    rcases List.mem_append.mp member with member | member
    · exact ih.1 line member
    · obtain rfl := List.mem_singleton.mp member
      exact ih.2
  | noise _ _ ih => exact ⟨ih.1, nofun⟩

/-- Each line of the stream survives, and so do the bytes after the last line feed. Kept and lost bytes are all the
bytes between line feeds. -/
theorem Saved.segments : ∃ ended last, stream = joined ended last ∧ (∀ line ∈ ended, LineBuffer.lineFeed ∉ line) ∧
    LineBuffer.lineFeed ∉ last ∧ List.Forall₂ Survives lines ended ∧ Survives tail last ∧
    lost + lines.flatten.length + tail.length = ended.flatten.length + last.length := by
  induction saved with
  | start => exact ⟨[], [], rfl, nofun, nofun, .nil, ⟨List.nil_suffix, fun _ => rfl⟩, rfl⟩
  | @byte stream tail lines lost b _ other ih =>
    obtain ⟨ended, last, rfl, free, lastFree, survive, ⟨suffix, whole⟩, sizes⟩ := ih
    refine ⟨ended, last ++ [b], joined_append _ _ _, free, ?_, survive, ⟨?_, fun fits => ?_⟩, ?_⟩
    · simpa using ⟨lastFree, other.symm⟩
    · obtain ⟨front, rfl⟩ := suffix
      exact ⟨front, (List.append_assoc _ _ _).symm⟩
    · rw [List.length_append] at fits
      rw [whole (by omega)]
    · simp only [List.length_append]
      omega
  | lineFeed _ ih =>
    obtain ⟨ended, last, rfl, free, lastFree, survive, tailSurvives, sizes⟩ := ih
    refine ⟨ended ++ [last], [], ?_, ?_, nofun, ?_, ⟨List.nil_suffix, fun _ => rfl⟩, ?_⟩
    · rw [joined_append, joined_concat]
    · intro line member
      rcases List.mem_append.mp member with member | member
      · exact free line member
      · obtain rfl := List.mem_singleton.mp member
        exact lastFree
    · exact List.rel_append survive (.cons tailSurvives .nil)
    · simp only [List.flatten_append, List.flatten_singleton, List.length_append, List.length_nil]
      omega
  | @noise _ tail _ _ _ long ih =>
    obtain ⟨ended, last, rfl, free, lastFree, survive, ⟨suffix, _⟩, sizes⟩ := ih
    have longer : capacity < last.length := Nat.lt_of_lt_of_le long suffix.length_le
    refine ⟨ended, last, rfl, free, lastFree, survive, ⟨List.nil_suffix, fun fits => ?_⟩, ?_⟩
    · omega
    · simp only [List.length_nil]
      omega

/-- More bytes of the stream, before anything of them is lost. -/
theorem Saved.append (data : List UInt8) : ∃ more rest, joined more rest = tail ++ data ∧
    Saved (stream ++ data) (lines ++ more) rest lost := by
  induction data using List.reverseRecOn with
  | nil => exact ⟨[], tail, by simp [joined], by simpa using saved⟩
  | append_singleton data b ih =>
    obtain ⟨more, rest, whole, later⟩ := ih
    rw [← List.append_assoc, ← List.append_assoc, ← whole]
    by_cases ends : b = LineBuffer.lineFeed
    · subst ends
      refine ⟨more ++ [rest], [], ?_, ?_⟩
      · rw [joined_append, joined_concat]
      · rw [← List.append_assoc]
        exact later.lineFeed
    · exact ⟨more, rest ++ [b], (joined_append _ _ _).symm, later.byte ends⟩

end

/-- What is done with a buffer: bytes are added, the next line is taken, or all lines are. -/
inductive Use where
  | push (data : List UInt8)
  | next
  | drain
  deriving DecidableEq, Repr

/-- A buffer in use, with the texts that it handed out and the number of bytes that it said were thrown away. -/
structure Usage where
  buffer : LineBuffer
  texts : List String
  discarded : Nat
  deriving DecidableEq, Repr

/-- The bytes that are added. -/
def Use.data : Use → List UInt8
  | .push data => data
  | .next | .drain => []

namespace Usage

/-- A buffer that was not used. -/
def fresh : Usage := ⟨.empty, [], 0⟩

/-- The buffer used once more. -/
def apply (usage : Usage) : Use → Usage
  | .push data =>
    let (discarded, buffer) := usage.buffer.push data
    { usage with buffer, discarded := usage.discarded + discarded }
  | .next =>
    let (text, buffer) := usage.buffer.next
    { usage with buffer, texts := usage.texts ++ text.toList }
  | .drain =>
    let (texts, buffer) := usage.buffer.drain
    { usage with buffer, texts := usage.texts ++ texts }

/-- A buffer in use holds what is kept of a stream, but for the lines that were taken. -/
structure Holds (usage : Usage) (stream : List UInt8) (taken waiting : List (List UInt8)) (tail : List UInt8) :
    Prop where
  saved : Saved stream (taken ++ waiting) tail usage.discarded
  bytes : usage.buffer.bytes = joined waiting tail
  texts : usage.texts = taken.filterMap lineText?

section

variable {usage : Usage} {stream tail : List UInt8} {taken waiting : List (List UInt8)}
  (holds : usage.Holds stream taken waiting tail)
include holds

theorem Holds.free : (∀ line ∈ waiting, lineFeed ∉ line) ∧ lineFeed ∉ tail :=
  ⟨fun line member => holds.saved.free.1 line (List.mem_append_right _ member), holds.saved.free.2⟩

theorem Holds.push (data : List UInt8) :
    ∃ waiting tail, (usage.apply (.push data)).Holds (stream ++ data) taken waiting tail := by
  obtain ⟨more, rest, whole, saved⟩ := holds.saved.append data
  rw [List.append_assoc] at saved
  have bytes : usage.buffer.bytes ++ data = joined (waiting ++ more) rest := by
    rw [holds.bytes, joined_append, ← whole]
    simp only [joined, List.flatMap_append, List.append_assoc]
  simp only [Usage.apply, LineBuffer.push, bytes]
  split
  · rename_i noise
    simp only [Bool.and_eq_true, decide_eq_true_eq, Bool.not_eq_true', List.contains_eq_mem,
      decide_eq_false_iff_not] at noise
    obtain ⟨long, free⟩ := noise
    -- Without a line feed there is no whole line, so what is thrown away has come since the last line feed.
    have none : waiting ++ more = [] := by
      cases known : waiting ++ more with
      | nil => rfl
      | cons line lines =>
        rw [known, joined_cons] at free
        exact absurd (List.mem_append_right _ List.mem_cons_self) free
    rw [none, List.append_nil] at saved
    have all : joined (waiting ++ more) rest = rest := by rw [none]; rfl
    rw [all] at long ⊢
    exact ⟨[], [], by simpa using saved.noise long, rfl, holds.texts⟩
  · exact ⟨waiting ++ more, rest, saved, rfl, holds.texts⟩

theorem Holds.next : ∃ taken waiting, (usage.apply .next).Holds stream taken waiting tail := by
  obtain ⟨first, later, rfl, text, rest⟩ := nextOf_joined holds.free.1 holds.free.2
  rw [← holds.bytes] at text rest
  refine ⟨taken ++ first, later, ?_, rest, ?_⟩
  · rw [List.append_assoc]
    exact holds.saved
  · rw [List.filterMap_append, ← text, ← holds.texts]
    rfl

theorem Holds.drain : (usage.apply .drain).Holds stream (taken ++ waiting) [] tail := by
  have drained := drainOf_joined holds.free.1 holds.free.2
  rw [← holds.bytes] at drained
  simp only [Usage.apply, LineBuffer.drain, drained]
  refine ⟨?_, rfl, ?_⟩
  · rw [List.append_nil]
    exact holds.saved
  · rw [List.filterMap_append, holds.texts]

theorem Holds.apply (use : Use) :
    ∃ taken waiting tail, (usage.apply use).Holds (stream ++ use.data) taken waiting tail := by
  cases use with
  | push data =>
    obtain ⟨waiting, tail, after⟩ := holds.push data
    exact ⟨taken, waiting, tail, after⟩
  | next =>
    obtain ⟨taken, waiting, after⟩ := holds.next
    exact ⟨taken, waiting, tail, by rwa [Use.data, List.append_nil]⟩
  | drain => exact ⟨taken ++ waiting, [], tail, by rw [Use.data, List.append_nil]; exact holds.drain⟩

end

theorem holds_after (uses : List Use) : ∃ taken waiting tail,
    (uses.foldl apply fresh).Holds (uses.flatMap Use.data) taken waiting tail := by
  induction uses using List.reverseRecOn with
  | nil => exact ⟨[], [], [], .start, rfl, rfl⟩
  | append_singleton uses use ih =>
    obtain ⟨taken, waiting, tail, holds⟩ := ih
    rw [List.foldl_append, List.flatMap_append, List.flatMap_singleton]
    exact holds.apply use

end Usage

/-- However a stream was cut into pieces and whenever lines were taken, once all lines are taken: of each line of the
stream an end is left, all of it when it is no longer than a buffer, and what was handed out are the texts of these, in
order; the buffer holds what is left of the bytes after the last line feed; and the bytes not left are those that were
said to be thrown away. -/
theorem lines_survive (uses : List Use) :
    let usage := (uses ++ [Use.drain]).foldl Usage.apply .fresh
    ∃ ended last kept, (uses.flatMap Use.data).splitOn lineFeed = ended ++ [last] ∧
      List.Forall₂ Survives kept ended ∧ Survives usage.buffer.bytes last ∧
      usage.texts = ((kept.map chomp).filter fun line => !line.isEmpty).map Text.decodeLossy ∧
      usage.discarded + kept.flatten.length + usage.buffer.bytes.length = ended.flatten.length + last.length := by
  intro usage
  obtain ⟨taken, waiting, tail, holds⟩ := Usage.holds_after uses
  have drained : usage.Holds (uses.flatMap Use.data) (taken ++ waiting) [] tail := by
    rw [show usage = (uses.foldl Usage.apply .fresh).apply .drain by
      simp only [usage, List.foldl_append, List.foldl_cons, List.foldl_nil]]
    exact holds.drain
  obtain ⟨saved, held, texts⟩ := drained
  rw [List.append_nil] at saved
  have held : usage.buffer.bytes = tail := held
  obtain ⟨ended, last, whole, free, lastFree, survive, tailSurvives, sizes⟩ := saved.segments
  rw [held]
  refine ⟨ended, last, taken ++ waiting, ?_, survive, tailSurvives, ?_, sizes⟩
  · rw [whole, splitOn_joined free lastFree]
  · rw [texts, filterMap_lineText?]

/-- Lines that fit into a buffer survive as they are. -/
theorem eq_of_survive {kept lines : List (List UInt8)} (survive : List.Forall₂ Survives kept lines)
    (short : ∀ line ∈ lines, line.length ≤ capacity) : kept = lines := by
  induction survive with
  | nil => rfl
  | cons first _ ih =>
    obtain ⟨fits, others⟩ := List.forall_mem_cons.mp short
    rw [first.2 fits, ih others]

/-- A stream that is cut within line ends, with a blank line in it and one that ends in two carriage returns. -/
def returning : List Use :=
  [.push (Text.utf8 "a\r"), .push (Text.utf8 "\n\r\nb\r"), .next, .push (Text.utf8 "\r\nc")]

/-- Of each line one carriage return goes, and the blank line is not handed out. -/
theorem lines_survive_returning :
    let usage := (returning ++ [Use.drain]).foldl Usage.apply .fresh
    usage.texts = ["a", "b\r"] ∧ usage.buffer.bytes = Text.utf8 "c" ∧ usage.discarded = 0 := by
  intro usage
  obtain ⟨ended, last, kept, cut, survive, lastSurvives, texts, sizes⟩ := lines_survive returning
  have pieces : (returning.flatMap Use.data).splitOn lineFeed =
      [Text.utf8 "a\r", Text.utf8 "\r", Text.utf8 "b\r\r"] ++ [Text.utf8 "c"] := by decide
  obtain ⟨rfl, same⟩ := List.append_inj' (pieces.symm.trans cut) rfl
  obtain rfl := List.singleton_injective same
  obtain rfl := eq_of_survive survive (by decide)
  have held : usage.buffer.bytes = Text.utf8 "c" := lastSurvives.2 (by decide)
  have handed : (([Text.utf8 "a\r", Text.utf8 "\r", Text.utf8 "b\r\r"].map chomp).filter
      fun line => !line.isEmpty).map Text.decodeLossy = ["a", "b\r"] := by cbv
  refine ⟨texts.trans handed, held, ?_⟩
  change usage.discarded + _ + usage.buffer.bytes.length = _ at sizes
  rw [held] at sizes
  omega

end SensorGateway.LineBuffer
