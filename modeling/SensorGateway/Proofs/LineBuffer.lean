import Mathlib.Data.List.Basic
import SensorGateway.LineBuffer

namespace SensorGateway.LineBuffer

/-- Bytes are a tail without a line feed, or a line, its line feed and more bytes. -/
theorem byLines {motive : List UInt8 → Prop} (tail : ∀ bytes, lineFeed ∉ bytes → motive bytes)
    (line : ∀ before after, lineFeed ∉ before → motive after → motive (before ++ lineFeed :: after))
    (bytes : List UInt8) : motive bytes := by
  by_cases found : lineFeed ∈ bytes
  · obtain ⟨before, after, whole, free⟩ := List.eq_append_cons_of_mem found
    rw [whole]
    exact line before after free (byLines tail line after)
  · exact tail bytes found
termination_by bytes.length
decreasing_by
  rw [whole, List.length_append, List.length_cons]
  omega

theorem cutLine?_append_cons {line : List UInt8} (free : lineFeed ∉ line) (rest : List UInt8) :
    cutLine? (line ++ lineFeed :: rest) = some (line, rest) := by
  induction line with
  | nil => rw [List.nil_append, cutLine?, if_pos rfl]
  | cons b line ih =>
    rw [List.cons_append, cutLine?, if_neg (List.ne_of_not_mem_cons free).symm,
      ih (List.not_mem_of_not_mem_cons free)]
    rfl

theorem cutLine?_of_notMem {bytes : List UInt8} (free : lineFeed ∉ bytes) : cutLine? bytes = none := by
  induction bytes with
  | nil => rfl
  | cons b bytes ih =>
    rw [cutLine?, if_neg (List.ne_of_not_mem_cons free).symm, ih (List.not_mem_of_not_mem_cons free)]
    rfl

theorem drainOf_append_cons {line : List UInt8} (free : lineFeed ∉ line) (rest : List UInt8) :
    drainOf (line ++ lineFeed :: rest) = ((lineText? line).toList ++ (drainOf rest).1, (drainOf rest).2) := by
  rw [drainOf]
  split
  · rename_i cut
    rw [cutLine?_append_cons free] at cut
    cases cut
  · rename_i cut
    rw [cutLine?_append_cons free] at cut
    cases cut
    rfl

theorem drainOf_of_notMem {bytes : List UInt8} (free : lineFeed ∉ bytes) : drainOf bytes = ([], bytes) := by
  rw [drainOf]
  split
  · rfl
  · rename_i cut
    rw [cutLine?_of_notMem free] at cut
    cases cut

/-- A piece of a stream without the byte 13 at its end, if it ends in one. -/
def chomp (piece : List UInt8) : List UInt8 :=
  (piece.dropSuffix? [13]).getD piece

theorem chomp_concat (piece : List UInt8) : chomp (piece ++ [13]) = piece := by
  have cut : (piece ++ [13]).dropSuffix? [13] = some piece :=
    List.dropSuffix?_eq_some_iff.mpr ⟨[13], rfl, beq_self_eq_true _⟩
  rw [chomp, cut, Option.getD_some]

theorem chomp_of_last {piece : List UInt8} (other : piece.getLast? ≠ some 13) : chomp piece = piece := by
  have whole : piece.dropSuffix? [13] = none := by
    refine Option.eq_none_iff_forall_ne_some.mpr fun front cut => ?_
    obtain ⟨suffix, rfl, same⟩ := List.dropSuffix?_eq_some_iff.mp cut
    rw [eq_of_beq same, List.getLast?_concat] at other
    exact other rfl
  rw [chomp, whole, Option.getD_none]

theorem dropReturn_eq_chomp (piece : List UInt8) : dropReturn piece = chomp piece := by
  by_cases last : piece.getLast? = some 13
  · obtain ⟨front, rfl⟩ := List.getLast?_eq_some_iff.mp last
    rw [dropReturn, carriageReturn, if_pos last, List.dropLast_concat, chomp_concat]
  · rw [dropReturn, carriageReturn, if_neg last, chomp_of_last last]

/-- The lines that a burst of bytes holds: its pieces between line feeds, the last one too, each without a
carriage return at its end; empty ones do not count. -/
def lines (burst : List UInt8) : List String :=
  (((burst.splitOn lineFeed).map chomp).filter fun line => !line.isEmpty).map Text.decodeLossy

/-- The texts of pieces: each without a carriage return at its end; empty ones have none. -/
theorem filterMap_lineText? (pieces : List (List UInt8)) :
    pieces.filterMap lineText? = ((pieces.map chomp).filter fun line => !line.isEmpty).map Text.decodeLossy := by
  induction pieces with
  | nil => rfl
  | cons piece pieces ih =>
    by_cases blank : (chomp piece).isEmpty = true <;> simpa [lineText?, dropReturn_eq_chomp, blank] using ih

theorem lines_eq_filterMap (burst : List UInt8) : lines burst = (burst.splitOn lineFeed).filterMap lineText? :=
  (filterMap_lineText? _).symm

theorem lines_of_notMem {bytes : List UInt8} (free : lineFeed ∉ bytes) : lines bytes = (lineText? bytes).toList := by
  rw [lines_eq_filterMap, List.splitOn_eq_singleton free]
  cases known : lineText? bytes <;> simp [known]

theorem lines_append_cons (before after : List UInt8) :
    lines (before ++ lineFeed :: after) = lines before ++ lines after := by
  simp only [lines_eq_filterMap, List.splitOn_append_cons_self, List.filterMap_append]

/-- Settling hands out the lines of all that was gathered, and leaves nothing. -/
theorem settle_eq (buffer : LineBuffer) : buffer.settle = (lines buffer.bytes, empty) := by
  have handed (bytes : List UInt8) :
      (drainOf bytes).1 ++ (lineText? (drainOf bytes).2).toList = lines bytes := by
    induction bytes using byLines with
    | tail bytes free => rw [drainOf_of_notMem free, lines_of_notMem free, List.nil_append]
    | line before after free ih =>
      rw [drainOf_append_cons free, lines_append_cons, lines_of_notMem free, ← ih, List.append_assoc]
  simp only [settle, drain, flush, handed]

/-- Takes the next whole line, or else everything as a last line. -/
def take (buffer : LineBuffer) : Option String × LineBuffer :=
  match buffer.next with
  | (some line, rest) => (some line, rest)
  | (none, rest) => rest.flush

theorem nextOf_of_notMem {bytes : List UInt8} (free : lineFeed ∉ bytes) : nextOf bytes = (none, bytes) := by
  rw [nextOf]
  split
  · rfl
  · rename_i cut
    rw [cutLine?_of_notMem free] at cut
    cases cut

theorem nextOf_append_cons {line : List UInt8} (free : lineFeed ∉ line) (rest : List UInt8) :
    nextOf (line ++ lineFeed :: rest) =
      match lineText? line with
      | some text => (some text, rest)
      | none => nextOf rest := by
  rw [nextOf]
  split
  · rename_i cut
    rw [cutLine?_append_cons free] at cut
    cases cut
  · rename_i cut
    rw [cutLine?_append_cons free] at cut
    cases cut
    rfl

/-- The next line is the first that is held; when there is none, what is left is a tail. -/
theorem lines_of_nextOf (bytes : List UInt8) :
    lines bytes = (nextOf bytes).1.toList ++ lines (nextOf bytes).2 ∧
      ((nextOf bytes).1 = none → lineFeed ∉ (nextOf bytes).2) := by
  induction bytes using byLines with
  | tail bytes free =>
    rw [nextOf_of_notMem free]
    exact ⟨rfl, fun _ => free⟩
  | line before after free ih =>
    rw [nextOf_append_cons free, lines_append_cons, lines_of_notMem free]
    cases lineText? before with
    | some text => exact ⟨rfl, fun nothing => nomatch nothing⟩
    | none => exact ih

/-- Draining is taking the next line for as long as there is one. -/
theorem drain_eq_next (buffer : LineBuffer) :
    buffer.drain =
      match buffer.next with
      | (some line, rest) => (line :: rest.drain.1, rest.drain.2)
      | (none, rest) => ([], rest) := by
  obtain ⟨bytes⟩ := buffer
  simp only [drain, next]
  induction bytes using byLines with
  | tail bytes free => rw [drainOf_of_notMem free, nextOf_of_notMem free]
  | line before after free ih =>
    rw [drainOf_append_cons free, nextOf_append_cons free]
    cases lineText? before with
    | some text => rfl
    | none => exact ih

/-- Settling is taking lines one after the other for as long as there are any. -/
theorem settle_eq_take (buffer : LineBuffer) :
    buffer.settle =
      match buffer.take with
      | (some line, rest) => (line :: rest.settle.1, empty)
      | (none, _) => ([], empty) := by
  obtain ⟨held, tail⟩ := lines_of_nextOf buffer.bytes
  simp only [settle_eq, take, next, flush]
  cases known : (nextOf buffer.bytes).1 with
  | some line => rw [held, known]; rfl
  | none =>
    rw [held, known, lines_of_notMem (tail known)]
    cases last : lineText? (nextOf buffer.bytes).2 with
    | some line =>
      simp only [last]
      rfl
    | none =>
      simp only [last]
      rfl

/-- Lines with their line feeds, and bytes after the last of them. -/
def joined (lines : List (List UInt8)) (tail : List UInt8) : List UInt8 :=
  (lines.flatMap fun line => line ++ [lineFeed]) ++ tail

theorem joined_cons (line : List UInt8) (lines : List (List UInt8)) (tail : List UInt8) :
    joined (line :: lines) tail = line ++ lineFeed :: joined lines tail := by
  simp only [joined, List.flatMap_cons, List.append_assoc, List.cons_append, List.nil_append]

theorem joined_append (lines : List (List UInt8)) (tail data : List UInt8) :
    joined lines tail ++ data = joined lines (tail ++ data) :=
  List.append_assoc _ _ _

theorem joined_concat (lines : List (List UInt8)) (tail : List UInt8) :
    joined (lines ++ [tail]) [] = joined lines (tail ++ [lineFeed]) := by
  simp only [joined, List.flatMap_append, List.flatMap_singleton, List.append_nil]

section

variable {lines : List (List UInt8)} (free : ∀ line ∈ lines, lineFeed ∉ line) {tail : List UInt8}
  (tailFree : lineFeed ∉ tail)
include free tailFree

theorem splitOn_joined : (joined lines tail).splitOn lineFeed = lines ++ [tail] := by
  induction lines with
  | nil => exact List.splitOn_eq_singleton tailFree
  | cons line lines ih =>
    rw [joined_cons, List.splitOn_append_cons_self_of_not_mem (free line List.mem_cons_self),
      ih fun other member => free other (List.mem_cons_of_mem _ member), List.cons_append]

theorem drainOf_joined : drainOf (joined lines tail) = (lines.filterMap lineText?, tail) := by
  induction lines with
  | nil => exact drainOf_of_notMem tailFree
  | cons line lines ih =>
    rw [joined_cons, drainOf_append_cons (free line List.mem_cons_self),
      ih fun other member => free other (List.mem_cons_of_mem _ member)]
    cases known : lineText? line <;> simp [known]

/-- The next line comes with the empty ones before it. -/
theorem nextOf_joined : ∃ taken waiting, lines = taken ++ waiting ∧
    (nextOf (joined lines tail)).1.toList = taken.filterMap lineText? ∧
    (nextOf (joined lines tail)).2 = joined waiting tail := by
  induction lines with
  | nil =>
    rw [joined, List.flatMap_nil, List.nil_append, nextOf_of_notMem tailFree]
    exact ⟨[], [], rfl, rfl, rfl⟩
  | cons line lines ih =>
    rw [joined_cons, nextOf_append_cons (free line List.mem_cons_self)]
    cases known : lineText? line with
    | some text => exact ⟨[line], lines, rfl, by simp [known], rfl⟩
    | none =>
      obtain ⟨taken, waiting, rfl, text, rest⟩ := ih fun other member => free other (List.mem_cons_of_mem _ member)
      exact ⟨line :: taken, waiting, rfl, by simp [known, text], rest⟩

end

/-- A burst without a run of more bytes than a buffer holds between line feeds. -/
def Calm (burst : List UInt8) : Prop :=
  ∀ run, run <:+: burst → lineFeed ∉ run → run.length ≤ capacity

theorem Calm.part {burst part : List UInt8} (calm : Calm burst) (within : part <:+: burst) : Calm part :=
  fun run inPart free => calm run (inPart.trans within) free

/-- Nothing of a calm burst is thrown away. -/
theorem Calm.push {buffer : LineBuffer} {data : List UInt8} (calm : Calm (buffer.bytes ++ data)) :
    buffer.push data = (0, ⟨buffer.bytes ++ data⟩) := by
  rw [LineBuffer.push]
  split
  · rename_i noise
    simp only [Bool.and_eq_true, decide_eq_true_eq, Bool.not_eq_true', List.contains_eq_mem,
      decide_eq_false_iff_not] at noise
    have bound := calm _ (List.infix_refl _) noise.2
    omega
  · rfl

theorem infix_append_cons {run before after : List UInt8} (inside : run <:+: before ++ lineFeed :: after)
    (free : lineFeed ∉ run) : run <:+: before ∨ run <:+: after := by
  have notPrefix {part : List UInt8} (start : part <+: lineFeed :: after) (partFree : lineFeed ∉ part) :
      part = [] := by
    rcases List.prefix_cons_iff.mp start with nothing | ⟨rest, rfl, _⟩
    · exact nothing
    · exact absurd List.mem_cons_self partFree
  rcases List.infix_append_iff.mp inside with left | right | ⟨part, rest, rfl, suffix, start⟩
  · exact Or.inl left
  · rcases List.infix_cons_iff.mp right with start | right
    · exact Or.inl (notPrefix start free ▸ List.nil_infix)
    · exact Or.inr right
  · have nothing := notPrefix start fun member => free (List.mem_append_right part member)
    rw [nothing, List.append_nil]
    exact Or.inl suffix.isInfix

/-- It is enough to measure the pieces between line feeds. -/
theorem calm_of_pieces {burst : List UInt8}
    (short : ∀ piece ∈ burst.splitOn lineFeed, piece.length ≤ capacity) : Calm burst := by
  induction burst using byLines with
  | tail bytes free =>
    intro run inside _
    rw [List.splitOn_eq_singleton free] at short
    exact Nat.le_trans inside.length_le (short bytes (List.mem_singleton_self _))
  | line before after free ih =>
    rw [List.splitOn_append_cons_self_of_not_mem free] at short
    intro run inside runFree
    rcases infix_append_cons inside runFree with left | right
    · exact Nat.le_trans left.length_le (short before List.mem_cons_self)
    · exact ih (fun piece member => short piece (List.mem_cons_of_mem _ member)) run right runFree

end SensorGateway.LineBuffer
