import Mathlib.Data.List.DropRight
import Mathlib.Data.List.Induction
import SensorGateway.Link.Reader
import SensorGateway.Proofs.LineBuffer

namespace SensorGateway

namespace LineBuffer

/-- The bytes after the last line feed, or all if there is none. -/
def tailOf (bytes : List UInt8) : List UInt8 :=
  bytes.rtakeWhile (· ≠ lineFeed)

/-- The part of a buffer that no line feed has ended yet. -/
def tail (buffer : LineBuffer) : List UInt8 :=
  tailOf buffer.bytes

theorem tailOf_of_notMem {bytes : List UInt8} (free : lineFeed ∉ bytes) : tailOf bytes = bytes := by
  rw [tailOf, List.rtakeWhile_eq_self_iff]
  intro b member
  have other : b ≠ lineFeed := fun same => free (same ▸ member)
  exact decide_eq_true other

theorem tailOf_append_of_notMem (bytes : List UInt8) {data : List UInt8} (free : lineFeed ∉ data) :
    tailOf (bytes ++ data) = tailOf bytes ++ data := by
  induction data using List.reverseRecOn with
  | nil => rw [List.append_nil, List.append_nil]
  | append_singleton data b ih =>
    have parts : lineFeed ∉ data ∧ lineFeed ≠ b := by simpa using free
    have other : decide (b ≠ lineFeed) = true := decide_eq_true parts.2.symm
    have earlier := ih parts.1
    rw [tailOf] at earlier ⊢
    rw [← List.append_assoc, List.rtakeWhile_concat_pos _ _ b other, earlier, List.append_assoc]

theorem tailOf_append_cons (before after : List UInt8) : tailOf (before ++ lineFeed :: after) = tailOf after := by
  induction after using byLines generalizing before with
  | tail after free =>
    have ended : tailOf (before ++ [lineFeed]) = [] := List.rtakeWhile_concat_neg _ _ lineFeed (by simp)
    rw [List.append_cons, tailOf_append_of_notMem _ free, ended, List.nil_append, tailOf_of_notMem free]
  | line line after _ ih =>
    have regrouped : before ++ lineFeed :: (line ++ lineFeed :: after) =
        (before ++ lineFeed :: line) ++ lineFeed :: after := by
      rw [List.append_assoc, List.cons_append]
    rw [regrouped, ih, ih]

theorem tailOf_append_of_mem (bytes : List UInt8) {data : List UInt8} (ends : lineFeed ∈ data) :
    tailOf (bytes ++ data) = tailOf data := by
  obtain ⟨before, after, rfl⟩ := List.append_of_mem ends
  rw [← List.append_assoc, tailOf_append_cons, tailOf_append_cons]

theorem length_tailOf_le (bytes : List UInt8) : (tailOf bytes).length ≤ bytes.length :=
  (List.rtakeWhile_suffix _ bytes).length_le

/-- Taking a line leaves the tail. -/
theorem tail_next (buffer : LineBuffer) : buffer.next.2.tail = buffer.tail := by
  have kept (bytes : List UInt8) : tailOf (nextOf bytes).2 = tailOf bytes := by
    induction bytes using byLines with
    | tail bytes free => rw [nextOf_of_notMem free]
    | line before after free ih =>
      rw [nextOf_append_cons free, tailOf_append_cons]
      cases lineText? before with
      | some text => rfl
      | none => exact ih
  exact kept buffer.bytes

/-- So does taking all lines. -/
theorem tail_drain (buffer : LineBuffer) : buffer.drain.2.tail = buffer.tail := by
  have kept (bytes : List UInt8) : tailOf (drainOf bytes).2 = tailOf bytes := by
    induction bytes using byLines with
    | tail bytes free => rw [drainOf_of_notMem free]
    | line before after free ih => rw [drainOf_append_cons free, tailOf_append_cons, ih]
  exact kept buffer.bytes

/-- Once all lines are taken no line feed is left. -/
theorem lineFeed_notMem_drain (buffer : LineBuffer) : lineFeed ∉ buffer.drain.2.bytes := by
  have gone (bytes : List UInt8) : lineFeed ∉ (drainOf bytes).2 := by
    induction bytes using byLines with
    | tail bytes free => rwa [drainOf_of_notMem free]
    | line before after free ih => rwa [drainOf_append_cons free]
  exact gone buffer.bytes

/-- The buffer with more bytes, but for noise. -/
def pushed (buffer : LineBuffer) (data : List UInt8) : LineBuffer :=
  (buffer.push data).2

/-- Nothing is thrown away while a line feed is held. -/
theorem pushed_of_mem {buffer : LineBuffer} {data : List UInt8} (ends : lineFeed ∈ buffer.bytes ++ data) :
    buffer.pushed data = ⟨buffer.bytes ++ data⟩ := by
  have found : (buffer.bytes ++ data).contains lineFeed = true := List.contains_iff_mem.mpr ends
  simp only [pushed, push, found, Bool.not_true, Bool.and_false, Bool.false_eq_true, if_false]

theorem pushed_of_notMem {buffer : LineBuffer} {data : List UInt8} (free : lineFeed ∉ buffer.bytes ++ data) :
    lineFeed ∉ (buffer.pushed data).bytes ∧ (buffer.pushed data).bytes.length ≤ capacity := by
  have missing : (buffer.bytes ++ data).contains lineFeed = false := by simpa using free
  simp only [pushed, push, missing, Bool.not_false, Bool.and_true, decide_eq_true_eq]
  split
  · exact ⟨List.not_mem_nil, Nat.zero_le _⟩
  · rename_i fits
    exact ⟨free, Nat.le_of_not_lt fits⟩

/-- A buffer that gets one piece of a stream after the other, with no line taken meanwhile. Once a line feed has come, it
stays, and all that comes after it stays too. -/
theorem flood (buffer : LineBuffer) (pieces : List (List UInt8)) :
    let stream := buffer.bytes ++ pieces.flatten
    let held := pieces.foldl pushed buffer
    (lineFeed ∈ stream → lineFeed ∈ held.bytes ∧ held.tail = tailOf stream) ∧
      (lineFeed ∉ stream → lineFeed ∉ held.bytes ∧ (pieces ≠ [] → held.bytes.length ≤ capacity)) := by
  induction pieces using List.reverseRecOn with
  | nil =>
    simp only [List.flatten_nil, List.append_nil, List.foldl_nil]
    exact ⟨fun ends => ⟨ends, rfl⟩, fun free => ⟨free, fun none => absurd rfl none⟩⟩
  | append_singleton pieces data ih =>
    simp only [List.flatten_append, List.flatten_singleton, ← List.append_assoc, List.foldl_append, List.foldl_cons,
      List.foldl_nil]
    obtain ⟨later, first⟩ := ih
    set stream := buffer.bytes ++ pieces.flatten
    set held := pieces.foldl pushed buffer
    -- Noise goes without taking a line feed along, so one is held exactly when one has come.
    have same : lineFeed ∈ stream ↔ lineFeed ∈ held.bytes :=
      ⟨fun ends => (later ends).1, fun ends => by_contra fun free => (first free).1 ends⟩
    have either : lineFeed ∈ stream ++ data ↔ lineFeed ∈ held.bytes ++ data :=
      List.mem_append.trans ((or_congr_left same).trans List.mem_append.symm)
    constructor
    · intro ends
      have mine := either.mp ends
      rw [pushed_of_mem mine]
      refine ⟨mine, ?_⟩
      change tailOf (held.bytes ++ data) = tailOf (stream ++ data)
      by_cases fresh : lineFeed ∈ data
      · rw [tailOf_append_of_mem _ fresh, tailOf_append_of_mem _ fresh]
      · have old : lineFeed ∈ stream := (List.mem_append.mp ends).resolve_right fresh
        have same : tailOf held.bytes = tailOf stream := (later old).2
        rw [tailOf_append_of_notMem _ fresh, tailOf_append_of_notMem _ fresh, same]
    · intro free
      have mine := pushed_of_notMem (mt either.mpr free)
      exact ⟨mine.1, fun _ => mine.2⟩

/-- What is done with a buffer. -/
inductive Move where
  | push (data : List UInt8)
  | next
  | drain
  | flush
  | clear
  deriving DecidableEq, Repr

/-- The buffer after a move. -/
def moved (buffer : LineBuffer) : Move → LineBuffer
  | .push data => buffer.pushed data
  | .next => buffer.next.2
  | .drain => buffer.drain.2
  | .flush => buffer.flush.2
  | .clear => .empty

/-- The buffer after moves. -/
def used (moves : List Move) : LineBuffer :=
  moves.foldl moved .empty

theorem used_concat (moves : List Move) (move : Move) : used (moves ++ [move]) = (used moves).moved move := by
  rw [used, List.foldl_append]
  rfl

/-- Whenever bytes are added all lines have been taken, and never are there more of them than a buffer holds. -/
inductive Prompt : List Move → Prop where
  | start : Prompt []
  | push {moves : List Move} {data : List UInt8} : Prompt moves → lineFeed ∉ (used moves).bytes →
    data.length ≤ capacity → Prompt (moves ++ [.push data])
  | other {moves : List Move} {move : Move} : Prompt moves → (∀ data, move ≠ .push data) → Prompt (moves ++ [move])

/-- The tail is bounded if lines are taken in time. -/
theorem Prompt.tail_le {moves : List Move} (prompt : Prompt moves) : (used moves).tail.length ≤ capacity := by
  induction prompt with
  | start => exact Nat.zero_le _
  | @push moves data _ taken short ih =>
    rw [used_concat, moved]
    by_cases ends : lineFeed ∈ data
    · have mine : lineFeed ∈ (used moves).bytes ++ data := List.mem_append_right _ ends
      rw [pushed_of_mem mine, tail, tailOf_append_of_mem _ ends]
      exact (length_tailOf_le data).trans short
    · have mine : lineFeed ∉ (used moves).bytes ++ data := fun member => (List.mem_append.mp member).elim taken ends
      exact (length_tailOf_le _).trans (pushed_of_notMem mine).2
  | @other moves move _ without ih =>
    rw [used_concat]
    cases move with
    | push data => exact absurd rfl (without data)
    | next => rwa [moved, tail_next]
    | drain => rwa [moved, tail_drain]
    | flush => exact Nat.zero_le _
    | clear => exact Nat.zero_le _

end LineBuffer

namespace Arrival

/-- The stream has neither gone quiet nor ended. -/
def Flows : Arrival → Prop
  | .data _ | .interrupted => True
  | .quiet | .ended | .failed => False

/-- The bytes of a read that gives some. -/
def bytes? : Arrival → Option (List UInt8)
  | .data bytes => some bytes
  | .quiet | .interrupted | .ended | .failed => none

end Arrival

namespace Link

variable {ω : Type}

/-- While a stream flows, a link that reads does nothing but to push what comes. -/
theorem buffer_receive_of_flows {link : Link ω} (reading : link.isReading = true) {arrivals : List Arrival}
    (flows : ∀ arrival ∈ arrivals, arrival.Flows) :
    (arrivals.foldl (fun link arrival => (link.receive arrival).2) link).buffer =
      (arrivals.filterMap Arrival.bytes?).foldl LineBuffer.pushed link.buffer := by
  induction arrivals generalizing link with
  | nil => rfl
  | cons arrival arrivals ih =>
    have later : ∀ other ∈ arrivals, other.Flows := fun other member => flows other (List.mem_cons_of_mem _ member)
    rw [List.foldl_cons]
    cases arrival with
    | data bytes =>
      have still : (link.gather bytes).isReading = true := by
        unfold gather
        dsimp only
        split
        · exact reading
        · exact reading
      have more : (link.gather bytes).buffer = link.buffer.pushed bytes := by
        unfold gather
        dsimp only
        split
        · rfl
        · rfl
      have read : (link.receive (.data bytes)).2 = link.gather bytes := by simp only [receive, reading, if_true]
      rw [read, ih still later, more]
      rfl
    | interrupted =>
      have read : (link.receive .interrupted).2 = link := by simp only [receive, reading, if_true]
      rw [read, ih reading later]
      rfl
    | quiet | ended | failed => exact (flows _ List.mem_cons_self).elim

end Link

namespace LineBuffer

/-- What is held behind the last line feed after any use of a buffer and pushes of any data. If a line feed was held
before or has come since, these are all the bytes since the last one, however many; if not, no more than a buffer holds.
They are no more as well if lines were always taken before a push. A link whose stream does not go quiet only pushes. -/
theorem tail_le_iff (moves : List Move) (data : List UInt8) (more : List (List UInt8)) :
    let before := used moves
    let stream := before.bytes ++ (data :: more).flatten
    let held := (data :: more).foldl pushed before
    (held.tail.length ≤ capacity ↔ lineFeed ∉ stream ∨ (tailOf stream).length ≤ capacity) ∧
      (lineFeed ∈ stream → held.tail = tailOf stream) ∧
      (Prompt (moves ++ [.push data]) → (before.pushed data).tail.length ≤ capacity) ∧
      ∀ {ω : Type} (link : Link ω) (arrivals : List Arrival), link.isReading = true → link.buffer = before →
        (∀ arrival ∈ arrivals, arrival.Flows) → arrivals.filterMap Arrival.bytes? = data :: more →
        (arrivals.foldl (fun link arrival => (link.receive arrival).2) link).buffer = held := by
  intro before stream held
  obtain ⟨later, first⟩ := flood before (data :: more)
  refine ⟨?_, fun ends => (later ends).2, ?_, ?_⟩
  · by_cases ends : lineFeed ∈ stream
    · have all : held.tail = tailOf stream := (later ends).2
      rw [all]
      exact ⟨.inr, fun either => either.resolve_left fun free => free ends⟩
    · have short : held.bytes.length ≤ capacity := (first ends).2 (List.cons_ne_nil _ _)
      exact ⟨fun _ => .inl ends, fun _ => (length_tailOf_le _).trans short⟩
  · intro prompt
    have bound := prompt.tail_le
    rwa [used_concat] at bound
  · intro ω link arrivals reading same flows come
    rw [Link.buffer_receive_of_flows reading flows, come, same]

/-- Bytes without a line feed. -/
def noise (n : Nat) : List UInt8 :=
  List.replicate n 120

theorem lineFeed_notMem_noise (n : Nat) : lineFeed ∉ noise n := by
  intro member
  exact absurd (List.eq_of_mem_replicate member) (by decide)

theorem tailOf_noise (n : Nat) : tailOf ([lineFeed] ++ noise n) = noise n := by
  rw [tailOf_append_of_notMem _ (lineFeed_notMem_noise n)]
  rfl

theorem tail_le_iff_noise :
    Prompt [.push [lineFeed], .drain, .push (noise 3)] ∧
      ((used [.push [lineFeed], .drain]).pushed (noise 3)).tail.length ≤ capacity ∧
      lineFeed ∈ [lineFeed] ++ noise 3 ∧
      (((Link.opened ⟨"network", "gateway:5003"⟩ ()).receive (.data ([lineFeed] ++ noise 3))).2.receive
        .interrupted).2.buffer.tail = noise 3 := by
  have pushed : Prompt [.push [lineFeed]] := @Prompt.push [] _ .start List.not_mem_nil (by decide)
  have drained : Prompt [.push [lineFeed], .drain] := @Prompt.other [.push [lineFeed]] _ pushed (by simp)
  have prompt : Prompt [.push [lineFeed], .drain, .push (noise 3)] :=
    @Prompt.push [.push [lineFeed], .drain] _ drained (lineFeed_notMem_drain _) (by decide)
  have ends : lineFeed ∈ [lineFeed] ++ noise 3 := List.mem_cons_self
  obtain ⟨_, _, bounded, _⟩ := tail_le_iff [.push [lineFeed], .drain] (noise 3) []
  obtain ⟨_, all, _, read⟩ := tail_le_iff [] ([lineFeed] ++ noise 3) []
  have held := read (Link.opened ⟨"network", "gateway:5003"⟩ ()) [.data ([lineFeed] ++ noise 3), .interrupted] rfl rfl
    (by simp [Arrival.Flows]) rfl
  refine ⟨prompt, bounded prompt, ends, ?_⟩
  have kept := all ends
  rw [← held] at kept
  exact kept.trans (tailOf_noise 3)

/-- The tail is not bounded in every use. -/
theorem tail_unbounded : ¬ ∀ moves data, ((used moves).pushed data).tail.length ≤ capacity := by
  intro bounded
  have bound := bounded [.push [lineFeed]] (noise (capacity + 1))
  have ends : lineFeed ∈ [lineFeed] ++ noise (capacity + 1) := List.mem_cons_self
  have start : used [.push [lineFeed]] = ⟨[lineFeed]⟩ := by rfl
  rw [start, pushed_of_mem ends, tail, tailOf_noise, noise, List.length_replicate] at bound
  exact absurd bound (Nat.not_succ_le_self _)

/-- Nor is it in a stream that comes in small pieces, whatever the bound. -/
theorem flood_unbounded (limit : Nat) : ∃ pieces : List (List UInt8),
    (∀ piece ∈ pieces, piece.length ≤ Arrival.chunkSize) ∧ limit < (pieces.foldl pushed .empty).tail.length := by
  let pieces : List (List UInt8) := [lineFeed] :: List.replicate (limit + 1) (noise 1)
  have stream : pieces.flatten = [lineFeed] ++ noise (limit + 1) := by
    have ones : (List.replicate (limit + 1) (noise 1)).flatten = noise (limit + 1) := by
      simp [noise]
    rw [List.flatten_cons, ones]
  have ends : lineFeed ∈ LineBuffer.empty.bytes ++ pieces.flatten := List.mem_cons_self
  have all : (pieces.foldl pushed .empty).tail = tailOf pieces.flatten := ((flood .empty pieces).1 ends).2
  refine ⟨pieces, ?_, ?_⟩
  · intro piece member
    rcases List.mem_cons.mp member with rfl | member
    · decide
    · rw [List.eq_of_mem_replicate member]
      decide
  · rw [all, stream, tailOf_noise, noise, List.length_replicate]
    exact Nat.lt_succ_self limit

end LineBuffer

end SensorGateway
