import SensorGateway.Proofs.Link.Delivery
import SensorGateway.Proofs.Link.Sending

namespace SensorGateway

namespace LineBuffer

/-- Bytes that may be cut here without cutting a line in two. -/
def Seam (before after : List UInt8) : Prop :=
  (∀ b ∈ before.getLast?, b = lineFeed) ∨ ∀ b ∈ after.head?, b = lineFeed

theorem Seam.drop {before part after : List UInt8} (seam : Seam before after) (last : part <:+ before) :
    Seam part after := by
  rcases seam with closed | opened
  · refine .inl fun b ends => closed b ?_
    obtain ⟨front, rfl⟩ := last
    rw [List.getLast?_append, Option.mem_def.mp ends]
    rfl
  · exact .inr opened

theorem Seam.lines_append {before after : List UInt8} (seam : Seam before after) :
    lines (before ++ after) = lines before ++ lines after := by
  have nothing : lines [] = [] := rfl
  rcases seam with closed | opened
  · rcases List.eq_nil_or_concat before with rfl | ⟨front, b, rfl⟩
    · rfl
    · obtain rfl := closed b (by simp)
      rw [List.concat_eq_append, List.append_assoc, List.singleton_append, lines_append_cons, lines_append_cons,
        nothing, List.append_nil]
  · cases after with
    | nil => rw [nothing, List.append_nil, List.append_nil]
    | cons b rest =>
      obtain rfl := opened b rfl
      rw [lines_append_cons, ← List.nil_append (lineFeed :: rest), lines_append_cons, nothing, List.nil_append]

end LineBuffer

namespace Arrival

/-- Scripts that feed bytes to a reader, `read` being those that were fed before. They come in any pieces, with
interruptions anywhere, and quiet times where `pause` allows them by what was read so far. In the end the stream is
quiet or has ended. -/
inductive Feeds (pause : List UInt8 → Prop) : List UInt8 → List UInt8 → List Arrival → Prop
  | atQuiet (read : List UInt8) : Feeds pause read [] [.quiet]
  | atEnd (read : List UInt8) : Feeds pause read [] [.ended]
  | data {read left : List UInt8} {script : List Arrival} (bytes : List UInt8) :
      Feeds pause (read ++ bytes) left script → Feeds pause read (bytes ++ left) (.data bytes :: script)
  | interrupted {read left : List UInt8} {script : List Arrival} :
      Feeds pause read left script → Feeds pause read left (.interrupted :: script)
  | quiet {read left : List UInt8} {script : List Arrival} :
      pause read → Feeds pause read left script → Feeds pause read left (.quiet :: script)

variable {pause : List UInt8 → Prop} {read left : List UInt8} {script : List Arrival}

theorem Feeds.infix_of_mem (fed : Feeds pause read left script) (held : List UInt8) :
    ∀ burst ∈ (bursts held script).2 :: (bursts held script).1, burst <:+: held ++ left := by
  induction fed generalizing held with
  | atQuiet | atEnd =>
    intro burst member
    rcases List.mem_cons.mp member with rfl | member
    · exact List.nil_infix
    · obtain rfl := List.mem_singleton.mp member
      exact (List.prefix_append _ []).isInfix
  | data bytes _ ih =>
    rw [← List.append_assoc]
    exact ih (held ++ bytes)
  | interrupted _ ih => exact ih held
  | quiet _ _ ih =>
    intro burst member
    have later : ∀ burst ∈ (bursts [] _).2 :: (bursts [] _).1, burst <:+: held ++ _ :=
      fun burst member => (ih [] burst member).trans (List.suffix_append held _).isInfix
    rcases List.mem_cons.mp member with rfl | member
    · exact later _ List.mem_cons_self
    · rcases List.mem_cons.mp member with rfl | member
      · exact (List.prefix_append _ _).isInfix
      · exact later burst (List.mem_cons_of_mem _ member)

/-- Where quiet times cut no line in two, the bursts hold the lines of all bytes together. -/
theorem Feeds.lines_bursts (fed : Feeds pause read left script)
    (seam : ∀ before after, pause before → before ++ after = read ++ left → LineBuffer.Seam before after)
    {held : List UInt8} (last : held <:+ read) :
    (bursts held script).1.flatMap LineBuffer.lines = LineBuffer.lines (held ++ left) := by
  induction fed generalizing held with
  | atQuiet | atEnd =>
    rw [List.append_nil]
    exact List.flatMap_singleton _ held
  | data bytes _ ih =>
    obtain ⟨front, rfl⟩ := last
    rw [← List.append_assoc]
    exact ih (fun before after allowed whole => seam before after allowed (by rw [whole, List.append_assoc]))
      ⟨front, (List.append_assoc front held bytes).symm⟩
  | interrupted _ ih => exact ih seam last
  | quiet allowed _ ih =>
    have rest := ih seam List.nil_suffix
    have cut := (seam _ _ allowed rfl).drop last
    rw [bursts, List.flatMap_cons, rest, cut.lines_append, List.nil_append]

end Arrival

namespace Frame

/-- What was read of frames on the wire is whole lines, or these and the next line without its line feed. -/
def Between (frames : List Frame) (read : List UInt8) : Prop :=
  ∃ done rest, frames = done ++ rest ∧
    (read = wire done ∨ ∃ f later, rest = f :: later ∧ read = wire done ++ f.line)

theorem getLast?_wire (frames : List Frame) : ∀ b ∈ (wire frames).getLast?, b = LineBuffer.lineFeed := by
  rcases List.eq_nil_or_concat frames with rfl | ⟨front, f, rfl⟩
  · exact nofun
  · intro b last
    have ends : wire (front.concat f) = wire front ++ f.line ++ [LineBuffer.lineFeed] := by
      rw [List.concat_eq_append, wire_append, wire_cons, List.append_assoc]
      rfl
    rw [ends, List.getLast?_concat] at last
    exact (Option.some.inj last).symm

theorem Between.seam {frames : List Frame} {read left : List UInt8} (between : Between frames read)
    (whole : read ++ left = wire frames) : LineBuffer.Seam read left := by
  obtain ⟨done, rest, rfl, rfl | ⟨f, later, rfl, rfl⟩⟩ := between
  · exact .inl (getLast?_wire done)
  · rw [wire_append, wire_cons, ← List.append_assoc, List.append_cancel_left_eq] at whole
    rw [whole]
    exact .inr fun b first => (Option.some.inj first).symm

end Frame

theorem Counts.after_bodies (counts : Counts) {frames : List Frame}
    (encodable : ∀ f ∈ frames, f.isEncodable = true) :
    counts.after (frames.map fun f => String.ofList f.bodyChars) =
      { counts with received := counts.received + frames.length } := by
  induction frames generalizing counts with
  | nil => rfl
  | cons f frames ih =>
    rw [List.map_cons, Counts.after_ok (Frame.decode_bodyChars (encodable f List.mem_cons_self)),
      ih _ fun g member => encodable g (List.mem_cons_of_mem _ member), List.length_cons,
      Nat.add_right_comm, Nat.add_assoc]

theorem Frame.ofLines_bodies {frames : List Frame} (encodable : ∀ f ∈ frames, f.isEncodable = true) :
    Frame.ofLines (frames.map fun f => String.ofList f.bodyChars) = frames := by
  induction frames with
  | nil => rfl
  | cons f frames ih =>
    rw [List.map_cons, Frame.ofLines_ok (Frame.decode_bodyChars (encodable f List.mem_cons_self)),
      ih fun g member => encodable g (List.mem_cons_of_mem _ member)]

section

open HoldsLink Recorded

variable {α ω σ : Type} [Device α] [Device ω] [HoldsLink ω σ] [LawfulHoldsLink ω σ] {handle : Frame → σ → σ}

/-- Frames that fit on lines and in the buffer, written to a link whose device takes their bytes and fed to another
link: every write succeeds, and the handler gets these frames, in order and once each. No line is dropped. -/
theorem transported {room : Nat → α → Prop} (roomy : Device.Roomy room) {sender : Link α}
    (isOpen : sender.closed = false) {frames : List Frame} (encodable : ∀ f ∈ frames, f.isEncodable = true)
    (short : ∀ f ∈ frames, f.line.length ≤ LineBuffer.capacity)
    (space : room (Frame.wire frames).length sender.device)
    (only : OnlyWrites handle) {s : σ} {labels : LinkLabels} {device : ω} (fresh : link s = .opened labels device)
    {events : List LinkEvent} (kept : .close ∉ events)
    (fed : Arrival.Feeds (Frame.Between frames) [] ((sender.writeAll frames).1.flatMap (·.emitted))
      (LinkEvent.script events)) :
    let final := events.foldl (happen (recording handle)) ⟨s, []⟩
    (sender.writeAll frames).1.map (·.accepted) = List.replicate frames.length true ∧
      final.delivered = frames ∧
      ∀ cause : DecodeError, (link final).counted .framesDropped [("reason", cause.reason)] = 0 := by
  intro final
  have sent := Link.writeAll_of_roomy roomy isOpen space encodable (Nat.le_refl _)
  have emitted : (sender.writeAll frames).1.flatMap (·.emitted) = Frame.wire frames := by
    rw [sent, List.flatMap_map]
    rfl
  rw [emitted] at fed
  have calm : ∀ burst ∈ (Arrival.bursts [] (LinkEvent.script events)).2 ::
      (Arrival.bursts [] (LinkEvent.script events)).1, LineBuffer.Calm burst :=
    fun burst member => (Frame.calm_wire encodable short).part (fed.infix_of_mem [] burst member)
  have lines : (Arrival.bursts [] (LinkEvent.script events)).1.flatMap LineBuffer.lines =
      frames.map fun f => String.ofList f.bodyChars := by
    rw [fed.lines_bursts (fun _ _ between whole => between.seam whole) (List.suffix_refl []), List.nil_append,
      Frame.lines_wire encodable]
  obtain ⟨delivered, _, counts⟩ := run_of_opened only fresh kept calm
  rw [lines, Frame.ofLines_bodies encodable] at delivered
  rw [lines, Counts.after_bodies _ encodable] at counts
  refine ⟨?_, delivered, fun cause => ?_⟩
  · rw [sent, List.map_map]
    exact List.map_const'
  · cases cause with
    | form => exact congrArg Counts.malformed counts
    | rule => exact congrArg Counts.refused counts

/-- Frames for a link that takes three bytes at a time. -/
def parcels : List Frame :=
  [.plain 5 3 (.set .text) "café", .plain 0 0 (.internal .version) ""]

/-- Such a link, with room for 64 bytes. -/
def narrow : Link Bench.Limits :=
  .opened ⟨"serial", "tty"⟩ ⟨some 64, some 3, false, false, []⟩

/-- A reader that gets a character in two parts, and waits in vain for the first line feed. -/
def unwrapped : List LinkEvent :=
  [.read (.data (Text.utf8 "5;3;1;0;47;caf" ++ [0xc3])), .read .interrupted, .read (.data [0xa9]), .read .quiet,
    .read (.data (Text.utf8 "\n0;0;3;")), .read (.data (Text.utf8 "0;2;\n")), .read .ended]

theorem transported_parcels :
    Bench.Limits.Room (Frame.wire parcels).length narrow.device ∧
      (narrow.writeAll parcels).1.map (·.accepted) = [true, true] ∧
      (unwrapped.foldl (happen (recording echo)) ⟨freshLine, []⟩).delivered = parcels := by
  have space : Bench.Limits.Room (Frame.wire parcels).length narrow.device := by
    have length : (Frame.wire parcels).length = 28 := by cbv
    rw [length]
    exact ⟨rfl, by decide, by decide⟩
  have emitted : (narrow.writeAll parcels).1.flatMap (·.emitted) =
      (Text.utf8 "5;3;1;0;47;caf" ++ [0xc3]) ++ ([0xa9] ++ (Text.utf8 "\n0;0;3;" ++ (Text.utf8 "0;2;\n" ++ []))) := by
    cbv
  have pause : Frame.Between parcels ([] ++ (Text.utf8 "5;3;1;0;47;caf" ++ [0xc3]) ++ [0xa9]) :=
    ⟨[], parcels, rfl, .inr ⟨_, _, rfl, by cbv⟩⟩
  have fed : Arrival.Feeds (Frame.Between parcels) [] ((narrow.writeAll parcels).1.flatMap (·.emitted))
      (LinkEvent.script unwrapped) := by
    rw [emitted]
    exact .data _ (.interrupted (.data _ (.quiet pause (.data _ (.data _ (.atEnd _))))))
  have arrived := transported Bench.Limits.roomy rfl (by decide : ∀ f ∈ parcels, f.isEncodable = true) (by decide) space
    onlyWrites_echo (s := freshLine) rfl (by decide : .close ∉ unwrapped) fed
  exact ⟨space, arrived.1, arrived.2.1⟩

end

end SensorGateway
