import Mathlib
import SensorGateway.Proofs.Link.Sending

namespace SensorGateway

namespace Link

variable {ω : Type} [Device ω]

/-- The link after writing frames. -/
def afterAll (link : Link ω) (frames : List Frame) : Link ω :=
  (link.writeAll frames).2

/-- The bytes that reach the device while frames are written. -/
def emitted (link : Link ω) (frames : List Frame) : List UInt8 :=
  (link.writeAll frames).1.flatMap (·.emitted)

theorem writeAll_concat (link : Link ω) (frames : List Frame) (f : Frame) :
    link.writeAll (frames ++ [f]) =
      ((link.writeAll frames).1 ++ [((link.afterAll frames).write f).1], ((link.afterAll frames).write f).2) := by
  induction frames generalizing link with
  | nil => rfl
  | cons g frames ih =>
    simp only [afterAll, List.cons_append, writeAll] at ih ⊢
    rw [ih]

theorem emitted_concat (link : Link ω) (frames : List Frame) (f : Frame) :
    link.emitted (frames ++ [f]) = link.emitted frames ++ ((link.afterAll frames).write f).1.emitted := by
  rw [emitted, writeAll_concat, List.flatMap_append, List.flatMap_singleton, ← emitted]

theorem afterAll_concat (link : Link ω) (frames : List Frame) (f : Frame) :
    link.afterAll (frames ++ [f]) = ((link.afterAll frames).write f).2 := by
  rw [afterAll, writeAll_concat]

theorem sendLine_sent (f : Frame) (device : ω) :
    (sendLine f device).2.1 <+: Text.utf8 f.encode ∧
      ((sendLine f device).1 = true → (sendLine f device).2.1 = Text.utf8 f.encode) := by
  obtain ⟨start, complete⟩ := transmit_sent (Text.utf8 f.encode) device
  refine ⟨start, fun done => complete ?_⟩
  cases all : (transmit (Text.utf8 f.encode) device).1 with
  | true => rfl
  | false => simp [sendLine, all] at done

/-- On a link that is open, and for a frame that fits on a line, the device decides. -/
theorem write_of_open {link : Link ω} {f : Frame} (isOpen : link.closed = false) (encodable : f.isEncodable = true) :
    (link.write f).1 = ⟨(sendLine f link.device).1, (sendLine f link.device).2.1⟩ ∧
      (link.write f).2.device = (sendLine f link.device).2.2 ∧
      ((sendLine f link.device).1 = false → (link.write f).2.failing = true) := by
  simp only [write_eq, isOpen, encodable, Bool.not_true, Bool.or_self, Bool.false_eq_true, if_false]
  by_cases done : (sendLine f link.device).1 = true
  · rw [if_pos done]
    exact ⟨by rw [done], rfl, fun stopped => nomatch done.symm.trans stopped⟩
  · rw [if_neg done]
    exact ⟨by rw [Bool.eq_false_of_not_eq_true done], rfl, fun _ => rfl⟩

/-- Writing a frame sends its whole line. -/
def SendsWhole (link : Link ω) (f : Frame) : Prop :=
  (link.write f).1.emitted = Text.utf8 f.encode

/-- Writing a frame stops partway: something of its line is sent, but not all of it. -/
def Tears (link : Link ω) (f : Frame) : Prop :=
  (link.write f).1.emitted ≠ [] ∧ ¬ link.SendsWhole f

/-- Writing a frame sends nothing, or the whole line, or the beginning of the line, and then the link is failing. -/
theorem write_cases (link : Link ω) (f : Frame) :
    ((link.write f).1.emitted = [] ∧ (link.write f).1.accepted = false) ∨
      (f.isEncodable = true ∧ link.SendsWhole f) ∨
      (f.isEncodable = true ∧ link.Tears f ∧ (link.write f).1.emitted <+: f.line ∧
        (link.write f).1.accepted = false ∧ (link.write f).2.failing = true) := by
  by_cases refused : (link.closed || !f.isEncodable) = true
  · rw [write_eq, if_pos refused]
    exact .inl ⟨rfl, rfl⟩
  obtain ⟨isOpen, encodable⟩ : link.closed = false ∧ f.isEncodable = true := by simpa using refused
  obtain ⟨start, complete⟩ := sendLine_sent f link.device
  obtain ⟨outcome, _, failing⟩ := write_of_open isOpen encodable
  unfold Tears SendsWhole
  rw [outcome]
  dsimp only
  by_cases done : (sendLine f link.device).1 = true
  · exact .inr (.inl ⟨encodable, complete done⟩)
  have stopped := Bool.eq_false_of_not_eq_true done
  by_cases nothing : (sendLine f link.device).2.1 = []
  · exact .inl ⟨nothing, stopped⟩
  by_cases whole : (sendLine f link.device).2.1 = Text.utf8 f.encode
  · exact .inr (.inl ⟨encodable, whole⟩)
  rw [Frame.utf8_encode] at start whole ⊢
  exact .inr (.inr ⟨encodable, ⟨nothing, whole⟩, (List.prefix_concat_iff.mp start).resolve_left whole, stopped,
    failing stopped⟩)

theorem sendsWhole_of_accepted {link : Link ω} {f : Frame} (accepted : (link.write f).1.accepted = true) :
    link.SendsWhole f := by
  rcases link.write_cases f with ⟨_, refused⟩ | ⟨_, whole⟩ | ⟨_, _, _, refused, _⟩
  · exact nomatch refused.symm.trans accepted
  · exact whole
  · exact nomatch refused.symm.trans accepted

theorem failing_write {link : Link ω} (failing : link.failing = true) (f : Frame) :
    (link.write f).2.failing = true := by
  rw [write_eq]
  split
  · exact failing
  dsimp only
  split
  · exact failing
  · rfl

/-- The last write that sent anything stopped partway. -/
inductive Torn (link : Link ω) : List Frame → Prop
  | tears {frames : List Frame} {f : Frame} : (link.afterAll frames).Tears f → Torn link (frames ++ [f])
  | silent {frames : List Frame} {f : Frame} :
      Torn link frames → ((link.afterAll frames).write f).1.emitted = [] → Torn link (frames ++ [f])

theorem not_torn_nil (link : Link ω) : ¬ link.Torn [] := by
  generalize none : ([] : List Frame) = frames
  rintro (_ | _) <;> simp at none

theorem torn_concat_iff {link : Link ω} {frames : List Frame} {f : Frame} :
    link.Torn (frames ++ [f]) ↔
      (link.afterAll frames).Tears f ∨
        link.Torn frames ∧ ((link.afterAll frames).write f).1.emitted = [] := by
  constructor
  · generalize whole : frames ++ [f] = all
    rintro (tears | ⟨torn, silent⟩)
    · obtain ⟨rfl, same⟩ := List.append_inj' whole rfl
      obtain rfl := List.singleton_inj.mp same
      exact .inl tears
    · obtain ⟨rfl, same⟩ := List.append_inj' whole rfl
      obtain rfl := List.singleton_inj.mp same
      exact .inr ⟨torn, silent⟩
  · rintro (tears | ⟨torn, silent⟩)
    · exact .tears tears
    · exact .silent torn silent

/-- A link that has torn a line is failing from then on. -/
theorem Torn.failing {link : Link ω} {frames : List Frame} (torn : link.Torn frames) :
    (link.afterAll frames).failing = true := by
  induction torn with
  | @tears frames f tears =>
    rw [afterAll_concat]
    rcases (link.afterAll frames).write_cases f with ⟨nothing, _⟩ | ⟨_, whole⟩ | ⟨_, _, _, _, failing⟩
    · exact absurd nothing tears.1
    · exact absurd whole tears.2
    · exact failing
  | silent _ _ ih =>
    rw [afterAll_concat]
    exact failing_write ih _

/-- Every frame whose line is sent whole is sent when no line is torn. -/
def NothingGlued (link : Link ω) (frames : List Frame) : Prop :=
  ∀ before f after, frames = before ++ f :: after → (link.afterAll before).SendsWhole f → ¬ link.Torn before

theorem NothingGlued.init {link : Link ω} {frames : List Frame} {f : Frame}
    (alone : link.NothingGlued (frames ++ [f])) : link.NothingGlued frames :=
  fun before g after whole => alone before g (after ++ [f]) (by rw [whole]; simp)

/-- The lines on the wire after writing frames, and the bytes after the last line feed. -/
structure OnWire (link : Link ω) (frames : List Frame) (lines : List (List UInt8)) (tail : List UInt8) : Prop where
  bytes : link.emitted frames = LineBuffer.joined lines tail
  free : ∀ line ∈ lines, LineBuffer.lineFeed ∉ line
  tailFree : LineBuffer.lineFeed ∉ tail
  ends : ∀ line ∈ lines, ∃ f ∈ frames, f.line <:+ line
  alone : link.NothingGlued frames → ∀ line ∈ lines, ∃ f ∈ frames, line = f.line
  torn : tail ≠ [] ↔ link.Torn frames

section

variable {link : Link ω} {frames : List Frame} {lines : List (List UInt8)} {tail : List UInt8}
  (wire : link.OnWire frames lines tail) {f : Frame}
include wire

theorem OnWire.ends_concat {line : List UInt8} (member : line ∈ lines) : ∃ g ∈ frames ++ [f], g.line <:+ line := by
  obtain ⟨g, sent, last⟩ := wire.ends line member
  exact ⟨g, List.mem_append_left _ sent, last⟩

theorem OnWire.alone_concat (unglued : link.NothingGlued (frames ++ [f])) {line : List UInt8} (member : line ∈ lines) :
    ∃ g ∈ frames ++ [f], line = g.line := by
  obtain ⟨g, sent, same⟩ := wire.alone unglued.init line member
  exact ⟨g, List.mem_append_left _ sent, same⟩

theorem OnWire.silent (silent : ((link.afterAll frames).write f).1.emitted = []) :
    link.OnWire (frames ++ [f]) lines tail where
  bytes := by rw [emitted_concat, silent, List.append_nil, wire.bytes]
  free := wire.free
  tailFree := wire.tailFree
  ends _ := wire.ends_concat
  alone unglued _ := wire.alone_concat unglued
  torn := by
    rw [wire.torn, torn_concat_iff]
    exact ⟨fun torn => .inr ⟨torn, silent⟩, fun either => either.elim (fun tears => absurd silent tears.1) And.left⟩

theorem OnWire.whole (encodable : f.isEncodable = true) (whole : (link.afterAll frames).SendsWhole f) :
    link.OnWire (frames ++ [f]) (lines ++ [tail ++ f.line]) [] where
  bytes := by
    rw [emitted_concat, whole, Frame.utf8_encode, wire.bytes, ← List.append_assoc, LineBuffer.joined_append,
      LineBuffer.joined_append, LineBuffer.joined_concat]
  free line member := by
    rcases List.mem_append.mp member with member | member
    · exact wire.free line member
    · obtain rfl := List.mem_singleton.mp member
      simpa using ⟨wire.tailFree, Frame.lineFeed_notMem_line encodable⟩
  tailFree := nofun
  ends line member := by
    rcases List.mem_append.mp member with member | member
    · exact wire.ends_concat member
    · obtain rfl := List.mem_singleton.mp member
      exact ⟨f, by simp, List.suffix_append _ _⟩
  alone unglued line member := by
    rcases List.mem_append.mp member with member | member
    · exact wire.alone_concat unglued member
    · obtain rfl := List.mem_singleton.mp member
      have notTorn : ¬ tail ≠ [] := fun left => unglued frames f [] rfl whole (wire.torn.mp left)
      exact ⟨f, by simp, by rw [not_not.mp notTorn, List.nil_append]⟩
  torn := by
    refine ⟨fun some => absurd rfl some, fun torn => ?_⟩
    rcases torn_concat_iff.mp torn with tears | ⟨_, silent⟩
    · exact absurd whole tears.2
    · rw [whole, Frame.utf8_encode] at silent
      exact absurd silent (by simp)

theorem OnWire.tears (encodable : f.isEncodable = true) (tears : (link.afterAll frames).Tears f)
    (start : ((link.afterAll frames).write f).1.emitted <+: f.line) :
    link.OnWire (frames ++ [f]) lines (tail ++ ((link.afterAll frames).write f).1.emitted) where
  bytes := by rw [emitted_concat, wire.bytes, LineBuffer.joined_append]
  free := wire.free
  tailFree member := by
    rcases List.mem_append.mp member with member | member
    · exact wire.tailFree member
    · exact Frame.lineFeed_notMem_line encodable (start.subset member)
  ends _ := wire.ends_concat
  alone unglued _ := wire.alone_concat unglued
  torn := ⟨fun _ => .tears tears, fun _ nothing => tears.1 (List.append_eq_nil_iff.mp nothing).2⟩

end

theorem exists_onWire (link : Link ω) (frames : List Frame) : ∃ lines tail, link.OnWire frames lines tail := by
  induction frames using List.reverseRecOn with
  | nil =>
    exact ⟨[], [], rfl, nofun, nofun, nofun, fun _ => nofun, fun some => absurd rfl some,
      fun torn => absurd torn link.not_torn_nil⟩
  | append_singleton frames f ih =>
    obtain ⟨lines, tail, wire⟩ := ih
    rcases (link.afterAll frames).write_cases f with ⟨silent, _⟩ | ⟨encodable, whole⟩ | ⟨encodable, tears, start, _⟩
    · exact ⟨_, _, wire.silent silent⟩
    · exact ⟨_, _, wire.whole encodable whole⟩
    · exact ⟨_, _, wire.tears encodable tears start⟩

/-- Nothing was sent so far, or a line feed was the last byte. -/
def AtLineStart (bytes : List UInt8) : Prop :=
  bytes = [] ∨ bytes.getLast? = some LineBuffer.lineFeed

theorem OnWire.atLineStart_iff {link : Link ω} {frames : List Frame} {lines : List (List UInt8)} {tail : List UInt8}
    (wire : link.OnWire frames lines tail) : AtLineStart (link.emitted frames) ↔ ¬ link.Torn frames := by
  rw [← wire.torn, not_not, wire.bytes, AtLineStart]
  rcases List.eq_nil_or_concat tail with rfl | ⟨front, last, rfl⟩
  · refine ⟨fun _ => rfl, fun _ => ?_⟩
    rcases List.eq_nil_or_concat lines with rfl | ⟨before, line, rfl⟩
    · exact .inl rfl
    · refine .inr ?_
      rw [List.concat_eq_append, LineBuffer.joined_concat, ← LineBuffer.joined_append, List.getLast?_concat]
  · have other : last ≠ LineBuffer.lineFeed := by
      rintro rfl
      exact wire.tailFree (by simp)
    rw [List.concat_eq_append, ← LineBuffer.joined_append, List.getLast?_concat]
    simp [other]

theorem failing_afterAll {link : Link ω} (failing : link.failing = true) (frames : List Frame) :
    (link.afterAll frames).failing = true := by
  induction frames using List.reverseRecOn with
  | nil => exact failing
  | append_singleton frames f ih =>
    rw [afterAll_concat]
    exact failing_write ih f

theorem afterAll_append (link : Link ω) (before after : List Frame) :
    link.afterAll (before ++ after) = (link.afterAll before).afterAll after := by
  induction after using List.reverseRecOn with
  | nil => rw [List.append_nil]; rfl
  | append_singleton after f ih => rw [← List.append_assoc, afterAll_concat, afterAll_concat, ih]

/-- A link that is not failing has torn no line so far. -/
theorem nothingGlued_of_not_failing {link : Link ω} {frames : List Frame}
    (sound : (link.afterAll frames).failing = false) : link.NothingGlued frames := by
  rintro before f after rfl _ torn
  have failing := failing_afterAll torn.failing (f :: after)
  rw [← afterAll_append, sound] at failing
  exact nomatch failing

/-- Over any device: when writing a frame succeeds, its line is the last on the wire, and it stands alone exactly when
no torn line stands before it. Every line that has ended on the wire ends with the line of a frame that was written. It
is this line and nothing else as long as no line was sent right after a torn one, so at least until the link is
failing. -/
theorem alone_iff_not_torn (link : Link ω) (frames : List Frame) :
    let ended := ((link.emitted frames).splitOn LineBuffer.lineFeed).dropLast
    (∀ f, ((link.afterAll frames).write f).1.accepted = true →
      link.emitted (frames ++ [f]) = link.emitted frames ++ Text.utf8 f.encode ∧
        (AtLineStart (link.emitted frames) ↔ ¬ link.Torn frames)) ∧
      (∀ line ∈ ended, ∃ f ∈ frames, f.line <:+ line) ∧
      (link.NothingGlued frames → ∀ line ∈ ended, ∃ f ∈ frames, line = f.line) ∧
      ((link.afterAll frames).failing = false → ¬ link.Torn frames ∧ link.NothingGlued frames) := by
  intro ended
  obtain ⟨lines, tail, wire⟩ := link.exists_onWire frames
  have cut : ended = lines := by
    simp only [ended, wire.bytes, LineBuffer.splitOn_joined wire.free wire.tailFree, List.dropLast_concat]
  rw [cut]
  refine ⟨fun f accepted => ⟨?_, wire.atLineStart_iff⟩, wire.ends, wire.alone, fun sound => ⟨fun torn => ?_, ?_⟩⟩
  · rw [emitted_concat, sendsWhole_of_accepted accepted]
  · exact nomatch sound.symm.trans torn.failing
  · exact nothingGlued_of_not_failing sound

/-- A link whose device takes up to 15 bytes in a call, and 27 bytes in all. -/
def bounded : Link Bench.Limits :=
  .opened ⟨"network", "gw:5003"⟩ ⟨some 27, some 15, false, false, []⟩

/-- A frame that is too long for the device. -/
def oversized : Frame :=
  .plain 5 3 (.set .text) "seventeen letters"

/-- A frame that the device still has room for after that. -/
def brief : Frame :=
  .plain 5 3 (.set .status) "1"

/-- The second write succeeds, but its line is glued to the bytes of the first, and what stands on the wire is the line
of neither frame. -/
theorem brief_glued :
    ((bounded.afterAll [oversized]).write brief).1.accepted = true ∧
      ¬ AtLineStart (bounded.emitted [oversized]) ∧
      ((bounded.emitted [oversized, brief]).splitOn LineBuffer.lineFeed).dropLast =
        [Text.utf8 "5;3;1;0;47;seve5;3;1;0;2;1"] ∧
      ∀ f ∈ [oversized, brief], Text.utf8 "5;3;1;0;47;seve5;3;1;0;2;1" ≠ f.line := by
  have isOpen : bounded.closed = false := rfl
  obtain ⟨first, device, _⟩ := write_of_open isOpen (by decide : oversized.isEncodable = true)
  have stopped : (bounded.write oversized).1 = ⟨false, Text.utf8 "5;3;1;0;47;seve"⟩ := first.trans (by cbv)
  obtain ⟨second, _⟩ := write_of_open (samePlace_write bounded oversized).closed (by decide : brief.isEncodable = true)
  rw [device] at second
  have written : ((bounded.write oversized).2.write brief).1 = ⟨true, Text.utf8 "5;3;1;0;2;1\n"⟩ :=
    second.trans (by cbv)
  have torn : bounded.emitted [oversized] = Text.utf8 "5;3;1;0;47;seve" :=
    (emitted_concat bounded [] oversized).trans (congrArg Transmission.emitted stopped)
  have both : bounded.emitted [oversized, brief] = Text.utf8 "5;3;1;0;47;seve5;3;1;0;2;1\n" := by
    have last : ((bounded.afterAll [oversized]).write brief).1 = ⟨true, Text.utf8 "5;3;1;0;2;1\n"⟩ := written
    rw [← List.singleton_append, emitted_concat, torn, last]
    cbv
  have middle : (Text.utf8 "5;3;1;0;47;seve").getLast? = some 101 := by cbv
  refine ⟨congrArg Transmission.accepted written, ?_, ?_, ?_⟩
  · rw [torn]
    rintro (nothing | last)
    · rw [nothing] at middle
      cases middle
    · rw [middle] at last
      exact absurd last (by decide)
  · rw [both]
    cbv
  · -- The glued line differs from both in length.
    intro f member same
    have length := congrArg List.length same
    rcases List.mem_pair.mp member with rfl | rfl
    · exact absurd length (by cbv)
    · exact absurd length (by cbv)

end Link

end SensorGateway
