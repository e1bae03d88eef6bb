import SensorGateway.Proofs.Bridge.Lasting
import SensorGateway.Proofs.Frame.Stream
import SensorGateway.Proofs.Value.OneLine

namespace SensorGateway

/-- A frame that travels on one line and asks for no echo. -/
structure Frame.Clean (f : Frame) : Prop where
  encodable : f.isEncodable = true
  unasked : f.ack = false

theorem Frame.clean_plain (node sensor : UInt8) (subject : Subject) {payload : String}
    (line : Text.hasLineBreak payload = false) : (plain node sensor subject payload).Clean :=
  ⟨by rw [isEncodable, plain, line]; rfl, rfl⟩

theorem Settings.hasLineBreak_unitSystem (settings : Settings) : Text.hasLineBreak settings.unitSystem = false := by
  unfold unitSystem
  split <;> decide

/-- What a bridge writes because of a frame that came on a line is clean. -/
theorem Frame.Response.clean {f g : Frame} (response : f.Response g) (onLine : f.isEncodable = true) : g.Clean := by
  cases response with
  | time now => exact clean_plain _ _ _ (Text.solid_int now).hasLineBreak
  | units settings => exact clean_plain _ _ _ settings.hasLineBreak_unitSystem
  | value spelled => exact clean_plain _ _ _ (Value.hasLineBreak_payload spelled)
  | echo => exact ⟨onLine, rfl⟩

namespace Bridge

variable {ω : Type} [Outside ω]

theorem written_discard (b : Bridge (Traced ω)) (id : Nat) : (b.discard id).written = b.written := by
  unfold discard
  split <;> simp [written, retire, linkUp, Outside.close]

/-- Only clean frames are written, as long as responses are clean. -/
theorem lasting_clean : Lasting Frame.Clean fun b : Bridge (Traced ω) => ∀ w ∈ b.written, w.2.Clean where
  count clean _ _ _ := clean
  write {b} clean id _ f allowed w member := by
    rw [written_write] at member
    rcases List.mem_append.mp member with earlier | last
    · exact clean w earlier
    · rw [List.mem_singleton.mp last]
      exact allowed
  command spelled := Frame.clean_plain _ _ _ (Value.hasLineBreak_payload spelled)
  post clean _ _ := clean
  ping := Frame.clean_plain _ _ _ rfl
  connect {b} clean := by
    have same : b.connect.2.written = b.written := b.written_interject .start
    rwa [same]
  stop {b} clean := by
    have same : b.stop.written = b.written := b.written_interject .stop
    rwa [same]
  discard {b} clean id := by rwa [b.written_discard id]
  world clean _ := clean

/-- Whatever the world and other callers do, whatever values commands bring and whatever is put into the store, as long
as all frames come in on lines: every frame that is written travels on one line, is about a topic that fits its type,
asks for no echo, and is read from its line again. So each write hands over one line feed, at its end. -/
theorem written_after (settings : Settings) (items : BindingTable) (store : Store) (world : ω)
    {actions : List (Action ω)} (onLines : ∀ action ∈ actions, ∀ f, action.frame? = some f → f.isEncodable = true) :
    ∀ id f, (id, f) ∈ (after settings items store world actions).written →
      f.isEncodable = true ∧ f.topic.fits f.type = true ∧ f.ack = false ∧ Frame.decode f.encode = .ok f ∧
        Text.utf8 f.encode = f.line ++ [LineBuffer.lineFeed] ∧ LineBuffer.lineFeed ∉ f.line := by
  intro id f member
  have clean : ∀ w ∈ (after settings items store world actions).written, w.2.Clean :=
    lasting_clean.foldl (fun _ none => absurd none List.not_mem_nil) fun action inside f inbound _ response =>
      response.clean (onLines action inside f inbound)
  obtain ⟨encodable, unasked⟩ := clean (id, f) member
  exact ⟨encodable, f.subject.topic_fits_type, unasked, Frame.decode_encode_of_isEncodable encodable, f.utf8_encode,
    Frame.lineFeed_notMem_line encodable⟩

/-- A table with a sign that shows a text. -/
def signs : BindingTable :=
  ⟨[⟨"Sign", .string, ⟨9, 1, .signal .text⟩, [.text]⟩], [((9, 1, "V_TEXT"), "Sign")]⟩

/-- A text with a line feed is put into the store and asked for, with an echo; another one is sent; then one without. -/
def signRun : List (Action Bench.Fleet) :=
  [.start, .post "Sign" (.text "Hello\n9;1;1;0;47;world"), .handle ⟨9, 1, true, .request .text, ""⟩,
    .command "Sign" (.text "two\rlines"), .execute "Sign one line", .healthCheck]

theorem written_after_sign :
    (∀ action ∈ signRun, ∀ f, action.frame? = some f → f.isEncodable = true) ∧
      (after ⟨.network "gateway" 5003, 1000, true⟩ signs .empty (Bench.Fleet.new 0) signRun).written =
        [(0, ⟨9, 1, false, .request .text, ""⟩), (0, ⟨9, 1, false, .set .text, "one line"⟩), (0, ping)] ∧
      Frame.decode (Frame.encode ⟨9, 1, false, .set .text, "one line"⟩) =
        .ok ⟨9, 1, false, .set .text, "one line"⟩ := by
  have onLines : ∀ action ∈ signRun, ∀ f, action.frame? = some f → f.isEncodable = true := by
    intro action member f inbound
    have listed : f ∈ signRun.filterMap (·.frame?) := List.mem_filterMap.mpr ⟨action, member, inbound⟩
    obtain rfl : f = ⟨9, 1, true, .request .text, ""⟩ := List.mem_singleton.mp listed
    rfl
  have written : (after ⟨.network "gateway" 5003, 1000, true⟩ signs .empty (Bench.Fleet.new 0) signRun).written =
      [(0, ⟨9, 1, false, .request .text, ""⟩), (0, ⟨9, 1, false, .set .text, "one line"⟩), (0, ping)] := by
    decide +kernel
  obtain ⟨_, _, _, decoded, _⟩ :=
    written_after ⟨.network "gateway" 5003, 1000, true⟩ signs .empty (Bench.Fleet.new 0) onLines 0
      ⟨9, 1, false, .set .text, "one line"⟩ (by rw [written]; decide)
  exact ⟨onLines, written, decoded⟩

end Bridge

end SensorGateway
