import SensorGateway.Bench.Line
import SensorGateway.Proofs.Frame.Stream
import SensorGateway.Proofs.Link.Writing

namespace SensorGateway

/-- Devices with room for a number of bytes: a call takes at least one of the bytes it is handed when there is room for
them all, and flushing succeeds. -/
structure Device.Roomy {ω : Type} [Device ω] (room : Nat → ω → Prop) : Prop where
  write {n : Nat} {device : ω} {bytes : List UInt8} (space : room n device) (nonempty : bytes ≠ [])
    (fits : bytes.length ≤ n) : ∃ taken after, Device.write bytes device = (some taken, after) ∧ 0 < taken ∧
      taken ≤ bytes.length ∧ room (n - taken) after
  flush {n : Nat} {device : ω} (space : room n device) : ∃ after, Device.flush device = (true, after) ∧ room n after

/-- A device on the bench with room for a number of bytes. -/
def Bench.Limits.Room (n : Nat) (d : Bench.Limits) : Prop :=
  d.flushFails = false ∧ (∀ piece ∈ d.piece, 0 < piece) ∧ ∀ budget ∈ d.budget, n ≤ budget

theorem Bench.Limits.roomy : Device.Roomy Bench.Limits.Room where
  write {n d bytes} space nonempty fits := by
    obtain ⟨budget, piece, flushFails, shutdownFails, taken⟩ := d
    obtain ⟨flushes, pieces, enough⟩ := space
    have positive : 0 < bytes.length := List.length_pos_iff.mpr nonempty
    have allowed : 0 < piece.getD bytes.length := by
      cases piece with
      | none => exact positive
      | some piece => exact pieces piece rfl
    have whole : (bytes.take (piece.getD bytes.length)).length ≤ bytes.length := List.length_take_le' _ _
    have begun : 0 < (bytes.take (piece.getD bytes.length)).length := by
      rw [List.length_take]
      omega
    cases budget with
    | none => exact ⟨_, _, rfl, begun, whole, flushes, pieces, nofun⟩
    | some left =>
      have room : n ≤ left := enough left rfl
      have within : ¬ left < (bytes.take (piece.getD bytes.length)).length := by omega
      refine ⟨_, _, if_neg within, begun, whole, flushes, pieces, fun budget known => ?_⟩
      obtain rfl := Option.some.inj known
      omega
  flush {n d} space := ⟨d, congrArg (fun fails => (!fails, d)) space.1, space⟩

namespace Link

variable {ω : Type} [Device ω]

/-- Writes frames, one after the other. -/
def writeAll (link : Link ω) : List Frame → List Transmission × Link ω
  | [] => ([], link)
  | f :: frames =>
    let (outcome, link) := link.write f
    let (outcomes, link) := link.writeAll frames
    (outcome :: outcomes, link)

section

variable {room : Nat → ω → Prop} (roomy : Device.Roomy room)
include roomy

/-- Each call takes some of the bytes, so all are taken in the end, in order. -/
theorem transmit_of_roomy {n : Nat} {device : ω} (space : room n device) {bytes : List UInt8}
    (fits : bytes.length ≤ n) :
    ∃ after, transmit bytes device = (true, bytes, after) ∧ room (n - bytes.length) after := by
  induction size : bytes.length using Nat.strongRecOn generalizing bytes n device with
  | _ size ih =>
    subst size
    cases bytes with
    | nil => exact ⟨device, by rw [transmit], space⟩
    | cons b rest =>
      obtain ⟨taken, between, write, positive, bound, left⟩ := roomy.write space (List.cons_ne_nil b rest) fits
      obtain ⟨taken, rfl⟩ := Nat.exists_eq_succ_of_ne_zero (Nat.pos_iff_ne_zero.mp positive)
      simp only [List.length_cons] at fits bound
      have shorter : (rest.drop taken).length < (b :: rest).length := by
        simp only [List.length_drop, List.length_cons]
        omega
      have fitsRest : (rest.drop taken).length ≤ n - (taken + 1) := by
        simp only [List.length_drop]
        omega
      obtain ⟨after, sent, remaining⟩ := ih _ shorter left fitsRest rfl
      refine ⟨after, ?_, ?_⟩
      · rw [transmit, write]
        simp only [sent, List.take_succ_cons, List.cons_append, List.take_append_drop]
      · have count : n - (taken + 1) - (rest.drop taken).length = n - (b :: rest).length := by
          simp only [List.length_drop, List.length_cons]
          omega
        rw [← count]
        exact remaining

theorem write_of_roomy {n : Nat} {link : Link ω} (isOpen : link.closed = false) (space : room n link.device) {f : Frame}
    (encodable : f.isEncodable = true) (fits : (Text.utf8 f.encode).length ≤ n) :
    ∃ device, link.write f = (⟨true, Text.utf8 f.encode⟩, { link with device }.count .framesSent [] 1) ∧
      room (n - (Text.utf8 f.encode).length) device := by
  obtain ⟨between, sent, left⟩ := transmit_of_roomy roomy space fits
  obtain ⟨device, flushed, space⟩ := roomy.flush left
  have line : sendLine f link.device = (true, Text.utf8 f.encode, device) := by
    simp only [sendLine, sent, flushed, if_true]
  refine ⟨device, ?_, space⟩
  simp only [write_eq, isOpen, encodable, Bool.not_true, Bool.or_self, Bool.false_eq_true, if_false, line, if_true]

/-- Every write succeeds, and what reaches the device is the wire form of the frames. -/
theorem writeAll_of_roomy {n : Nat} {link : Link ω} (isOpen : link.closed = false) (space : room n link.device)
    {frames : List Frame} (encodable : ∀ f ∈ frames, f.isEncodable = true) (fits : (Frame.wire frames).length ≤ n) :
    (link.writeAll frames).1 = frames.map fun f => ⟨true, Text.utf8 f.encode⟩ := by
  induction frames generalizing link n with
  | nil => rfl
  | cons f frames ih =>
    rw [Frame.wire, List.flatMap_cons, ← Frame.wire, List.length_append] at fits
    obtain ⟨device, written, left⟩ := write_of_roomy roomy isOpen space (encodable f List.mem_cons_self) (by omega)
    have others : ∀ g ∈ frames, g.isEncodable = true := fun g member => encodable g (List.mem_cons_of_mem _ member)
    have rest : (({ link with device }.count .framesSent [] 1).writeAll frames).1 = _ :=
      ih isOpen left others (by omega)
    rw [writeAll, written, List.map_cons, ← rest]

end

end Link

end SensorGateway
