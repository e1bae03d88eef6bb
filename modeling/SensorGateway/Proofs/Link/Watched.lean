import Mathlib.Data.List.Basic
import SensorGateway.Proofs.Link.Writing

namespace SensorGateway

/-- A call of a device, and what came of it. -/
inductive Device.Call where
  | write (bytes : List UInt8) (taken : Option Nat)
  | flush (worked : Bool)
  | shutdown (worked : Bool)
  deriving DecidableEq, Repr

namespace Device.Call

/-- Whether the call failed. A write that takes nothing is a failure. -/
def failed : Call → Bool
  | .write _ (some (_ + 1)) => false
  | .write _ _ => true
  | .flush worked | .shutdown worked => !worked

/-- Whether the call released the stream. -/
def isShutdown : Call → Bool
  | .shutdown _ => true
  | .write _ _ | .flush _ => false

end Device.Call

/-- A device with a record of its calls. Without a hook there is nothing to be released. -/
structure Watched (ω : Type) where
  device : ω
  hooked : Bool
  calls : List Device.Call

namespace Watched

variable {ω : Type}

instance [Device ω] : Device (Watched ω) where
  write bytes w :=
    let (taken, device) := Device.write bytes w.device
    (taken, { w with device := device, calls := w.calls ++ [.write bytes taken] })
  flush w :=
    let (worked, device) := Device.flush w.device
    (worked, { w with device := device, calls := w.calls ++ [.flush worked] })
  shutdown w :=
    if w.hooked then
      let (worked, device) := Device.shutdown w.device
      (worked, { w with device := device, calls := w.calls ++ [.shutdown worked] })
    else (true, w)

/-- A watched device, and what it becomes by calls. -/
structure Called (w after : Watched ω) (calls : List Device.Call) : Prop where
  hooked : after.hooked = w.hooked
  calls : after.calls = w.calls ++ calls

theorem Called.refl (w : Watched ω) : w.Called w [] :=
  ⟨rfl, (List.append_nil _).symm⟩

theorem Called.trans {a b c : Watched ω} {first second : List Device.Call} (one : a.Called b first)
    (two : b.Called c second) : a.Called c (first ++ second) where
  hooked := two.hooked.trans one.hooked
  calls := by rw [two.calls, one.calls, List.append_assoc]

variable [Device ω]

theorem called_write (bytes : List UInt8) (w : Watched ω) :
    w.Called (Device.write bytes w).2 [.write bytes (Device.write bytes w).1] :=
  ⟨rfl, rfl⟩

theorem called_flush (w : Watched ω) : w.Called (Device.flush w).2 [.flush (Device.flush w).1] :=
  ⟨rfl, rfl⟩

theorem called_shutdown (w : Watched ω) :
    w.Called (Device.shutdown w).2 (if w.hooked then [.shutdown (Device.shutdown w).1] else []) := by
  cases hook : w.hooked with
  | true =>
    simp only [Device.shutdown, hook, if_true]
    exact ⟨hook.symm, rfl⟩
  | false =>
    simp only [Device.shutdown, hook, Bool.false_eq_true, if_false]
    exact .refl w

/-- Calls that together have this outcome: they worked if none failed. None of them releases the stream. -/
structure Sends (calls : List Device.Call) (worked : Bool) : Prop where
  worked_eq : worked = calls.all (!·.failed)
  keeps : ∀ call ∈ calls, call.isShutdown = false

theorem Sends.nil : Sends [] true :=
  ⟨rfl, nofun⟩

theorem Sends.singleton {call : Device.Call} (keeps : call.isShutdown = false) : Sends [call] (!call.failed) :=
  ⟨(Bool.and_true _).symm, fun _ member => List.mem_singleton.mp member ▸ keeps⟩

theorem Sends.append {first second : List Device.Call} {one two : Bool} (sends : Sends first one)
    (more : Sends second two) : Sends (first ++ second) (one && two) where
  worked_eq := by rw [List.all_append, ← sends.worked_eq, ← more.worked_eq]
  keeps call member := (List.mem_append.mp member).elim (sends.keeps call) (more.keeps call)

theorem transmit_called (bytes : List UInt8) (w : Watched ω) :
    ∃ calls, w.Called (transmit bytes w).2.2 calls ∧ Sends calls (transmit bytes w).1 := by
  fun_induction transmit bytes w with
  | case1 w => exact ⟨[], .refl w, .nil⟩
  | case2 w b rest taken between call all sent final later ih =>
    rw [later] at ih
    obtain ⟨calls, called, sends⟩ := ih
    have first := called_write (b :: rest) w
    rw [call] at first
    have worked : Sends [.write (b :: rest) (some (taken + 1))] true := .singleton rfl
    exact ⟨_, first.trans called, worked.append sends⟩
  | case3 w b rest outcome after stuck call =>
    have first := called_write (b :: rest) w
    rw [call] at first
    have failed : (Device.Call.write (b :: rest) outcome).failed = true := by
      rcases outcome with _ | _ | n
      · rfl
      · rfl
      · exact absurd rfl (stuck n)
    have stopped : Sends [.write (b :: rest) outcome] (!(Device.Call.write (b :: rest) outcome).failed) :=
      .singleton rfl
    rw [failed] at stopped
    exact ⟨_, first, stopped⟩

theorem sendLine_called (f : Frame) (w : Watched ω) :
    ∃ calls, w.Called (Link.sendLine f w).2.2 calls ∧ Sends calls (Link.sendLine f w).1 := by
  obtain ⟨calls, called, sends⟩ := transmit_called (Text.utf8 f.encode) w
  unfold Link.sendLine
  generalize transmit (Text.utf8 f.encode) w = outcome at *
  obtain ⟨all, sent, device⟩ := outcome
  cases all with
  | false => exact ⟨calls, called, sends⟩
  | true =>
    have flushed : Sends [.flush (Device.flush device).1] (!!(Device.flush device).1) := .singleton rfl
    rw [Bool.not_not] at flushed
    exact ⟨_, called.trans (called_flush device), sends.append flushed⟩

end Watched

namespace Link

variable {ω : Type}

/-- The device calls that were made from one state of a link to a later one. -/
def callsSince (link later : Link (Watched ω)) : List Device.Call :=
  later.device.calls.drop link.device.calls.length

theorem callsSince_eq {link later : Link (Watched ω)} {calls : List Device.Call}
    (called : link.device.Called later.device calls) : link.callsSince later = calls := by
  rw [callsSince, called.calls, List.drop_left]

variable [Device ω]

/-- Writing a frame to an open link makes it fail exactly when a call of the device fails. -/
theorem write_watched {link : Link (Watched ω)} (isOpen : link.closed = false) (f : Frame) :
    let later := (link.write f).2
    let calls := link.callsSince later
    link.device.Called later.device calls ∧ (∀ call ∈ calls, call.isShutdown = false) ∧ later.closed = false ∧
      later.failing = (link.failing || calls.any (·.failed)) := by
  dsimp only
  rw [write_eq]
  by_cases encodable : f.isEncodable = true
  · obtain ⟨calls, called, worked, keeps⟩ := Watched.sendLine_called f link.device
    simp only [isOpen, encodable, Bool.not_true, Bool.or_self, Bool.false_eq_true, if_false]
    generalize sendLine f link.device = outcome at *
    have any : calls.any (·.failed) = !outcome.1 := by
      rw [worked, List.not_all_eq_any_not]
      simp only [Bool.not_not]
    split
    · rename_i done
      rw [callsSince_eq called, any, done]
      exact ⟨called, keeps, rfl, (Bool.or_false _).symm⟩
    · rename_i stopped
      rw [callsSince_eq called, any, (Bool.not_eq_true _).mp stopped]
      exact ⟨called, keeps, rfl, (Bool.or_true _).symm⟩
  · have refused : (link.closed || !f.isEncodable) = true := by simp [encodable]
    rw [if_pos refused, callsSince_eq (.refl link.device)]
    exact ⟨.refl link.device, nofun, isOpen, (Bool.or_false _).symm⟩

theorem write_of_closed {link : Link ω} (closed : link.closed = true) (f : Frame) :
    link.write f = (⟨false, []⟩, link) := by
  rw [write_eq, closed, Bool.true_or, if_pos rfl]

/-- Closing an open link releases its stream, if there is a hook, and flushes the device, whatever comes of that. -/
theorem close_watched {link : Link (Watched ω)} (isOpen : link.closed = false) :
    ∃ released flushed,
      link.device.Called link.close.device
        ((if link.device.hooked then [.shutdown released] else []) ++ [.flush flushed]) ∧
      link.close.closed = true ∧ link.close.failing = link.failing ∧ link.close.ended = link.ended := by
  have released := Watched.called_shutdown link.device
  have flushed := Watched.called_flush (Device.shutdown link.device).2
  have after : link.close =
      { link with closed := true, device := (Device.flush (Device.shutdown link.device).2).2 } := by
    rw [close, isOpen, if_neg Bool.false_ne_true]
  rw [after]
  exact ⟨_, _, released.trans flushed, rfl, rfl, rfl⟩

theorem close_of_closed {link : Link ω} (closed : link.closed = true) : link.close = link := by
  rw [close, if_pos closed]

end Link

end SensorGateway
