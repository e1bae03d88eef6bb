import SensorGateway.Proofs.Link.Writing

namespace SensorGateway

namespace Arrival

/-- The bursts that a script of reads finishes, and the bytes gathered since, when these bytes are held before it.
A quiet stream and the end of the stream finish a burst; nothing is read after the end. -/
def bursts (held : List UInt8) : List Arrival → List (List UInt8) × List UInt8
  | [] => ([], held)
  | .data bytes :: rest => bursts (held ++ bytes) rest
  | .quiet :: rest => (held :: (bursts [] rest).1, (bursts [] rest).2)
  | .interrupted :: rest => bursts held rest
  | .ended :: _ | .failed :: _ => ([held], [])

/-- The bytes held before a script stand at the beginning of one of its bursts. -/
theorem exists_burst (held : List UInt8) (script : List Arrival) :
    ∃ burst ∈ (bursts held script).2 :: (bursts held script).1, held <+: burst := by
  induction script generalizing held with
  | nil => exact ⟨held, List.mem_cons_self, List.prefix_refl held⟩
  | cons arrival rest ih =>
    cases arrival with
    | data bytes =>
      obtain ⟨burst, member, start⟩ := ih (held ++ bytes)
      exact ⟨burst, member, (List.prefix_append held bytes).trans start⟩
    | interrupted => exact ih held
    | quiet => exact ⟨held, List.mem_cons_of_mem _ List.mem_cons_self, List.prefix_refl held⟩
    | ended | failed => exact ⟨held, List.mem_cons_of_mem _ List.mem_cons_self, List.prefix_refl held⟩

end Arrival

/-- What happens to a link: its reader gets something, or someone writes a frame or closes it. -/
inductive LinkEvent where
  | read (arrival : Arrival)
  | write (frame : Frame)
  | close
  deriving DecidableEq, Repr

namespace LinkEvent

/-- What the reader gets, if the event is for the reader. -/
def arrival? : LinkEvent → Option Arrival
  | .read arrival => some arrival
  | .write _ | .close => none

/-- The script of reads among events. -/
def script (events : List LinkEvent) : List Arrival :=
  events.filterMap arrival?

end LinkEvent

/-- Changing the link of a state changes that link, and nothing else of it. -/
class LawfulHoldsLink (ω : outParam Type) (σ : Type) [HoldsLink ω σ] : Prop where
  link_modify (change : Link ω → Link ω) (s : σ) :
    HoldsLink.link (HoldsLink.modify change s) = change (HoldsLink.link s)

/-- A state together with the frames that the handler got, in order. -/
structure Recorded (σ : Type) where
  state : σ
  delivered : List Frame

namespace Recorded

variable {ω σ : Type} [HoldsLink ω σ]

instance : HoldsLink ω (Recorded σ) where
  link r := HoldsLink.link r.state
  modify change r := { r with state := HoldsLink.modify change r.state }

instance [LawfulHoldsLink ω σ] : LawfulHoldsLink ω (Recorded σ) where
  link_modify change r := LawfulHoldsLink.link_modify change r.state

/-- A handler that also records what it gets. -/
def recording (handle : Frame → σ → σ) (f : Frame) (r : Recorded σ) : Recorded σ :=
  ⟨handle f r.state, r.delivered ++ [f]⟩

end Recorded

namespace HoldsLink

variable {ω σ : Type} [Device ω] [HoldsLink ω σ]

/-- Lets something happen to the link of a state. -/
def happen (handle : Frame → σ → σ) (s : σ) : LinkEvent → σ
  | .read arrival => receive handle s arrival
  | .write f => modify (fun link => (link.write f).2) s
  | .close => modify Link.close s

/-- A handler that uses its link only to write frames. -/
def OnlyWrites (handle : Frame → σ → σ) : Prop :=
  ∀ f s, (link s).Written (link (handle f s))

end HoldsLink

end SensorGateway
