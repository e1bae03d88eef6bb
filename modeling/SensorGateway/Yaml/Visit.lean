import SensorGateway.Yaml.Document

namespace SensorGateway.Yaml

/-- A visit to nodes of a document. Its state is how many more aliases may be followed. -/
abbrev Visit (ε : Type) := ReaderT Document (StateT Nat (Except ε))

namespace Visit

variable {ε α : Type}

/-- A node, or the node that an alias stands for. The error is that no more aliases may be followed. -/
def follow (exhausted : ε) : Node → Visit ε Node
  | .alias number => do
    match ← get, (← read).target? number with
    | left + 1, some target =>
      set left
      return target
    | _, _ => throw exhausted
  | node => return node

/-- The visit with another kind of error. -/
def mapError {δ : Type} (f : ε → δ) (visit : Visit ε α) : Visit δ α :=
  fun document left => (visit document left).mapError f

/-- Visits a document. A hundred aliases may be followed for each node and each end of one. -/
def run (document : Document) (visit : Visit ε α) : Except ε α :=
  StateT.run' (visit document) (100 * document.events)

end Visit

end SensorGateway.Yaml
