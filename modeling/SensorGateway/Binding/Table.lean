import SensorGateway.Binding.Basic

namespace SensorGateway

/-- An item with its binding, and the kinds of value it exchanges there, the preferred one first. -/
structure BoundItem where
  name : String
  type : ItemType
  binding : Binding
  kinds : List Kind
  deriving DecidableEq, Repr

/-- The bound items, and under each channel the item that holds it, both in the order in which the items
were bound. -/
structure BindingTable where
  items : List BoundItem
  holders : List ((UInt8 × UInt8 × String) × String)
  deriving DecidableEq, Repr

namespace BindingTable

/-- The table without items. -/
def empty : BindingTable := ⟨[], []⟩

/-- The entry of an item. -/
def find? (table : BindingTable) (item : String) : Option BoundItem :=
  table.items.find? (·.name = item)

/-- The binding of an item. -/
def binding? (table : BindingTable) (item : String) : Option Binding :=
  (table.find? item).map (·.binding)

/-- The type of an item. -/
def type? (table : BindingTable) (item : String) : Option ItemType :=
  (table.find? item).map (·.type)

/-- The kinds of value that an item exchanges; none when it is not bound. -/
def kinds (table : BindingTable) (item : String) : List Kind :=
  ((table.find? item).map (·.kinds)).getD []

/-- The item that holds a binding. -/
def holder? (table : BindingTable) (binding : Binding) : Option String :=
  (table.holders.find? (·.1 = binding.key)).map (·.2)

/-- The item bound to the channel with this word on a sensor of a node. -/
def itemFor? (table : BindingTable) (node sensor : UInt8) (word : String) : Option String :=
  (Channel.ofName? word).bind fun channel => table.holder? ⟨node, sensor, channel⟩

/-- How many items are bound. -/
def size (table : BindingTable) : Nat :=
  table.items.length

/-- The names of the bound items, in order. -/
def names (table : BindingTable) : List String :=
  (table.items.map (·.name)).mergeSort fun a b => a ≤ b

/-- Enters an item. The text is read first; then the item and the binding have to be free; then they
need a kind of value in common. -/
def enter (item : String) (type : ItemType) (text : String) :
    ExceptT BindingError (StateM BindingTable) Binding := do
  let binding ← Binding.parse text
  if ((← get).find? item).isSome then throw (.duplicateItem item)
  if let some holder := (← get).holder? binding then throw (.duplicateBinding binding holder)
  let kinds := type.sharedKinds binding.channel
  if kinds.isEmpty then throw (.unsupported item type binding.channel)
  modify fun table => { table with holders := table.holders ++ [(binding.key, item)] }
  modify fun table => { table with items := table.items ++ [⟨item, type, binding, kinds⟩] }
  return binding

/-- What comes of entering an item in a table, and the table after it. -/
def attempt (table : BindingTable) (item : String) (type : ItemType) (text : String) :
    Except BindingError Binding × BindingTable :=
  (enter item type text).run.run table

/-- Binds an item. Gives its binding, and the table with it. -/
def bind (table : BindingTable) (item : String) (type : ItemType) (text : String) :
    Except BindingError (Binding × BindingTable) :=
  match table.attempt item type text with
  | (.ok binding, longer) => .ok (binding, longer)
  | (.error cause, _) => .error cause

end BindingTable

end SensorGateway
