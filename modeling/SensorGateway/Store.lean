import SensorGateway.Value.Basic

namespace SensorGateway

/-- Items with their latest values; an item occurs once. -/
structure Store where
  entries : List (String × Value)
  deriving DecidableEq, Repr

namespace Store

/-- The store without values. -/
def empty : Store := ⟨[]⟩

/-- The latest value of an item. -/
def current? (store : Store) (item : String) : Option Value :=
  store.entries.lookup item

/-- The entries with the value of an item replaced or added. -/
def put (item : String) (value : Value) : List (String × Value) → List (String × Value)
  | [] => [(item, value)]
  | (name, old) :: rest =>
    if name = item then (item, value) :: rest else (name, old) :: put item value rest

/-- Records a new value of an item. -/
def post (store : Store) (item : String) (value : Value) : Store :=
  ⟨put item value store.entries⟩

/-- All items with their values, in the order of the names. -/
def snapshot (store : Store) : List (String × Value) :=
  store.entries.mergeSort fun a b => a.1 ≤ b.1

theorem lookup_cons (name item : String) (value : Value) (rest : List (String × Value)) :
    ((name, value) :: rest).lookup item = if item = name then some value else rest.lookup item := by
  rw [List.lookup_cons]
  by_cases same : item = name
  · simp [same]
  · have differs : (item == name) = false := by simpa using same
    simp [same, differs]

theorem lookup_put (item other : String) (value : Value) (entries : List (String × Value)) :
    (put item value entries).lookup other = if other = item then some value else entries.lookup other := by
  induction entries with
  | nil => exact lookup_cons item other value []
  | cons entry rest ih =>
    obtain ⟨name, old⟩ := entry
    unfold put
    split
    · rename_i same
      subst same
      simp only [lookup_cons]
      split <;> rfl
    · rename_i apart
      simp only [lookup_cons, ih]
      by_cases here : other = name
      · subst here
        simp [apart]
      · simp [here]

theorem current?_post (store : Store) (item other : String) (value : Value) :
    (store.post item value).current? other = if other = item then some value else store.current? other :=
  lookup_put item other value store.entries

end Store

end SensorGateway
