import Mathlib
import SensorGateway.Binding.Table

namespace SensorGateway

theorem Binding.key_injective : Function.Injective Binding.key := by
  intro a b same
  obtain ⟨node, rest⟩ := Prod.mk.inj same
  obtain ⟨sensor, name⟩ := Prod.mk.inj rest
  have channel : a.channel = b.channel := Channel.name_inj name
  calc
    a = ⟨a.node, a.sensor, a.channel⟩ := rfl
    _ = ⟨b.node, b.sensor, b.channel⟩ := by rw [show a.node = b.node from node, sensor, channel]
    _ = b := rfl

namespace BindingTable

theorem run_asking {ε α : Type} (table : BindingTable) (rest : BindingTable → ExceptT ε (StateM BindingTable) α) :
    (get >>= rest).run.run table = (rest table).run.run table :=
  rfl

/-- An attempt step by step: it fails before anything is written, or both maps get an entry. -/
theorem attempt_eq (table : BindingTable) (item : String) (type : ItemType) (text : String) :
    table.attempt item type text =
      match Binding.parse text with
      | .error cause => (.error cause, table)
      | .ok binding =>
        if (table.find? item).isSome then (.error (.duplicateItem item), table)
        else match table.holder? binding with
          | some holder => (.error (.duplicateBinding binding holder), table)
          | none =>
            if (type.sharedKinds binding.channel).isEmpty then (.error (.unsupported item type binding.channel), table)
            else (.ok binding, ⟨table.items ++ [⟨item, type, binding, type.sharedKinds binding.channel⟩],
              table.holders ++ [(binding.key, item)]⟩) := by
  unfold attempt enter
  cases Binding.parse text with
  | error cause => rfl
  | ok binding =>
    change StateT.run (ExceptT.run (if (table.find? item).isSome then _ else _)) table = _
    dsimp only
    split
    · rfl
    rw [run_asking]
    cases table.holder? binding with
    | some holder => rfl
    | none =>
      dsimp only
      split <;> rfl

/-- What an attempt that works asks of the table, and adds to it. -/
theorem attempt_ok {table longer : BindingTable} {item : String} {type : ItemType} {text : String} {binding : Binding}
    (entered : table.attempt item type text = (.ok binding, longer)) :
    Binding.parse text = .ok binding ∧ table.find? item = none ∧ table.holder? binding = none ∧
      type.sharedKinds binding.channel ≠ [] ∧
      longer = ⟨table.items ++ [⟨item, type, binding, type.sharedKinds binding.channel⟩],
        table.holders ++ [(binding.key, item)]⟩ := by
  rw [attempt_eq] at entered
  cases read : Binding.parse text with
  | error fault =>
    rw [read] at entered
    exact nomatch (Prod.mk.inj entered).1
  | ok spelled =>
    rw [read] at entered
    dsimp only at entered
    split at entered
    · exact nomatch (Prod.mk.inj entered).1
    rename_i unnamed
    cases unheld : table.holder? spelled with
    | some holder =>
      rw [unheld] at entered
      exact nomatch (Prod.mk.inj entered).1
    | none =>
      rw [unheld] at entered
      dsimp only at entered
      split at entered
      · exact nomatch (Prod.mk.inj entered).1
      rename_i shared
      obtain ⟨same, rfl⟩ := Prod.mk.inj entered
      obtain rfl := Except.ok.inj same
      refine ⟨rfl, Option.not_isSome_iff_eq_none.mp unnamed, unheld, fun apart => shared ?_, rfl⟩
      rw [apart, List.isEmpty_nil]

theorem bind_eq_ok_iff {table longer : BindingTable} {item : String} {type : ItemType} {text : String}
    {binding : Binding} :
    table.bind item type text = .ok (binding, longer) ↔ table.attempt item type text = (.ok binding, longer) := by
  unfold bind
  cases table.attempt item type text with
  | mk outcome after => cases outcome <;> simp

/-- A table made by binding one item after the other. -/
inductive Built : BindingTable → Prop where
  | empty : Built .empty
  | bind {table longer : BindingTable} {item : String} {type : ItemType} {text : String} {binding : Binding} :
    Built table → table.bind item type text = .ok (binding, longer) → Built longer

/-- The two maps say the same. -/
theorem Built.holders_eq {table : BindingTable} (built : table.Built) :
    table.holders = table.items.map fun entry => (entry.binding.key, entry.name) := by
  induction built with
  | empty => rfl
  | bind _ bound ih =>
    obtain ⟨_, _, _, _, rfl⟩ := attempt_ok (bind_eq_ok_iff.mp bound)
    rw [ih, List.map_append, List.map_singleton]

theorem Built.nodup {table : BindingTable} (built : table.Built) :
    (table.items.map (·.name)).Nodup ∧ (table.items.map (·.binding.key)).Nodup := by
  induction built with
  | empty => exact ⟨.nil, .nil⟩
  | bind shorter bound ih =>
    obtain ⟨_, unnamed, unheld, _, rfl⟩ := attempt_ok (bind_eq_ok_iff.mp bound)
    simp only [find?, holder?, shorter.holders_eq, Option.map_eq_none_iff, List.find?_eq_none, decide_eq_true_eq]
      at unnamed unheld
    simp only [← List.concat_eq_append, List.map_concat]
    exact ⟨ih.1.concat (by simpa using unnamed), ih.2.concat (by simpa using unheld)⟩

/-- Where no two elements have the same key, looking for a key finds the one element that has it. -/
theorem find?_eq_some_iff_of_nodup {α κ : Type} [DecidableEq κ] {key : α → κ} {l : List α}
    (unique : (l.map key).Nodup) (k : κ) (a : α) :
    l.find? (fun x => decide (key x = k)) = some a ↔ a ∈ l ∧ key a = k := by
  constructor
  · intro found
    exact ⟨List.mem_of_find?_eq_some found, by simpa using List.find?_some found⟩
  · rintro ⟨member, rfl⟩
    obtain ⟨other, found⟩ : ∃ other, l.find? (fun x => decide (key x = key a)) = some other :=
      Option.isSome_iff_exists.mp (List.find?_isSome.mpr ⟨a, member, by simp⟩)
    have same : key other = key a := by simpa using List.find?_some found
    rw [found, List.inj_on_of_nodup_map unique (List.mem_of_find?_eq_some found) member same]

/-- An item holds a binding exactly when it is the item's own. -/
theorem Built.holder?_eq_some_iff {table : BindingTable} (built : table.Built) (binding : Binding) (item : String) :
    table.holder? binding = some item ↔ table.binding? item = some binding := by
  obtain ⟨names, keys⟩ := built.nodup
  have unique : (table.holders.map (·.1)).Nodup := by
    rw [built.holders_eq, List.map_map]
    exact keys
  simp only [holder?, binding?, find?, Option.map_eq_some_iff, find?_eq_some_iff_of_nodup names,
    find?_eq_some_iff_of_nodup unique]
  rw [built.holders_eq]
  simp only [List.mem_map]
  constructor
  · rintro ⟨_, ⟨⟨entry, member, rfl⟩, held⟩, named⟩
    exact ⟨entry, ⟨member, named⟩, Binding.key_injective held⟩
  · rintro ⟨entry, ⟨member, named⟩, rfl⟩
    exact ⟨_, ⟨⟨entry, member, rfl⟩, rfl⟩, named⟩

end BindingTable

end SensorGateway
