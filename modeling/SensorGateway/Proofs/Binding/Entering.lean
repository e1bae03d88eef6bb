import SensorGateway.Proofs.Binding.Table
import SensorGateway.Proofs.Vocabulary.Lookup

namespace SensorGateway.BindingTable

/-- A call to bind an item. -/
structure Call where
  item : String
  type : ItemType
  text : String

/-- The table after calls. -/
def filled (calls : List Call) : BindingTable :=
  calls.foldl (fun table call => (table.attempt call.item call.type call.text).2) .empty

/-- The look-ups of a table agree with each other: by channel and by item, for bindings and for kinds of value, and in
the listing. -/
structure Consistent (table : BindingTable) : Prop where
  itemFor?_eq_some_iff (node sensor : UInt8) (word item : String) :
    table.itemFor? node sensor word = some item ↔
      ∃ channel : Channel, channel.name = word ∧ table.binding? item = some ⟨node, sensor, channel⟩
  exclusive {item other : String} {binding : Binding} :
    table.binding? item = some binding → table.binding? other = some binding → item = other
  unbound {item : String} : table.binding? item = none → table.type? item = none ∧ table.kinds item = []
  bound {item : String} {binding : Binding} : table.binding? item = some binding →
    ∃ type, table.type? item = some type ∧ table.kinds item ≠ [] ∧
      table.kinds item = type.kinds.filter (· ∈ binding.channel.kinds)
  sorted : table.names.Pairwise (· < ·)
  mem_names (item : String) : item ∈ table.names ↔ (table.binding? item).isSome
  size_eq : table.size = table.names.length

/-- Why a call fails. Each reason leaves the earlier ones out. -/
inductive Refuses (table : BindingTable) (item : String) (type : ItemType) (text : String) : BindingError → Prop where
  | misread {cause : BindingError} : Binding.parse text = .error cause → Refuses table item type text cause
  | duplicateItem {binding : Binding} : Binding.parse text = .ok binding → table.binding? item ≠ none →
    Refuses table item type text (.duplicateItem item)
  | duplicateBinding {binding : Binding} {holder : String} : Binding.parse text = .ok binding →
    table.binding? item = none → table.binding? holder = some binding →
    Refuses table item type text (.duplicateBinding binding holder)
  | unsupported {binding : Binding} : Binding.parse text = .ok binding → table.binding? item = none →
    (∀ other, table.binding? other ≠ some binding) → (∀ kind ∈ type.kinds, kind ∉ binding.channel.kinds) →
    Refuses table item type text (.unsupported item type binding.channel)

/-- The look-ups of a table with one more item: those of the item and of its channel are new, the others as before. -/
structure Gains (table longer : BindingTable) (item : String) (type : ItemType) (binding : Binding) : Prop where
  fresh : table.binding? item = none ∧ table.itemFor? binding.node binding.sensor binding.channel.name = none
  own : longer.binding? item = some binding ∧ longer.type? item = some type ∧
    longer.itemFor? binding.node binding.sensor binding.channel.name = some item
  others {other : String} : other ≠ item → longer.binding? other = table.binding? other ∧
    longer.type? other = table.type? other ∧ longer.kinds other = table.kinds other
  elsewhere {node sensor : UInt8} {word : String} : (node, sensor, word) ≠ binding.key →
    longer.itemFor? node sensor word = table.itemFor? node sensor word
  size_eq : longer.size = table.size + 1

variable {table longer : BindingTable} {item : String} {type : ItemType} {text : String} {binding : Binding}

theorem binding?_eq_none_iff : table.binding? item = none ↔ table.find? item = none :=
  Option.map_eq_none_iff

theorem Built.holder?_eq_none_iff (built : table.Built) :
    table.holder? binding = none ↔ ∀ other, table.binding? other ≠ some binding := by
  simp only [Option.eq_none_iff_forall_ne_some, ne_eq, built.holder?_eq_some_iff]

theorem sharedKinds_eq_nil_iff {channel : Channel} :
    type.sharedKinds channel = [] ↔ ∀ kind ∈ type.kinds, kind ∉ channel.kinds := by
  simp [ItemType.sharedKinds, List.filter_eq_nil_iff]

/-- A call with a reason to fail fails for it, and leaves the table as it is. -/
theorem Built.attempt_of_refuses (built : table.Built) {cause : BindingError}
    (refuses : table.Refuses item type text cause) : table.attempt item type text = (.error cause, table) := by
  rw [attempt_eq]
  cases refuses with
  | misread read => rw [read]
  | duplicateItem read bound =>
    have named : (table.find? item).isSome := Option.isSome_iff_ne_none.mpr (mt binding?_eq_none_iff.mpr bound)
    simp only [read, named, if_true]
  | duplicateBinding read free held =>
    have holder := (built.holder?_eq_some_iff _ _).mpr held
    simp only [read, binding?_eq_none_iff.mp free, Option.isSome_none, Bool.false_eq_true, if_false, holder]
  | unsupported read free unheld apart =>
    simp only [read, binding?_eq_none_iff.mp free, Option.isSome_none, Bool.false_eq_true, if_false,
      built.holder?_eq_none_iff.mpr unheld, sharedKinds_eq_nil_iff.mpr apart, List.isEmpty_nil, if_true]

/-- A call that fails has a reason to. -/
theorem Built.refuses_of_error (built : table.Built) {cause : BindingError}
    (failed : (table.attempt item type text).1 = .error cause) : table.Refuses item type text cause := by
  rw [attempt_eq] at failed
  cases read : Binding.parse text with
  | error fault =>
    rw [read] at failed
    obtain rfl := Except.error.inj failed
    exact .misread read
  | ok spelled =>
    rw [read] at failed
    dsimp only at failed
    split at failed
    · rename_i named
      obtain rfl := Except.error.inj failed
      exact .duplicateItem read (mt binding?_eq_none_iff.mp (Option.isSome_iff_ne_none.mp named))
    rename_i unnamed
    have free : table.binding? item = none := binding?_eq_none_iff.mpr (Option.not_isSome_iff_eq_none.mp unnamed)
    cases held : table.holder? spelled with
    | some holder =>
      rw [held] at failed
      obtain rfl := Except.error.inj failed
      exact .duplicateBinding read free ((built.holder?_eq_some_iff _ _).mp held)
    | none =>
      rw [held] at failed
      dsimp only at failed
      split at failed
      · rename_i apart
        obtain rfl := Except.error.inj failed
        exact .unsupported read free (built.holder?_eq_none_iff.mp held)
          (sharedKinds_eq_nil_iff.mp (List.isEmpty_iff.mp apart))
      · exact nomatch failed

theorem Built.attempt (built : table.Built) (item : String) (type : ItemType) (text : String) :
    (table.attempt item type text).2.Built := by
  cases outcome : (table.attempt item type text).1 with
  | error cause =>
    rw [built.attempt_of_refuses (built.refuses_of_error outcome)]
    exact built
  | ok binding => exact built.bind (bind_eq_ok_iff.mpr (Prod.ext outcome rfl))

theorem built_filled (calls : List Call) : (filled calls).Built := by
  induction calls using List.reverseRecOn with
  | nil => exact .empty
  | append_singleton calls call ih =>
    rw [filled, List.foldl_append]
    exact ih.attempt call.item call.type call.text

theorem Built.entry {table : BindingTable} (built : table.Built) {entry : BoundItem} (member : entry ∈ table.items) :
    entry.kinds ≠ [] ∧ entry.kinds = entry.type.sharedKinds entry.binding.channel := by
  induction built with
  | empty => exact nomatch member
  | bind _ bound ih =>
    obtain ⟨_, _, _, shared, rfl⟩ := attempt_ok (bind_eq_ok_iff.mp bound)
    rcases List.mem_append.mp member with older | newest
    · exact ih older
    · obtain rfl := List.mem_singleton.mp newest
      exact ⟨shared, rfl⟩

theorem itemFor?_name (table : BindingTable) (node sensor : UInt8) (channel : Channel) :
    table.itemFor? node sensor channel.name = table.holder? ⟨node, sensor, channel⟩ := by
  rw [itemFor?, Channel.ofName?_name, Option.bind_some]

theorem names_perm (table : BindingTable) : table.names.Perm (table.items.map (·.name)) :=
  List.mergeSort_perm _ _

theorem Built.sorted (built : table.Built) : table.names.Pairwise (· < ·) := by
  have ascending : table.names.Pairwise (· ≤ ·) := List.pairwise_mergeSort' _ _
  have distinct : table.names.Nodup := table.names_perm.nodup_iff.mpr built.nodup.1
  exact (ascending.and distinct).imp fun ⟨le, ne⟩ => lt_of_le_of_ne le ne

theorem mem_names (table : BindingTable) (item : String) : item ∈ table.names ↔ (table.binding? item).isSome := by
  rw [table.names_perm.mem_iff, binding?, Option.isSome_map, find?, List.find?_isSome]
  simp

theorem Built.consistent (built : table.Built) : table.Consistent where
  itemFor?_eq_some_iff node sensor word item := by
    constructor
    · intro found
      obtain ⟨channel, named, held⟩ := Option.bind_eq_some_iff.mp found
      exact ⟨channel, (Channel.ofName?_eq_some_iff word channel).mp named, (built.holder?_eq_some_iff _ _).mp held⟩
    · rintro ⟨channel, rfl, bound⟩
      rw [itemFor?_name]
      exact (built.holder?_eq_some_iff _ _).mpr bound
  exclusive first second := by
    have held := (built.holder?_eq_some_iff _ _).mpr first
    exact Option.some.inj (held.symm.trans ((built.holder?_eq_some_iff _ _).mpr second))
  unbound free := by
    simp [type?, kinds, binding?_eq_none_iff.mp free]
  bound {item binding} bound := by
    obtain ⟨entry, found, rfl⟩ := Option.map_eq_some_iff.mp bound
    obtain ⟨shared, kinds⟩ := built.entry (List.mem_of_find?_eq_some found)
    have exchanged : table.kinds item = entry.kinds := by rw [BindingTable.kinds, found]; rfl
    exact ⟨entry.type, by rw [type?, found]; rfl, exchanged ▸ shared, exchanged.trans kinds⟩
  sorted := built.sorted
  mem_names := table.mem_names
  size_eq := by rw [table.names_perm.length_eq, List.length_map]; rfl

/-- An entry at the end is found under its own name, if there was none for it. -/
theorem find?_concat {entry : BoundItem} {holders : List ((UInt8 × UInt8 × String) × String)}
    (unnamed : table.find? entry.name = none) (other : String) :
    find? ⟨table.items ++ [entry], holders⟩ other = if other = entry.name then some entry else table.find? other := by
  rw [find?, List.find?_append, List.find?_singleton]
  rcases eq_or_ne other entry.name with rfl | apart
  · have older : table.items.find? (·.name = entry.name) = none := unnamed
    simp [older]
  · simp [apart, apart.symm, find?]

/-- A holder at the end is found under its own binding, if there was none for it. -/
theorem holder?_concat {items : List BoundItem} (unheld : table.holder? binding = none) (other : Binding) :
    holder? ⟨items, table.holders ++ [(binding.key, item)]⟩ other =
      if other = binding then some item else table.holder? other := by
  rw [holder?, List.find?_append, List.find?_singleton]
  by_cases own : other = binding
  · have older := Option.map_eq_none_iff.mp unheld
    simp [own, older]
  · have apart : binding.key ≠ other.key := fun same => own (Binding.key_injective same).symm
    simp [own, apart, holder?]

theorem attempt_gains (entered : table.attempt item type text = (.ok binding, longer)) :
    table.Gains longer item type binding := by
  obtain ⟨_, unnamed, unheld, _, rfl⟩ := attempt_ok entered
  constructor
  case fresh => exact ⟨binding?_eq_none_iff.mpr unnamed, (table.itemFor?_name _ _ _).trans unheld⟩
  case own =>
    rw [binding?, type?, find?_concat unnamed, if_pos rfl, itemFor?_name, holder?_concat unheld, if_pos rfl]
    exact ⟨rfl, rfl, rfl⟩
  case others =>
    intro other apart
    rw [binding?, type?, kinds, find?_concat unnamed, if_neg apart]
    exact ⟨rfl, rfl, rfl⟩
  case elsewhere =>
    intro node sensor word apart
    refine Option.bind_congr fun channel named => ?_
    obtain rfl := (Channel.ofName?_eq_some_iff word channel).mp named
    rw [holder?_concat unheld, if_neg]
    rintro rfl
    exact apart rfl
  case size_eq => exact List.length_append

/-- After any calls, whether they worked or not, the look-ups of the table agree with each other. One more call fails
for the first reason that there is, and then it leaves the table as it is; or it works, and then it changes the look-ups
of its own item and of its own channel only. -/
theorem attempt_filled (calls : List Call) (item : String) (type : ItemType) (text : String) :
    let table := filled calls
    let outcome := (table.attempt item type text).1
    let longer := (table.attempt item type text).2
    table.Consistent ∧
      (∀ cause, outcome = .error cause ↔ table.Refuses item type text cause) ∧
      (∀ cause, outcome = .error cause → longer = table) ∧
      ∀ binding, outcome = .ok binding → Binding.parse text = .ok binding ∧ table.Gains longer item type binding := by
  intro table outcome longer
  have built : table.Built := built_filled calls
  have entered : table.attempt item type text = (outcome, longer) := Prod.mk.eta.symm
  clear_value outcome longer
  refine ⟨built.consistent, fun cause => ⟨?_, fun refuses => ?_⟩, ?_, ?_⟩
  · rintro rfl
    exact built.refuses_of_error (congrArg Prod.fst entered)
  · rw [built.attempt_of_refuses refuses] at entered
    exact (Prod.mk.inj entered).1.symm
  · rintro cause rfl
    rw [built.attempt_of_refuses (built.refuses_of_error (congrArg Prod.fst entered))] at entered
    exact (Prod.mk.inj entered).2.symm
  · rintro binding rfl
    exact ⟨(attempt_ok entered).1, attempt_gains entered⟩

/-- A dimmer on a channel that only takes on and off, and another call for the same item. -/
def dimmerCalls : List Call :=
  [⟨"Lamp", .dimmer, " 012;002;V_STATUS"⟩, ⟨"Lamp", .switch, "7;1;V_STATUS"⟩]

theorem attempt_filled_dimmer :
    (filled dimmerCalls).binding? "Lamp" = some ⟨12, 2, .signal .status⟩ ∧
      (filled dimmerCalls).kinds "Lamp" = [.onOff] ∧
      (filled dimmerCalls).Refuses "Fan" .switch "12;2;V_STATUS" (.duplicateBinding ⟨12, 2, .signal .status⟩ "Lamp") ∧
      ((filled dimmerCalls).attempt "Fan" .switch "12;2;V_STATUS").2 = filled dimmerCalls := by
  have failed : ((filled dimmerCalls).attempt "Fan" .switch "12;2;V_STATUS").1 =
      .error (.duplicateBinding ⟨12, 2, .signal .status⟩ "Lamp") := by cbv
  obtain ⟨_, refuses, unchanged, _⟩ := attempt_filled dimmerCalls "Fan" .switch "12;2;V_STATUS"
  exact ⟨by cbv, by cbv, (refuses _).mp failed, unchanged _ failed⟩

end SensorGateway.BindingTable
