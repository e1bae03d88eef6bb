import SensorGateway.Configuration.Basic
import SensorGateway.Proofs.Binding.Entering

namespace SensorGateway

/-- The item that an entry describes, if its binding can be read. -/
def ItemEntry.bound? (entry : ItemEntry) : Option BoundItem :=
  (Binding.parse entry.binding).toOption.map fun binding =>
    ⟨entry.name, entry.type, binding, entry.type.sharedKinds binding.channel⟩

namespace BindingTable

/-- Entries that fit together: their bindings can be read, each has a kind of value in common with its channel, and
neither names nor bindings repeat. -/
structure Bindable (entries : List ItemEntry) : Prop where
  reads : ∀ entry ∈ entries, ∃ binding, Binding.parse entry.binding = .ok binding ∧
    ∃ kind ∈ entry.type.kinds, kind ∈ binding.channel.kinds
  names : (entries.map (·.name)).Nodup
  bindings : (entries.map fun entry => Binding.parse entry.binding).Nodup

/-- Two tables in which everything that can be looked up is the same. -/
structure SameLookups (table other : BindingTable) : Prop where
  itemFor? (node sensor : UInt8) (word : String) : other.itemFor? node sensor word = table.itemFor? node sensor word
  binding? (item : String) : other.binding? item = table.binding? item
  kinds (item : String) : other.kinds item = table.kinds item
  type? (item : String) : other.type? item = table.type? item
  names : other.names = table.names

variable {table longer : BindingTable} {entry : ItemEntry} {entries : List ItemEntry}

theorem Bindable.perm {other : List ItemEntry} (bindable : Bindable entries) (perm : other.Perm entries) :
    Bindable other where
  reads entry member := bindable.reads entry (perm.mem_iff.mp member)
  names := (perm.map _).nodup_iff.mpr bindable.names
  bindings := (perm.map _).nodup_iff.mpr bindable.bindings

theorem bindable_concat_iff : Bindable (entries ++ [entry]) ↔
    Bindable entries ∧
      (∃ binding, Binding.parse entry.binding = .ok binding ∧ ∃ kind ∈ entry.type.kinds, kind ∈ binding.channel.kinds) ∧
      (∀ other ∈ entries, other.name ≠ entry.name) ∧
      ∀ other ∈ entries, Binding.parse other.binding ≠ Binding.parse entry.binding := by
  have apart {α : Type} (f : ItemEntry → α) : ((entries ++ [entry]).map f).Nodup ↔
      (entries.map f).Nodup ∧ ∀ other ∈ entries, f other ≠ f entry := by
    rw [List.map_append, List.map_singleton, List.nodup_append]
    simp
  constructor
  · rintro ⟨reads, names, bindings⟩
    rw [apart] at names bindings
    refine ⟨⟨fun other member => reads other (List.mem_append_left _ member), names.1, bindings.1⟩, ?_, names.2,
      bindings.2⟩
    exact reads entry (List.mem_append_right _ (List.mem_singleton_self _))
  · rintro ⟨⟨reads, names, bindings⟩, last, newName, newBinding⟩
    refine ⟨fun other member => ?_, (apart _).mpr ⟨names, newName⟩, (apart _).mpr ⟨bindings, newBinding⟩⟩
    rcases List.mem_append.mp member with earlier | newest
    · exact reads other earlier
    · obtain rfl := List.mem_singleton.mp newest
      exact last

/-- An item can be bound exactly when there is no reason to refuse it. -/
theorem Built.exists_bind_iff (built : table.Built) (item : String) (type : ItemType) (text : String) :
    (∃ binding longer, table.bind item type text = .ok (binding, longer)) ↔
      ∃ binding, Binding.parse text = .ok binding ∧ table.binding? item = none ∧
        (∀ other, table.binding? other ≠ some binding) ∧ ∃ kind ∈ type.kinds, kind ∈ binding.channel.kinds := by
  simp only [bind_eq_ok_iff]
  constructor
  · rintro ⟨binding, longer, entered⟩
    obtain ⟨read, unnamed, unheld, shared, _⟩ := attempt_ok entered
    have common : ¬ ∀ kind ∈ type.kinds, kind ∉ binding.channel.kinds := mt sharedKinds_eq_nil_iff.mpr shared
    exact ⟨binding, read, binding?_eq_none_iff.mpr unnamed, built.holder?_eq_none_iff.mp unheld, by simpa using common⟩
  · rintro ⟨binding, read, free, unheld, kind, taken, carried⟩
    rcases outcome : table.attempt item type text with ⟨result, longer⟩
    cases result with
    | ok found => exact ⟨found, longer, rfl⟩
    | error cause =>
      cases built.refuses_of_error (congrArg Prod.fst outcome) with
      | misread misread => cases read.symm.trans misread
      | duplicateItem _ bound => exact absurd free bound
      | duplicateBinding again _ held =>
        obtain rfl := Except.ok.inj (read.symm.trans again)
        exact absurd held (unheld _)
      | unsupported again _ _ apart =>
        obtain rfl := Except.ok.inj (read.symm.trans again)
        exact absurd carried (apart kind taken)

theorem bindAll_append (table : BindingTable) (first second : List ItemEntry) :
    table.bindAll (first ++ second) =
      match table.bindAll first with
      | .ok longer => longer.bindAll second
      | .error cause => .error cause := by
  induction first generalizing table with
  | nil => rfl
  | cons entry first ih =>
    rw [List.cons_append, bindAll, bindAll]
    cases table.bind entry.name entry.type entry.binding with
    | error cause => rfl
    | ok bound => exact ih bound.2

theorem bindAll_concat_eq_ok_iff : table.bindAll (entries ++ [entry]) = .ok longer ↔
    ∃ middle binding, table.bindAll entries = .ok middle ∧
      middle.bind entry.name entry.type entry.binding = .ok (binding, longer) := by
  rw [bindAll_append]
  cases table.bindAll entries with
  | error cause => simp
  | ok middle =>
    simp only [bindAll]
    cases outcome : middle.bind entry.name entry.type entry.binding with
    | error cause => simp [outcome]
    | ok bound => simp [outcome, Prod.ext_iff]

/-- Binding fails for the first entry that cannot be bound after those before it. -/
theorem bindAll_eq_error_iff {cause : ConfigurationError} : table.bindAll entries = .error cause ↔
    ∃ before entry after middle fault, entries = before ++ entry :: after ∧ table.bindAll before = .ok middle ∧
      middle.bind entry.name entry.type entry.binding = .error fault ∧ cause = .item entry.name fault := by
  constructor
  · intro failed
    induction entries generalizing table with
    | nil => cases failed
    | cons entry entries ih =>
      rw [bindAll] at failed
      cases outcome : table.bind entry.name entry.type entry.binding with
      | error fault =>
        rw [outcome] at failed
        exact ⟨[], entry, entries, table, fault, rfl, rfl, outcome, (Except.error.inj failed).symm⟩
      | ok bound =>
        rw [outcome] at failed
        obtain ⟨before, culprit, after, middle, fault, rfl, earlier, refused, named⟩ := ih failed
        refine ⟨entry :: before, culprit, after, middle, fault, rfl, ?_, refused, named⟩
        rw [bindAll, outcome]
        exact earlier
  · rintro ⟨before, entry, after, middle, fault, rfl, earlier, refused, rfl⟩
    rw [bindAll_append, earlier]
    simp only [bindAll, refused]

theorem exists_bindAll_of_prefix {front : List ItemEntry} (bound : table.bindAll entries = .ok longer)
    (start : front <+: entries) : ∃ shorter, table.bindAll front = .ok shorter := by
  obtain ⟨rest, rfl⟩ := start
  rw [bindAll_append] at bound
  cases outcome : table.bindAll front with
  | ok shorter => exact ⟨shorter, rfl⟩
  | error cause =>
    rw [outcome] at bound
    cases bound

/-- All that was bound is in the table, in order. -/
theorem bindAll_items (bound : table.bindAll entries = .ok longer) :
    longer.items = table.items ++ entries.filterMap ItemEntry.bound? := by
  induction entries generalizing table with
  | nil =>
    obtain rfl := Except.ok.inj bound
    simp
  | cons entry entries ih =>
    rw [bindAll] at bound
    cases outcome : table.bind entry.name entry.type entry.binding with
    | error cause =>
      rw [outcome] at bound
      cases bound
    | ok entered =>
      obtain ⟨binding, middle⟩ := entered
      rw [outcome] at bound
      obtain ⟨read, _, _, _, rfl⟩ := attempt_ok (bind_eq_ok_iff.mp outcome)
      have item : entry.bound? = some ⟨entry.name, entry.type, binding, entry.type.sharedKinds binding.channel⟩ := by
        rw [ItemEntry.bound?, read]
        rfl
      rw [ih bound, List.filterMap_cons_some item, List.append_assoc, List.singleton_append]

theorem Built.bindAll (built : table.Built) (bound : table.bindAll entries = .ok longer) : longer.Built := by
  induction entries using List.reverseRecOn generalizing longer with
  | nil =>
    obtain rfl := Except.ok.inj bound
    exact built
  | append_singleton entries entry ih =>
    obtain ⟨middle, binding, earlier, last⟩ := bindAll_concat_eq_ok_iff.mp bound
    exact (ih earlier).bind last

/-- The bindings that can be looked up are those of the entries. -/
theorem binding?_bindAll_iff (bound : empty.bindAll entries = .ok table) (item : String) (binding : Binding) :
    table.binding? item = some binding ↔
      ∃ entry ∈ entries, entry.name = item ∧ Binding.parse entry.binding = .ok binding := by
  have built := Built.empty.bindAll bound
  have items := bindAll_items bound
  rw [empty, List.nil_append] at items
  simp only [binding?, Option.map_eq_some_iff, find?, find?_eq_some_iff_of_nodup built.nodup.1]
  simp only [items, List.mem_filterMap, ItemEntry.bound?, Option.map_eq_some_iff]
  constructor
  · rintro ⟨_, ⟨⟨entry, member, read, known, rfl⟩, rfl⟩, rfl⟩
    refine ⟨entry, member, rfl, ?_⟩
    cases outcome : Binding.parse entry.binding with
    | error cause =>
      rw [outcome] at known
      cases known
    | ok found =>
      rw [outcome] at known
      rw [Option.some.inj known]
  · rintro ⟨entry, member, rfl, read⟩
    exact ⟨_, ⟨⟨entry, member, binding, by rw [read]; rfl, rfl⟩, rfl⟩, rfl⟩

/-- Entries can be bound one after the other exactly when they fit together. -/
theorem exists_bindAll_iff (entries : List ItemEntry) :
    (∃ table, empty.bindAll entries = .ok table) ↔ Bindable entries := by
  induction entries using List.reverseRecOn with
  | nil => exact ⟨fun _ => ⟨nofun, .nil, .nil⟩, fun _ => ⟨_, rfl⟩⟩
  | append_singleton entries entry ih =>
    rw [bindable_concat_iff, ← ih]
    constructor
    · rintro ⟨longer, bound⟩
      obtain ⟨middle, found, earlier, last⟩ := bindAll_concat_eq_ok_iff.mp bound
      have built := Built.empty.bindAll earlier
      obtain ⟨binding, read, free, unheld, shared⟩ := (built.exists_bind_iff _ _ _).mp ⟨found, longer, last⟩
      have reads := (ih.mp ⟨middle, earlier⟩).reads
      refine ⟨⟨middle, earlier⟩, ⟨binding, read, shared⟩, fun other member named => ?_, fun other member same => ?_⟩
      · obtain ⟨taken, readOther, _⟩ := reads other member
        have held := (binding?_bindAll_iff earlier _ _).mpr ⟨other, member, named, readOther⟩
        cases free.symm.trans held
      · have held := (binding?_bindAll_iff earlier _ _).mpr ⟨other, member, rfl, same.trans read⟩
        exact unheld other.name held
    · rintro ⟨⟨middle, earlier⟩, ⟨binding, read, shared⟩, newName, newBinding⟩
      have built := Built.empty.bindAll earlier
      have free : middle.binding? entry.name = none := by
        refine Option.eq_none_iff_forall_ne_some.mpr fun taken held => ?_
        obtain ⟨other, member, named, _⟩ := (binding?_bindAll_iff earlier _ _).mp held
        exact newName other member named
      have unheld : ∀ name, middle.binding? name ≠ some binding := by
        intro name held
        obtain ⟨other, member, _, readOther⟩ := (binding?_bindAll_iff earlier _ _).mp held
        exact newBinding other member (readOther.trans read.symm)
      obtain ⟨found, longer, last⟩ := (built.exists_bind_iff _ _ _).mpr ⟨binding, read, free, unheld, shared⟩
      exact ⟨longer, bindAll_concat_eq_ok_iff.mpr ⟨middle, found, earlier, last⟩⟩

/-- Where two tables hold the same items, all their look-ups are the same. -/
theorem Built.sameLookups {other : BindingTable} (built : table.Built) (built' : other.Built)
    (perm : other.items.Perm table.items) : table.SameLookups other := by
  have entry (item : String) : other.find? item = table.find? item := by
    ext found
    simp only [find?, find?_eq_some_iff_of_nodup built.nodup.1, find?_eq_some_iff_of_nodup built'.nodup.1,
      perm.mem_iff]
  have binding (item : String) : other.binding? item = table.binding? item := congrArg _ (entry item)
  constructor
  case binding? => exact binding
  case kinds =>
    intro item
    rw [BindingTable.kinds, entry, BindingTable.kinds]
  case type? => exact fun item => congrArg _ (entry item)
  case itemFor? =>
    intro node sensor word
    ext item
    rw [built.consistent.itemFor?_eq_some_iff, built'.consistent.itemFor?_eq_some_iff, binding]
  case names =>
    have names : other.names.Perm table.names :=
      other.names_perm.trans ((perm.map _).trans table.names_perm.symm)
    exact names.eq_of_pairwise' built'.sorted built.sorted

end BindingTable

namespace Configuration

/-- Configured items are bound exactly when they fit together, and then in any other order too, with the same look-ups.
If they are not, the error names the first item that cannot be bound after those before it, and these can be bound, as
can any of them from the first on. -/
theorem bindingTable_order (c : Configuration) :
    ((∃ table, c.bindingTable = .ok table) ↔ BindingTable.Bindable c.items) ∧
      (∀ table, c.bindingTable = .ok table → ∀ other : Configuration, other.items.Perm c.items →
        ∃ same, other.bindingTable = .ok same ∧ table.SameLookups same) ∧
      ∀ cause, c.bindingTable = .error cause → ∃ before entry after table fault,
        c.items = before ++ entry :: after ∧ { c with items := before }.bindingTable = .ok table ∧
          table.bind entry.name entry.type entry.binding = .error fault ∧ cause = .item entry.name fault ∧
          ∀ front, front <+: before → ∃ shorter, { c with items := front }.bindingTable = .ok shorter := by
  refine ⟨BindingTable.exists_bindAll_iff c.items, fun table bound other perm => ?_, fun cause failed => ?_⟩
  · have bindable := (BindingTable.exists_bindAll_iff c.items).mp ⟨table, bound⟩
    obtain ⟨same, bound'⟩ := (BindingTable.exists_bindAll_iff other.items).mpr (bindable.perm perm)
    have items := BindingTable.bindAll_items bound
    have items' := BindingTable.bindAll_items bound'
    refine ⟨same, bound', BindingTable.Built.sameLookups (.bindAll .empty bound) (.bindAll .empty bound') ?_⟩
    rw [items, items']
    exact (perm.filterMap _).append_left _
  · obtain ⟨before, entry, after, table, fault, split, earlier, refused, named⟩ :=
      BindingTable.bindAll_eq_error_iff.mp failed
    refine ⟨before, entry, after, table, fault, split, earlier, refused, named, fun front start => ?_⟩
    exact BindingTable.exists_bindAll_of_prefix earlier start

/-- A dimmer and a thermometer. -/
def house : Configuration where
  settings := ⟨.network "gateway" 5003, 60000, true⟩
  items := [⟨"Lamp", .dimmer, "12;2;V_STATUS"⟩, ⟨"Outside", .number, "5;3;V_TEMP"⟩]
  logLevel := none

/-- The same, and a fan on the channel of the lamp, which is spelled with zeros in front. -/
def crowded : Configuration :=
  { house with items := house.items ++ [⟨"Fan", .switch, " 012;002;V_STATUS"⟩] }

theorem bindingTable_order_house :
    (∃ same, { house with items := house.items.reverse }.bindingTable = .ok same ∧
      same.itemFor? 12 2 "V_STATUS" = some "Lamp" ∧ same.names = ["Lamp", "Outside"]) ∧
    ∃ before entry after, crowded.items = before ++ entry :: after ∧ entry.name = "Fan" ∧
      ∃ shorter, { crowded with items := before }.bindingTable = .ok shorter := by
  let table : BindingTable :=
    ⟨[⟨"Lamp", .dimmer, ⟨12, 2, .signal .status⟩, [.onOff]⟩, ⟨"Outside", .number, ⟨5, 3, .signal .temp⟩, [.decimal]⟩],
      [((12, 2, "V_STATUS"), "Lamp"), ((5, 3, "V_TEMP"), "Outside")]⟩
  have bound : house.bindingTable = .ok table := by cbv
  have failed : crowded.bindingTable =
      .error (.item "Fan" (.duplicateBinding ⟨12, 2, .signal .status⟩ "Lamp")) := by cbv
  obtain ⟨_, reorder, _⟩ := bindingTable_order house
  obtain ⟨same, bound', lookups⟩ :=
    reorder table bound { house with items := house.items.reverse } (List.reverse_perm _)
  obtain ⟨_, _, blame⟩ := bindingTable_order crowded
  obtain ⟨before, entry, after, _, _, split, earlier, _, named, shorter⟩ := blame _ failed
  have name : entry.name = "Fan" := (ConfigurationError.item.inj named).1.symm
  have held : table.itemFor? 12 2 "V_STATUS" = some "Lamp" := by cbv
  have listed : table.names = ["Lamp", "Outside"] := by cbv
  exact ⟨⟨same, bound', (lookups.itemFor? _ _ _).trans held, lookups.names.trans listed⟩,
    before, entry, after, split, name, shorter before (List.prefix_refl before)⟩

end Configuration

end SensorGateway
