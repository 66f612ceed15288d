import Mathlib.Data.List.Forall2
import Mathlib.Data.List.Nodup
import SchemaDelta.KeyedList
import SchemaDelta.Schema.Snapshot

/-!
# Lookups by name

Among items with different names a lookup finds exactly the bearer of the name. It does not matter
then from which end a list is searched, so the two kinds of lookup in a schema agree. A map that was
made from a list of bindings has the last one of each key. In lists that are related item by item
every item has a partner.
-/

namespace SchemaDelta

section Pairs

variable {α β : Type} {R : α → β → Prop} {xs : List α} {ys : List β}

theorem exists_right_of_forall₂ (pairs : List.Forall₂ R xs ys) {x : α} (member : x ∈ xs) :
    ∃ y ∈ ys, R x y := by
  induction pairs with
  | nil => cases member
  | cons first _ ih =>
    rcases List.mem_cons.mp member with rfl | later
    · exact ⟨_, List.mem_cons_self, first⟩
    · obtain ⟨y, among, related⟩ := ih later
      exact ⟨y, List.mem_cons_of_mem _ among, related⟩

theorem exists_left_of_forall₂ (pairs : List.Forall₂ R xs ys) {y : β} (member : y ∈ ys) :
    ∃ x ∈ xs, R x y :=
  exists_right_of_forall₂ (R := flip R) pairs.flip member

/-- All items have a result exactly when each of them has. -/
theorem mapM_eq_some_iff {f : α → Option β} {items : List α} {results : List β} :
    items.mapM f = some results ↔
      List.Forall₂ (fun item result => f item = some result) items results := by
  induction items generalizing results with
  | nil => simp [eq_comm]
  | cons item items ih =>
    rw [List.mapM_cons, List.forall₂_cons_left_iff]
    constructor
    · intro made
      obtain ⟨result, head, made⟩ := Option.bind_eq_some_iff.mp made
      obtain ⟨rest, tail, whole⟩ := Option.bind_eq_some_iff.mp made
      cases whole
      exact ⟨result, rest, head, ih.mp tail, rfl⟩
    · rintro ⟨result, rest, head, tail, rfl⟩
      rw [head, ih.mpr tail]
      rfl

end Pairs

section Named

variable {α : Type} {items : List α} {name : α → String} {key : String} {item : α}

theorem find?_name_eq_some_iff (distinct : (items.map name).Nodup) :
    items.find? (name · == key) = some item ↔ item ∈ items ∧ name item = key := by
  constructor
  · intro found
    exact ⟨List.mem_of_find?_eq_some found, by simpa using List.find?_some found⟩
  · rintro ⟨member, rfl⟩
    have some : (items.find? (name · == name item)).isSome := by
      simp only [List.find?_isSome]
      exact ⟨item, member, by simp⟩
    obtain ⟨other, found⟩ := Option.isSome_iff_exists.mp some
    have same : name other = name item := by simpa using List.find?_some found
    have member' := List.mem_of_find?_eq_some found
    rw [found, List.inj_on_of_nodup_map distinct member' member same]

theorem find?_name_isSome_iff :
    (items.find? (name · == key)).isSome ↔ key ∈ items.map name := by
  simp [List.find?_isSome]

/-- Among items with different names it does not matter in which order they are searched. -/
theorem find?_name_perm {items' : List α} (distinct : (items.map name).Nodup)
    (permuted : items.Perm items') :
    items.find? (name · == key) = items'.find? (name · == key) := by
  have distinct' : (items'.map name).Nodup := (permuted.map name).nodup_iff.mp distinct
  apply Option.ext
  intro item
  rw [find?_name_eq_some_iff distinct, find?_name_eq_some_iff distinct', permuted.mem_iff]

theorem find?_name_reverse (distinct : (items.map name).Nodup) :
    items.reverse.find? (name · == key) = items.find? (name · == key) :=
  (find?_name_perm distinct (List.reverse_perm items).symm).symm

end Named

namespace KeyedList

variable {α : Type}

theorem get?_cons (key : String) (value : α) (map : List (String × α)) (other : String) :
    get? ((key, value) :: map) other = if other = key then some value else get? map other := by
  rw [get?, List.lookup_cons]
  by_cases same : other = key
  · simp [same]
  · simp [get?, same, beq_false_of_ne same]

theorem get?_insert (key : String) (value : α) (map : List (String × α)) (other : String) :
    get? (insert key value map) other = if other = key then some value else get? map other := by
  induction map with
  | nil => exact get?_cons key value [] other
  | cons binding map ih =>
    obtain ⟨k, v⟩ := binding
    rw [insert]
    split_ifs <;> grind [get?_cons]

/-- A key has the value of its last binding. -/
theorem get?_ofList (bindings : List (String × α)) (key : String) :
    get? (ofList bindings) key = (bindings.reverse.find? (·.1 == key)).map Prod.snd := by
  rw [ofList, ← List.foldr_reverse]
  induction bindings.reverse with
  | nil => rfl
  | cons binding bindings ih =>
    rw [List.foldr_cons, get?_insert, List.find?_cons, ih]
    by_cases same : key = binding.1
    · simp [same]
    · simp [same, beq_false_of_ne (Ne.symm same)]

end KeyedList

namespace Table

variable {table : Table} {key : String} {field : Field}

theorem field?_eq_some_iff (distinct : (table.fields.map Field.name).Nodup) :
    table.field? key = some field ↔ field ∈ table.fields ∧ field.name = key :=
  find?_name_eq_some_iff distinct

theorem field?_isSome_iff : (table.field? key).isSome ↔ key ∈ table.fields.map Field.name :=
  find?_name_isSome_iff

theorem field?_eq_none_iff : table.field? key = none ↔ key ∉ table.fields.map Field.name := by
  rw [← field?_isSome_iff, Option.not_isSome_iff_eq_none]

theorem lastField?_eq_field? (distinct : (table.fields.map Field.name).Nodup) :
    table.lastField? key = table.field? key :=
  find?_name_reverse distinct

theorem name_of_field? (found : table.field? key = some field) : field.name = key := by
  simpa using List.find?_some found

theorem mem_of_field? (found : table.field? key = some field) : field ∈ table.fields :=
  List.mem_of_find?_eq_some found

end Table

namespace Snapshot

variable {snapshot : Snapshot} {key : String} {table : Table}

theorem table?_eq_some_iff (distinct : snapshot.tableNames.Nodup) :
    snapshot.table? key = some table ↔ table ∈ snapshot.tables ∧ table.name = key :=
  find?_name_eq_some_iff distinct

theorem table?_isSome_iff : (snapshot.table? key).isSome ↔ key ∈ snapshot.tableNames :=
  find?_name_isSome_iff

theorem table?_eq_none_iff : snapshot.table? key = none ↔ key ∉ snapshot.tableNames := by
  rw [← table?_isSome_iff, Option.not_isSome_iff_eq_none]

theorem lastTable?_eq_table? (distinct : snapshot.tableNames.Nodup) :
    snapshot.lastTable? key = snapshot.table? key :=
  find?_name_reverse distinct

theorem name_of_table? (found : snapshot.table? key = some table) : table.name = key := by
  simpa using List.find?_some found

theorem mem_of_table? (found : snapshot.table? key = some table) : table ∈ snapshot.tables :=
  List.mem_of_find?_eq_some found

/-- The first field of a name in the first table of a name. -/
def field? (snapshot : Snapshot) (table name : String) : Option Field :=
  (snapshot.table? table).bind (·.field? name)

/-- The foreign key that a field declares. -/
def foreignKey? (snapshot : Snapshot) (table field : String) : Option ForeignKey :=
  ((snapshot.table? table).bind (·.field? field)).bind Field.foreignKey

theorem field?_of_table? (found : snapshot.table? key = some table) (name : String) :
    snapshot.field? key name = table.field? name := by
  rw [field?, found, Option.bind_some]

theorem table?_isSome_of_field? {field : Field} {name : String}
    (found : snapshot.field? key name = some field) : (snapshot.table? key).isSome := by
  obtain ⟨table, declared, -⟩ := Option.bind_eq_some_iff.mp found
  simp [declared]

theorem name_of_field? {field : Field} {name : String}
    (found : snapshot.field? key name = some field) : field.name = name := by
  obtain ⟨table, -, declared⟩ := Option.bind_eq_some_iff.mp found
  exact Table.name_of_field? declared

theorem foreignKey?_of_field? {field : Field} {name : String}
    (found : snapshot.field? key name = some field) :
    snapshot.foreignKey? key name = field.foreignKey := by
  change (snapshot.field? key name).bind Field.foreignKey = field.foreignKey
  rw [found, Option.bind_some]

theorem foreignKey?_of_field?_eq_none {name : String}
    (absent : snapshot.field? key name = none) : snapshot.foreignKey? key name = none := by
  change (snapshot.field? key name).bind Field.foreignKey = none
  rw [absent, Option.bind_none]

end Snapshot

end SchemaDelta
