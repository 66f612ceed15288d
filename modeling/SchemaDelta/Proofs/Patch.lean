import SchemaDelta.Proofs.Diff
import SchemaDelta.Proofs.Equivalence

/-!
# Diffs as patches

A diff says all that is needed to go from the old snapshot to the new one, and to go back. Applying
it removes, appends and overwrites what it records and looks at nothing else; reversing it swaps
what was added with what was removed, and the two values of every change.
-/

namespace SchemaDelta

namespace Change

variable {α : Type}

/-- The change that leads back. -/
def reverse (change : Change α) : Change α := ⟨change.after, change.before⟩

/-- The value that a recorded change leads to; without a record the value stays. -/
def overwrite (change : Option (Change α)) (value : α) : α := (change.map Change.after).getD value

end Change

namespace FieldModification

/-- Overwrites the recorded attributes of a field. -/
def apply (m : FieldModification) (field : Field) : Field where
  name := field.name
  type := Change.overwrite m.type field.type
  nullable := Change.overwrite m.nullable field.nullable
  primaryKey := Change.overwrite m.primaryKey field.primaryKey
  default := Change.overwrite m.default field.default
  foreignKey := Change.overwrite m.foreignKey field.foreignKey

/-- The modification that leads back. -/
def reverse (m : FieldModification) : FieldModification where
  name := m.name
  type := m.type.map Change.reverse
  nullable := m.nullable.map Change.reverse
  primaryKey := m.primaryKey.map Change.reverse
  default := m.default.map Change.reverse
  foreignKey := m.foreignKey.map Change.reverse

end FieldModification

namespace AccessChange

/-- Overwrites the recorded conditions of a table. -/
def apply (change : AccessChange) (access : AccessControl) : AccessControl where
  read := Change.overwrite change.read access.read
  create := Change.overwrite change.create access.create
  update := Change.overwrite change.update access.update
  delete := Change.overwrite change.delete access.delete

/-- The change that leads back. -/
def reverse (change : AccessChange) : AccessChange where
  table := change.table
  read := change.read.map Change.reverse
  create := change.create.map Change.reverse
  update := change.update.map Change.reverse
  delete := change.delete.map Change.reverse

end AccessChange

/-- Leaves out the items that have the name of a removed one, changes the others, and appends the
added ones. -/
def patchList {α : Type} (name : α → String) (removed : List α) (change : α → α) (added : List α)
    (items : List α) : List α :=
  (items.filter fun item => name item ∉ removed.map name).map change ++ added

namespace TableModification

/-- Overwrites the recorded attributes of a field, if there is a modification of its name. -/
def applyField (m : TableModification) (field : Field) : Field :=
  match m.fieldsModified.find? (·.name == field.name) with
  | some change => change.apply field
  | none => field

/-- Changes the fields of a table, and its conditions by the change recorded for them. -/
def apply (m : TableModification) (access : Option AccessChange) (table : Table) : Table where
  name := table.name
  fields := patchList Field.name m.fieldsRemoved m.applyField m.fieldsAdded table.fields
  access := (access.map (·.apply table.access)).getD table.access

/-- The modification that leads back. -/
def reverse (m : TableModification) : TableModification where
  table := m.table
  fieldsAdded := m.fieldsRemoved
  fieldsRemoved := m.fieldsAdded
  fieldsModified := m.fieldsModified.map FieldModification.reverse
  accessChanged := m.accessChanged

end TableModification

namespace Diff

/-- Changes a table, if there is a modification of its name. -/
def applyTable (diff : Diff) (table : Table) : Table :=
  match diff.modified.find? (·.table == table.name) with
  | some m => m.apply (diff.accessOf? table.name) table
  | none => table

/-- Changes a snapshot as the diff says. -/
def apply (diff : Diff) (snapshot : Snapshot) : Snapshot where
  tables := patchList Table.name diff.removed diff.applyTable diff.added snapshot.tables

/-- The diff that leads back. -/
def reverse (diff : Diff) : Diff where
  added := diff.removed
  removed := diff.added
  modified := diff.modified.map TableModification.reverse
  access := diff.access.map AccessChange.reverse

end Diff

/-! ## One value -/

namespace Change

variable {α : Type} [BEq α] [ReflBEq α]

theorem overwrite_between (before after : α) :
    (overwrite (between before after) before == after) = true := by
  unfold between
  cases same : before == after with
  | true => simpa [overwrite] using same
  | false => simp [overwrite]

theorem overwrite_reverse_between [Std.Symm fun x y : α => (x == y) = true] (before after : α) :
    (overwrite ((between before after).map reverse) after == before) = true := by
  unfold between
  cases same : before == after with
  | true => simpa [overwrite] using BEq.symm same
  | false => simp [overwrite, reverse]

end Change

namespace FieldModification

variable {before after : Field}

theorem apply_between (named : before.name = after.name) :
    ((between before after).apply before).Equivalent after where
  name := named
  type := eq_of_beq (Change.overwrite_between before.type after.type)
  nullable := eq_of_beq (Change.overwrite_between before.nullable after.nullable)
  primaryKey := eq_of_beq (Change.overwrite_between before.primaryKey after.primaryKey)
  default := Change.overwrite_between before.default after.default
  foreignKey := eq_of_beq (Change.overwrite_between before.foreignKey after.foreignKey)

theorem apply_reverse_between (named : before.name = after.name) :
    ((between before after).reverse.apply after).Equivalent before where
  name := named.symm
  type := eq_of_beq (Change.overwrite_reverse_between before.type after.type)
  nullable := eq_of_beq (Change.overwrite_reverse_between before.nullable after.nullable)
  primaryKey := eq_of_beq (Change.overwrite_reverse_between before.primaryKey after.primaryKey)
  default := Change.overwrite_reverse_between before.default after.default
  foreignKey := eq_of_beq (Change.overwrite_reverse_between before.foreignKey after.foreignKey)

end FieldModification

namespace AccessChange

variable (table : String) (before after : AccessControl)

theorem equivalent_of_between? (unchanged : between? table before after = none) :
    before.Equivalent after := by
  have empty := between?_eq_none_iff.mp unchanged
  simp only [isEmpty, between, Bool.and_eq_true, Option.isNone_iff_eq_none,
    Change.between_eq_none_iff] at empty
  rcases empty with ⟨⟨⟨read, create⟩, update⟩, delete⟩
  intro operation
  cases operation with
  | read => exact read
  | create => exact create
  | update => exact update
  | delete => exact delete

theorem apply_between? :
    (((between? table before after).map (·.apply before)).getD before).Equivalent after := by
  cases changed : between? table before after with
  | none => exact equivalent_of_between? table before after changed
  | some change =>
    obtain ⟨-, rfl⟩ := between?_eq_some_iff.mp changed
    intro operation
    cases operation <;> exact Change.overwrite_between _ _

theorem apply_reverse_between? :
    ((((between? table before after).map reverse).map (·.apply after)).getD after).Equivalent
      before := by
  cases changed : between? table before after with
  | none => exact (equivalent_of_between? table before after changed).symm
  | some change =>
    obtain ⟨-, rfl⟩ := between?_eq_some_iff.mp changed
    intro operation
    cases operation <;> exact Change.overwrite_reverse_between _ _

end AccessChange

/-! ## Lists with names -/

section Lists

variable {α : Type} {R : α → α → Prop} {name : α → String} {before after removed added : List α}
  {change : α → α}

theorem patchList_nil (items : List α) : patchList name [] id [] items = items := by
  simp [patchList]

/-- A patch that knows what is in one list alone, and that changes every common item as it should,
leads from one list to the other up to order. -/
theorem patchList_sameUpToOrder (distinct : (before.map name).Nodup)
    (distinct' : (after.map name).Nodup) (distinctAdded : (added.map name).Nodup)
    (mem_removed : ∀ x, x ∈ removed ↔ x ∈ before ∧ name x ∉ after.map name)
    (mem_added : ∀ y, y ∈ added ↔ y ∈ after ∧ name y ∉ before.map name)
    (refl : ∀ y, R y y) (named : ∀ x y, R x y → name x = name y)
    (keeps : ∀ x, name (change x) = name x)
    (common : ∀ x ∈ before, ∀ y ∈ after, name x = name y → R (change x) y) :
    SameUpToOrder R (patchList name removed change added before) after := by
  have stays : ∀ x ∈ before, name x ∉ removed.map name ↔ name x ∈ after.map name := by
    intro x member
    rw [not_iff_comm]
    constructor
    · intro gone
      exact List.mem_map_of_mem ((mem_removed x).mpr ⟨member, gone⟩)
    · intro listed
      obtain ⟨z, listed, same⟩ := List.mem_map.mp listed
      exact same ▸ ((mem_removed z).mp listed).2
  have names : (patchList name removed change added before).map name =
      (before.filter fun x => name x ∉ removed.map name).map name ++ added.map name := by
    simp [patchList, Function.comp_def, keeps]
  have reached : ((patchList name removed change added before).map name).Nodup := by
    rw [names]
    refine (distinct.sublist (List.filter_sublist.map _)).append distinctAdded ?_
    intro key kept listed
    obtain ⟨y, new, rfl⟩ := List.mem_map.mp listed
    exact ((mem_added y).mp new).2 ((List.filter_sublist.map _).subset kept)
  refine sameUpToOrder_of_names reached distinct' named ?_ ?_
  · intro z member
    rcases List.mem_append.mp member with changed | new
    · obtain ⟨x, kept, rfl⟩ := List.mem_map.mp changed
      rw [List.mem_filter, decide_eq_true_eq] at kept
      obtain ⟨y, declared, same⟩ := List.mem_map.mp ((stays x kept.1).mp kept.2)
      exact ⟨y, declared, common x kept.1 y declared same.symm⟩
    · exact ⟨z, ((mem_added z).mp new).1, refl z⟩
  · intro y member
    by_cases old : name y ∈ before.map name
    · obtain ⟨x, declared, same⟩ := List.mem_map.mp old
      have kept : name x ∉ removed.map name :=
        (stays x declared).mpr (same ▸ List.mem_map_of_mem member)
      refine ⟨change x, List.mem_append_left _ (List.mem_map_of_mem ?_),
        common x declared y member same⟩
      rw [List.mem_filter, decide_eq_true_eq]
      exact ⟨declared, kept⟩
    · exact ⟨y, List.mem_append_right _ ((mem_added y).mpr ⟨member, old⟩), refl y⟩

end Lists

/-! ## Tables -/

namespace TableModification

variable {before after : Table} {x y : Field}

@[simp] theorem name_applyField (m : TableModification) (field : Field) :
    (m.applyField field).name = field.name := by
  unfold applyField
  split <;> rfl

/-- The modification of a field that both tables have is the one between its two declarations. -/
theorem find?_fieldsModified (distinctBefore : (before.fields.map Field.name).Nodup)
    (distinctAfter : (after.fields.map Field.name).Nodup) (old : x ∈ before.fields)
    (new : y ∈ after.fields) (named : x.name = y.name) :
    (between before after).fieldsModified.find? (·.name == y.name) =
      FieldModification.between? x y := by
  have made : ∀ (f : Field) (m : FieldModification),
      (before.lastField? f.name).bind (FieldModification.between? · f) = some m →
        m.name = f.name := by
    intro f m made
    obtain ⟨old, -, made⟩ := Option.bind_eq_some_iff.mp made
    obtain ⟨-, rfl⟩ := FieldModification.between?_eq_some_iff.mp made
    rfl
  have found : before.lastField? y.name = some x := by
    rw [Table.lastField?_eq_field? distinctBefore]
    exact (Table.field?_eq_some_iff distinctBefore).mpr ⟨old, named⟩
  refine (find?_filterMap_of_name made distinctAfter new).trans ?_
  rw [found, Option.bind_some]

theorem applyField_between (distinctBefore : (before.fields.map Field.name).Nodup)
    (distinctAfter : (after.fields.map Field.name).Nodup) (old : x ∈ before.fields)
    (new : y ∈ after.fields) (named : x.name = y.name) :
    ((between before after).applyField x).Equivalent y := by
  have applied := FieldModification.apply_between named
  rw [applyField, named, find?_fieldsModified distinctBefore distinctAfter old new named]
  cases changed : FieldModification.between? x y with
  | some m =>
    obtain ⟨-, rfl⟩ := FieldModification.between?_eq_some_iff.mp changed
    exact applied
  | none =>
    obtain ⟨type, nullable, primaryKey, default, foreignKey⟩ :=
      FieldModification.isEmpty_between.mp (FieldModification.between?_eq_none_iff.mp changed)
    exact ⟨named, type, nullable, primaryKey, default, foreignKey⟩

theorem applyField_reverse_between (distinctBefore : (before.fields.map Field.name).Nodup)
    (distinctAfter : (after.fields.map Field.name).Nodup) (old : x ∈ before.fields)
    (new : y ∈ after.fields) (named : x.name = y.name) :
    ((between before after).reverse.applyField y).Equivalent x := by
  have applied := FieldModification.apply_reverse_between named
  have found : (between before after).reverse.fieldsModified.find? (·.name == y.name) =
      (FieldModification.between? x y).map FieldModification.reverse := by
    rw [← find?_fieldsModified distinctBefore distinctAfter old new named]
    exact List.find?_map ..
  rw [applyField, found]
  cases changed : FieldModification.between? x y with
  | some m =>
    obtain ⟨-, rfl⟩ := FieldModification.between?_eq_some_iff.mp changed
    exact applied
  | none =>
    obtain ⟨type, nullable, primaryKey, default, foreignKey⟩ :=
      FieldModification.isEmpty_between.mp (FieldModification.between?_eq_none_iff.mp changed)
    exact ⟨named.symm, type.symm, nullable.symm, primaryKey.symm, BEq.symm default,
      foreignKey.symm⟩

section Table

variable (distinctBefore : (before.fields.map Field.name).Nodup)
  (distinctAfter : (after.fields.map Field.name).Nodup) (named : before.name = after.name)

include distinctBefore distinctAfter named

theorem apply_between :
    ((between before after).apply
      (AccessChange.between? after.name before.access after.access) before).Equivalent after where
  name := named
  fields := by
    refine patchList_sameUpToOrder distinctBefore distinctAfter
      (fieldsAdded_distinct distinctAfter) ?_ ?_ Field.Equivalent.refl
      (fun _ _ same => same.name) (name_applyField _) ?_
    · intro x
      rw [mem_fieldsRemoved, Table.field?_eq_none_iff]
    · intro y
      rw [mem_fieldsAdded, Table.field?_eq_none_iff]
    · intro x old y new same
      exact applyField_between distinctBefore distinctAfter old new same
  access := AccessChange.apply_between? after.name before.access after.access

theorem apply_reverse_between :
    ((between before after).reverse.apply
      ((AccessChange.between? after.name before.access after.access).map AccessChange.reverse)
      after).Equivalent before where
  name := named.symm
  fields := by
    refine patchList_sameUpToOrder distinctAfter distinctBefore
      (fieldsRemoved_distinct distinctBefore) ?_ ?_ Field.Equivalent.refl
      (fun _ _ same => same.name) (name_applyField _) ?_
    · intro y
      exact mem_fieldsAdded.trans (and_congr_right' Table.field?_eq_none_iff)
    · intro x
      exact mem_fieldsRemoved.trans (and_congr_right' Table.field?_eq_none_iff)
    · intro y new x old same
      exact applyField_reverse_between distinctBefore distinctAfter old new same.symm
  access := AccessChange.apply_reverse_between? after.name before.access after.access

end Table

/-- Without a modification no rule changes. -/
theorem access_of_isEmpty (empty : (between before after).isEmpty = true) :
    AccessChange.between? after.name before.access after.access = none := by
  simp only [isEmpty, between, Bool.and_eq_true, Bool.not_eq_true', Option.isSome_eq_false_iff,
    Option.isNone_iff_eq_none] at empty
  exact empty.2

@[simp] theorem isEmpty_reverse (m : TableModification) : m.reverse.isEmpty = m.isEmpty := by
  cases added : m.fieldsAdded.isEmpty <;> simp [isEmpty, reverse, added]

/-- A modification that records nothing changes nothing. -/
theorem apply_of_isEmpty {m : TableModification} (empty : m.isEmpty = true) (table : Table) :
    m.apply none table = table := by
  simp only [isEmpty, Bool.and_eq_true, List.isEmpty_iff] at empty
  rcases empty with ⟨⟨⟨added, removed⟩, modified⟩, -⟩
  have still : m.applyField = id := by
    funext field
    simp [applyField, modified]
  simp only [apply, added, removed, still, patchList_nil]
  rfl

end TableModification

/-! ## Snapshots -/

namespace Diff

variable {before after : Snapshot} {x y : Table}

@[simp] theorem name_applyTable (diff : Diff) (table : Table) :
    (diff.applyTable table).name = table.name := by
  unfold applyTable
  split <;> rfl

section Common

variable (validBefore : before.Valid) (validAfter : after.Valid) (old : x ∈ before.tables)
  (new : y ∈ after.tables) (named : x.name = y.name)

include validBefore validAfter old new named

/-- The modification of a table that both snapshots have is the one between its two declarations.
-/
theorem find?_modified :
    (between before after).modified.find? (·.table == y.name) =
      TableModification.between? x y := by
  have single := find?_filterMap_of_name (fun _ _ => table_of_modified before)
    validAfter.tablesDistinct new
  refine single.trans ?_
  rw [validBefore.lastTable?_of_mem old named, Option.bind_some]

/-- The access change of a table that both snapshots have is the one between its two rules. -/
theorem accessOf?_between :
    (between before after).accessOf? y.name = AccessChange.between? y.name x.access y.access := by
  have single := find?_filterMap_of_name (fun _ _ => table_of_access before)
    validAfter.tablesDistinct new
  refine single.trans ?_
  rw [validBefore.lastTable?_of_mem old named]

theorem applyTable_between : ((between before after).applyTable x).Equivalent y := by
  have applied := TableModification.apply_between (validBefore.fieldsDistinct x old)
    (validAfter.fieldsDistinct y new) named
  rw [applyTable, named, find?_modified validBefore validAfter old new named,
    accessOf?_between validBefore validAfter old new named]
  cases changed : TableModification.between? x y with
  | some m =>
    obtain ⟨-, rfl⟩ := TableModification.between?_eq_some_iff.mp changed
    exact applied
  | none =>
    have empty := TableModification.between?_eq_none_iff.mp changed
    rw [TableModification.access_of_isEmpty empty,
      TableModification.apply_of_isEmpty empty] at applied
    exact applied

theorem applyTable_reverse_between :
    ((between before after).reverse.applyTable y).Equivalent x := by
  have applied := TableModification.apply_reverse_between (validBefore.fieldsDistinct x old)
    (validAfter.fieldsDistinct y new) named
  have modified : (between before after).reverse.modified.find? (·.table == y.name) =
      (TableModification.between? x y).map TableModification.reverse := by
    rw [← find?_modified validBefore validAfter old new named]
    exact List.find?_map ..
  have access : (between before after).reverse.accessOf? y.name =
      (AccessChange.between? y.name x.access y.access).map AccessChange.reverse := by
    rw [← accessOf?_between validBefore validAfter old new named]
    exact List.find?_map ..
  rw [applyTable, modified, access]
  cases changed : TableModification.between? x y with
  | some m =>
    obtain ⟨-, rfl⟩ := TableModification.between?_eq_some_iff.mp changed
    exact applied
  | none =>
    have empty := TableModification.between?_eq_none_iff.mp changed
    rw [TableModification.access_of_isEmpty empty, Option.map_none,
      TableModification.apply_of_isEmpty ((TableModification.isEmpty_reverse _).trans empty)]
      at applied
    exact applied

end Common

theorem apply_between_equivalent (validBefore : before.Valid) (validAfter : after.Valid) :
    ((between before after).apply before).Equivalent after := by
  refine patchList_sameUpToOrder validBefore.tablesDistinct validAfter.tablesDistinct
    (added_distinct validAfter.tablesDistinct) ?_ ?_ Table.Equivalent.refl
    (fun _ _ same => same.name) (name_applyTable _) ?_
  · intro x
    rw [mem_removed, Snapshot.table?_eq_none_iff]
    rfl
  · intro y
    rw [mem_added, Snapshot.table?_eq_none_iff]
    rfl
  · intro x old y new named
    exact applyTable_between validBefore validAfter old new named

theorem apply_reverse_between_equivalent (validBefore : before.Valid) (validAfter : after.Valid) :
    ((between before after).reverse.apply after).Equivalent before := by
  refine patchList_sameUpToOrder validAfter.tablesDistinct validBefore.tablesDistinct
    (removed_distinct validBefore.tablesDistinct) ?_ ?_ Table.Equivalent.refl
    (fun _ _ same => same.name) (name_applyTable _) ?_
  · intro y
    exact mem_added.trans (and_congr_right' Snapshot.table?_eq_none_iff)
  · intro x
    exact mem_removed.trans (and_congr_right' Snapshot.table?_eq_none_iff)
  · intro y new x old named
    exact applyTable_reverse_between validBefore validAfter old new named.symm

end Diff

/-- The diff between two accepted snapshots leads from the old one to the new one, and its reverse
leads back, up to the order of tables and fields. -/
theorem diff_patches_both_ways {before after : Snapshot} (acceptedBefore : before.validate = .ok ())
    (acceptedAfter : after.validate = .ok ()) :
    ((Diff.between before after).apply before).Equivalent after ∧
      ((Diff.between before after).reverse.apply after).Equivalent before := by
  have validBefore := Snapshot.Valid.ofValidate acceptedBefore
  have validAfter := Snapshot.Valid.ofValidate acceptedAfter
  exact ⟨Diff.apply_between_equivalent validBefore validAfter,
    Diff.apply_reverse_between_equivalent validBefore validAfter⟩

/-- Items with a price that starts at zero, beside drafts. -/
def pricedItems : Snapshot where
  tables := [
    { name := "drafts", fields := [{ name := "text", type := .text }] },
    { name := "items"
      fields := [
        { name := "id", type := .uuid, nullable := false, primaryKey := true },
        { name := "price", type := .number, default := some (.constant (.number (.integer 0))) },
        { name := "stock", type := .number }] }]

/-- Items that belong to a shop and cannot be deleted, with a price that has no default. -/
def shopItems : Snapshot where
  tables := [
    { name := "items"
      fields := [
        { name := "shop"
          type := .uuid
          foreignKey := some { table := "shops", field := "id" } },
        { name := "price", type := .text, nullable := false },
        { name := "id", type := .uuid, nullable := false, primaryKey := true }]
      access := { delete := .always false } },
    { name := "shops", fields := [{ name := "id", type := .uuid, nullable := false }] }]

/-- The diff removes a table and a column, adds one of each, and changes a column and a rule. -/
theorem diff_patches_both_ways_items :
    pricedItems.validate = .ok () ∧ shopItems.validate = .ok () ∧
      ((Diff.between pricedItems shopItems).apply pricedItems).Equivalent shopItems ∧
      ((Diff.between pricedItems shopItems).reverse.apply shopItems).Equivalent pricedItems := by
  have accepted : pricedItems.validate = .ok () := by decide
  have accepted' : shopItems.validate = .ok () := by decide
  exact ⟨accepted, accepted', diff_patches_both_ways accepted accepted'⟩

end SchemaDelta
