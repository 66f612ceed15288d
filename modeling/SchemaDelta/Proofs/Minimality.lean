import SchemaDelta.Proofs.Patch
import SchemaDelta.Proofs.Policies.Block

/-!
# Minimal diffs

A diff has an entry for what differs, and for nothing else. Each name is in one of the lists at
most, every modification records at least one difference, with the two values, and the access
changes are those of the new tables and of the modified ones whose rules changed. So a diff is empty
exactly when the snapshots are equal up to order, and then there is nothing to migrate.
-/

namespace SchemaDelta

/-! ## Records -/

/-- The two values are recorded if they differ, and otherwise nothing is. -/
def Change.Records {α : Type} [BEq α] (recorded : Option (Change α)) (before after : α) : Prop :=
  ∀ change, recorded = some change ↔ (before == after) = false ∧ change = ⟨before, after⟩

/-- How two lists of items with names differ is recorded by three lists. An item is added or removed
if the other list has none of its name. A modification is recorded for two items of one name that
are not the same, and it tells how they differ. No name is recorded twice, and what the new list has
is recorded in its order. -/
structure RecordsItems {α β : Type} (name : α → String) (name' : β → String)
    (Same : α → α → Prop) (Tells : β → α → α → Prop) (added removed : List α) (modified : List β)
    (before after : List α) : Prop where
  distinct : (added.map name ++ removed.map name ++ modified.map name').Nodup
  addedInOrder : added.Sublist after
  removedInOrder : removed.Sublist before
  modifiedInOrder : (modified.map name').Sublist (after.map name)
  addedIff : ∀ y, y ∈ added ↔ y ∈ after ∧ name y ∉ before.map name
  removedIff : ∀ x, x ∈ removed ↔ x ∈ before ∧ name x ∉ after.map name
  differs : ∀ m ∈ modified, ∃ x ∈ before, ∃ y ∈ after,
    name x = name' m ∧ name y = name' m ∧ ¬ Same x y ∧ Tells m x y
  complete : ∀ x ∈ before, ∀ y ∈ after, name x = name y → ¬ Same x y →
    name y ∈ modified.map name'

/-- Every attribute is recorded that differs. -/
structure FieldModification.Records (m : FieldModification) (before after : Field) : Prop where
  type : Change.Records m.type before.type after.type
  nullable : Change.Records m.nullable before.nullable after.nullable
  primaryKey : Change.Records m.primaryKey before.primaryKey after.primaryKey
  default : Change.Records m.default before.default after.default
  foreignKey : Change.Records m.foreignKey before.foreignKey after.foreignKey

/-- The fields that differ are recorded, and whether the conditions do. -/
structure TableModification.Records (m : TableModification) (before after : Table) : Prop where
  fields : RecordsItems Field.name FieldModification.name Field.Equivalent
    (fun m x y => m.isEmpty = false ∧ m.Records x y)
    m.fieldsAdded m.fieldsRemoved m.fieldsModified before.fields after.fields
  access : m.accessChanged = true ↔ ¬ before.access.Equivalent after.access

/-- The tables that differ are recorded. Access changes are recorded for the new tables, and for the
modified ones whose conditions differ. -/
structure Diff.Records (diff : Diff) (before after : Snapshot) : Prop where
  tables : RecordsItems Table.name TableModification.table Table.Equivalent
    (fun m x y => m.isEmpty = false ∧ m.Records x y)
    diff.added diff.removed diff.modified before.tables after.tables
  accessInOrder : (diff.access.map AccessChange.table).Sublist after.tableNames
  access : ∀ name, name ∈ diff.access.map AccessChange.table ↔
    (∃ table ∈ diff.added, table.name = name) ∨
      ∃ m ∈ diff.modified, m.table = name ∧ m.accessChanged = true
  accessAdded : ∀ change ∈ diff.access, ∀ table ∈ diff.added, table.name = change.table →
    ∀ operation, change.get operation = some ⟨.always true, table.access.get operation⟩
  accessModified : ∀ change ∈ diff.access, ∀ x ∈ before.tables, ∀ y ∈ after.tables,
    x.name = change.table → y.name = change.table →
      ∀ operation, Change.Records (change.get operation) (x.access.get operation)
        (y.access.get operation)

/-! ## Lists of items -/

section Items

variable {α β : Type} {name : α → String} {name' : β → String} {Same : α → α → Prop}
  {Tells : β → α → α → Prop} {before after : List α}

/-- Items of the same name are the same unless a modification is recorded for it. -/
theorem RecordsItems.isEmpty_iff {added removed : List α} {modified : List β}
    (records : RecordsItems name name' Same Tells added removed modified before after)
    (distinct : (before.map name).Nodup) (distinct' : (after.map name).Nodup)
    (named : ∀ x y, Same x y → name x = name y) :
    (added.isEmpty && removed.isEmpty && modified.isEmpty) = true ↔
      SameUpToOrder Same before after := by
  simp only [Bool.and_eq_true, List.isEmpty_iff]
  constructor
  · rintro ⟨⟨rfl, rfl⟩, rfl⟩
    have common : ∀ x ∈ before, ∀ y ∈ after, name x = name y → Same x y := by
      intro x old y new named
      by_contra differ
      exact List.not_mem_nil (records.complete x old y new named differ)
    refine sameUpToOrder_of_names distinct distinct' named ?_ ?_
    · intro x old
      have kept : name x ∈ after.map name := by
        by_contra gone
        exact List.not_mem_nil ((records.removedIff x).mpr ⟨old, gone⟩)
      obtain ⟨y, new, named⟩ := List.mem_map.mp kept
      exact ⟨y, new, common x old y new named.symm⟩
    · intro y new
      have known : name y ∈ before.map name := by
        by_contra unknown
        exact List.not_mem_nil ((records.addedIff y).mpr ⟨new, unknown⟩)
      obtain ⟨x, old, named⟩ := List.mem_map.mp known
      exact ⟨x, old, common x old y new named⟩
  · intro same
    refine ⟨⟨?added, ?removed⟩, ?modified⟩
    case added =>
      refine List.eq_nil_iff_forall_not_mem.mpr fun y recorded => ?_
      obtain ⟨new, unknown⟩ := (records.addedIff y).mp recorded
      obtain ⟨x, old, partner⟩ := same.exists_left new
      exact unknown (named x y partner ▸ List.mem_map_of_mem old)
    case removed =>
      refine List.eq_nil_iff_forall_not_mem.mpr fun x recorded => ?_
      obtain ⟨old, gone⟩ := (records.removedIff x).mp recorded
      obtain ⟨y, new, partner⟩ := same.exists_right old
      exact gone (named x y partner ▸ List.mem_map_of_mem new)
    case modified =>
      refine List.eq_nil_iff_forall_not_mem.mpr fun m recorded => ?_
      obtain ⟨x, old, y, new, nameOld, nameNew, differ, -⟩ := records.differs m recorded
      obtain ⟨z, among, partner⟩ := same.exists_right old
      -- the partner of the old item bears its name, so it is the new one
      have again : name z = name y := by rw [← named x z partner, nameOld, nameNew]
      rw [List.inj_on_of_nodup_map distinct' among new again] at partner
      exact differ partner

/-- Added items have names of the new list alone, removed ones of the old list alone, and modified
ones of both. -/
theorem recorded_names_distinct {added removed : List α} {modified : List β}
    (distinct : (before.map name).Nodup) (distinct' : (after.map name).Nodup)
    (addedInOrder : added.Sublist after) (removedInOrder : removed.Sublist before)
    (modifiedInOrder : (modified.map name').Sublist (after.map name))
    (new : ∀ y ∈ added, name y ∉ before.map name) (old : ∀ x ∈ removed, name x ∉ after.map name)
    (common : ∀ m ∈ modified, name' m ∈ before.map name) :
    (added.map name ++ removed.map name ++ modified.map name').Nodup := by
  have distinctAdded := distinct'.sublist (addedInOrder.map name)
  have distinctRemoved := distinct.sublist (removedInOrder.map name)
  refine (distinctAdded.append distinctRemoved ?_).append (distinct'.sublist modifiedInOrder) ?_
  · intro key keyAdded keyRemoved
    obtain ⟨y, member, rfl⟩ := List.mem_map.mp keyAdded
    exact new y member ((removedInOrder.map name).subset keyRemoved)
  · intro key single keyModified
    have shared : key ∈ before.map name := by
      obtain ⟨m, member, rfl⟩ := List.mem_map.mp keyModified
      exact common m member
    rcases List.mem_append.mp single with keyAdded | keyRemoved
    · obtain ⟨y, member, rfl⟩ := List.mem_map.mp keyAdded
      exact new y member shared
    · obtain ⟨x, member, rfl⟩ := List.mem_map.mp keyRemoved
      exact old x member (modifiedInOrder.subset keyModified)

/-- It is enough that the modifications are those between two items of one name that are not the
same. -/
theorem recordsItems_of_between {between : α → α → β} {added removed : List α} {modified : List β}
    (distinct : (before.map name).Nodup) (distinct' : (after.map name).Nodup)
    (keeps : ∀ x y, name' (between x y) = name y) (addedInOrder : added.Sublist after)
    (removedInOrder : removed.Sublist before)
    (modifiedInOrder : (modified.map name').Sublist (after.map name))
    (addedIff : ∀ y, y ∈ added ↔ y ∈ after ∧ name y ∉ before.map name)
    (removedIff : ∀ x, x ∈ removed ↔ x ∈ before ∧ name x ∉ after.map name)
    (modifiedIff : ∀ m, m ∈ modified ↔ ∃ x ∈ before, ∃ y ∈ after,
      name x = name y ∧ ¬ Same x y ∧ m = between x y)
    (tells : ∀ x ∈ before, ∀ y ∈ after, name x = name y → ¬ Same x y → Tells (between x y) x y) :
    RecordsItems name name' Same Tells added removed modified before after := by
  have differs : ∀ m ∈ modified, ∃ x ∈ before, ∃ y ∈ after,
      name x = name' m ∧ name y = name' m ∧ ¬ Same x y ∧ Tells m x y := by
    intro m recorded
    obtain ⟨x, old, y, new, named, differ, rfl⟩ := (modifiedIff m).mp recorded
    have same := keeps x y
    exact ⟨x, old, y, new, named.trans same.symm, same.symm, differ,
      tells x old y new named differ⟩
  refine ⟨?_, addedInOrder, removedInOrder, modifiedInOrder, addedIff, removedIff, differs, ?_⟩
  · refine recorded_names_distinct distinct distinct' addedInOrder removedInOrder modifiedInOrder
      (fun y member => ((addedIff y).mp member).2) (fun x member => ((removedIff x).mp member).2) ?_
    intro m recorded
    obtain ⟨x, old, -, -, named, -⟩ := differs m recorded
    exact named ▸ List.mem_map_of_mem old
  · intro x old y new named differ
    rw [← keeps x y]
    exact List.mem_map_of_mem ((modifiedIff _).mpr ⟨x, old, y, new, named, differ, rfl⟩)

end Items

/-! ## Fields and tables -/

theorem Change.records_between {α : Type} [BEq α] (before after : α) :
    Records (between before after) before after := fun _ => between_eq_some_iff

theorem FieldModification.records_between (before after : Field) :
    (between before after).Records before after where
  type := Change.records_between _ _
  nullable := Change.records_between _ _
  primaryKey := Change.records_between _ _
  default := Change.records_between _ _
  foreignKey := Change.records_between _ _

/-- Of two fields of one name no attribute is recorded exactly when they are the same. -/
theorem FieldModification.isEmpty_between_iff {before after : Field}
    (named : before.name = after.name) :
    (between before after).isEmpty = true ↔ before.Equivalent after := by
  rw [isEmpty_between]
  constructor
  · rintro ⟨type, nullable, primaryKey, default, foreignKey⟩
    exact ⟨named, type, nullable, primaryKey, default, foreignKey⟩
  · rintro ⟨-, type, nullable, primaryKey, default, foreignKey⟩
    exact ⟨type, nullable, primaryKey, default, foreignKey⟩

theorem FieldModification.isEmpty_between_eq_false_iff {before after : Field}
    (named : before.name = after.name) :
    (between before after).isEmpty = false ↔ ¬ before.Equivalent after := by
  rw [← isEmpty_between_iff named, Bool.not_eq_true]

theorem AccessChange.records_between (table : String) (before after : AccessControl)
    (operation : Operation) :
    Change.Records ((between table before after).get operation) (before.get operation)
      (after.get operation) := by
  cases operation <;> exact Change.records_between _ _

/-- No operation is recorded exactly when all conditions are the same. -/
theorem AccessChange.between?_eq_none_iff_equivalent (table : String)
    {before after : AccessControl} :
    between? table before after = none ↔ before.Equivalent after := by
  refine ⟨equivalent_of_between? table before after, fun same => ?_⟩
  rw [between?_eq_none_iff]
  simp only [isEmpty, between, Bool.and_eq_true, Option.isNone_iff_eq_none,
    Change.between_eq_none_iff]
  exact ⟨⟨⟨same .read, same .create⟩, same .update⟩, same .delete⟩

section Tables

variable {before after : Table} (distinctBefore : (before.fields.map Field.name).Nodup)
  (distinctAfter : (after.fields.map Field.name).Nodup)

include distinctBefore

theorem TableModification.mem_fieldsModified_iff {m : FieldModification} :
    m ∈ (between before after).fieldsModified ↔ ∃ x ∈ before.fields, ∃ y ∈ after.fields,
      x.name = y.name ∧ ¬ x.Equivalent y ∧ m = .between x y := by
  rw [mem_fieldsModified distinctBefore]
  constructor
  · rintro ⟨y, new, x, found, changed, rfl⟩
    obtain ⟨old, named⟩ := (Table.field?_eq_some_iff distinctBefore).mp found
    rw [FieldModification.isEmpty_between_eq_false_iff named] at changed
    exact ⟨x, old, y, new, named, changed, rfl⟩
  · rintro ⟨x, old, y, new, named, differ, rfl⟩
    rw [← FieldModification.isEmpty_between_eq_false_iff named] at differ
    exact ⟨y, new, x, (Table.field?_eq_some_iff distinctBefore).mpr ⟨old, named⟩, differ, rfl⟩

include distinctAfter

theorem TableModification.records_between : (between before after).Records before after where
  fields := by
    refine recordsItems_of_between distinctBefore distinctAfter
      (fun _ _ => FieldModification.between_name) List.filter_sublist List.filter_sublist
      fieldsModified_sublist ?added ?removed (fun m => mem_fieldsModified_iff distinctBefore) ?tells
    case added =>
      intro y
      rw [mem_fieldsAdded, Table.field?_eq_none_iff]
    case removed =>
      intro x
      rw [mem_fieldsRemoved, Table.field?_eq_none_iff]
    case tells =>
      intro x _ y _ named differ
      exact ⟨(FieldModification.isEmpty_between_eq_false_iff named).mpr differ,
        FieldModification.records_between x y⟩
  access := by
    rw [← AccessChange.between?_eq_none_iff_equivalent after.name]
    exact Option.isSome_iff_ne_none

/-- Of two tables of one name nothing is recorded exactly when they are the same. -/
theorem TableModification.isEmpty_between_iff (named : before.name = after.name) :
    (between before after).isEmpty = true ↔ before.Equivalent after := by
  have records := records_between distinctBefore distinctAfter
  have fields := records.fields.isEmpty_iff distinctBefore distinctAfter fun _ _ same => same.name
  have access : (!(between before after).accessChanged) = true ↔
      before.access.Equivalent after.access := by
    rw [Bool.not_eq_true', ← Bool.not_eq_true, records.access, not_not]
  rw [isEmpty, Bool.and_eq_true, fields, access]
  constructor
  · rintro ⟨fields, access⟩
    exact ⟨named, fields, access⟩
  · rintro ⟨-, fields, access⟩
    exact ⟨fields, access⟩

theorem TableModification.isEmpty_between_eq_false_iff (named : before.name = after.name) :
    (between before after).isEmpty = false ↔ ¬ before.Equivalent after := by
  rw [← isEmpty_between_iff distinctBefore distinctAfter named, Bool.not_eq_true]

end Tables

/-! ## Snapshots -/

namespace Diff

variable {before after : Snapshot} (validBefore : before.Valid) (validAfter : after.Valid)

include validAfter in
/-- An access change is compared for the table of its name. -/
theorem access_of_named {change : AccessChange} (member : change ∈ (between before after).access)
    {y : Table} (new : y ∈ after.tables) (named : y.name = change.table) :
    (before.lastTable? y.name = none ∧ change = .ofNewTable y) ∨
      ∃ x, before.lastTable? y.name = some x ∧
        AccessChange.between? y.name x.access y.access = some change := by
  obtain ⟨table, declared, compared⟩ := mem_access_iff.mp member
  have about : change.table = table.name := by
    rcases compared with ⟨-, rfl⟩ | ⟨old, -, made⟩
    · rfl
    · obtain ⟨-, rfl⟩ := AccessChange.between?_eq_some_iff.mp made
      rfl
  obtain rfl : y = table :=
    List.inj_on_of_nodup_map validAfter.tablesDistinct new declared (named.trans about)
  exact compared

include validBefore

/-- Access changes are recorded for the tables that the lists of tables say. -/
theorem mem_access_names {name : String} :
    name ∈ (between before after).access.map AccessChange.table ↔
      (∃ table ∈ (between before after).added, table.name = name) ∨
        ∃ m ∈ (between before after).modified, m.table = name ∧ m.accessChanged = true := by
  constructor
  · intro listed
    obtain ⟨change, member, rfl⟩ := List.mem_map.mp listed
    obtain ⟨y, new, ⟨unknown, rfl⟩ | ⟨x, known, made⟩⟩ := mem_access_iff.mp member
    · rw [validBefore.lastTable?_eq] at unknown
      exact .inl ⟨y, mem_added.mpr ⟨new, unknown⟩, rfl⟩
    · rw [validBefore.lastTable?_eq] at known
      have accessChanged : (TableModification.between x y).accessChanged = true :=
        Option.isSome_of_eq_some made
      have changed : (TableModification.between x y).isEmpty = false := by
        rw [TableModification.isEmpty, accessChanged, Bool.not_true, Bool.and_false]
      obtain ⟨-, rfl⟩ := AccessChange.between?_eq_some_iff.mp made
      exact .inr ⟨_, (mem_modified validBefore.tablesDistinct).mpr ⟨y, new, x, known, changed, rfl⟩,
        rfl, accessChanged⟩
  · rintro (⟨y, added, rfl⟩ | ⟨m, modified, rfl, accessChanged⟩)
    · obtain ⟨new, unknown⟩ := mem_added.mp added
      rw [← validBefore.lastTable?_eq] at unknown
      exact List.mem_map.mpr
        ⟨.ofNewTable y, mem_access_iff.mpr ⟨y, new, .inl ⟨unknown, rfl⟩⟩, rfl⟩
    · obtain ⟨y, new, x, known, -, rfl⟩ := (mem_modified validBefore.tablesDistinct).mp modified
      rw [← validBefore.lastTable?_eq] at known
      obtain ⟨change, made⟩ := Option.isSome_iff_exists.mp accessChanged
      have about := (AccessChange.between?_eq_some_iff.mp made).2
      exact List.mem_map.mpr
        ⟨change, mem_access_iff.mpr ⟨y, new, .inr ⟨x, known, made⟩⟩, about ▸ rfl⟩

include validAfter

theorem mem_modified_iff {m : TableModification} :
    m ∈ (between before after).modified ↔ ∃ x ∈ before.tables, ∃ y ∈ after.tables,
      x.name = y.name ∧ ¬ x.Equivalent y ∧ m = .between x y := by
  rw [mem_modified validBefore.tablesDistinct]
  constructor
  · rintro ⟨y, new, x, found, changed, rfl⟩
    obtain ⟨old, named⟩ := validBefore.table?_eq_some_iff.mp found
    rw [TableModification.isEmpty_between_eq_false_iff (validBefore.fieldsDistinct x old)
      (validAfter.fieldsDistinct y new) named] at changed
    exact ⟨x, old, y, new, named, changed, rfl⟩
  · rintro ⟨x, old, y, new, named, differ, rfl⟩
    rw [← TableModification.isEmpty_between_eq_false_iff (validBefore.fieldsDistinct x old)
      (validAfter.fieldsDistinct y new) named] at differ
    exact ⟨y, new, x, validBefore.table?_eq_some_iff.mpr ⟨old, named⟩, differ, rfl⟩

theorem records_between : (between before after).Records before after where
  tables := by
    refine recordsItems_of_between validBefore.tablesDistinct validAfter.tablesDistinct
      (fun _ _ => TableModification.between_table) List.filter_sublist List.filter_sublist
      modified_sublist ?added ?removed (fun m => mem_modified_iff validBefore validAfter) ?tells
    case added =>
      intro y
      rw [mem_added, Snapshot.table?_eq_none_iff]
      rfl
    case removed =>
      intro x
      rw [mem_removed, Snapshot.table?_eq_none_iff]
      rfl
    case tells =>
      intro x old y new named differ
      have distinct := validBefore.fieldsDistinct x old
      have distinct' := validAfter.fieldsDistinct y new
      exact ⟨(TableModification.isEmpty_between_eq_false_iff distinct distinct' named).mpr differ,
        TableModification.records_between distinct distinct'⟩
  accessInOrder := access_sublist
  access name := mem_access_names validBefore
  accessAdded change member y added named operation := by
    obtain ⟨new, unknown⟩ := mem_added.mp added
    rcases access_of_named validAfter member new named with ⟨-, rfl⟩ | ⟨x, known, -⟩
    · exact AccessChange.get_ofNewTable y operation
    · rw [validBefore.lastTable?_eq, unknown] at known
      cases known
  accessModified change member x old y new namedOld namedNew operation := by
    have found := validBefore.lastTable?_of_mem old (namedOld.trans namedNew.symm)
    rcases access_of_named validAfter member new namedNew with ⟨unknown, -⟩ | ⟨x', known, made⟩
    · rw [found] at unknown
      cases unknown
    · obtain rfl := Option.some.inj (found.symm.trans known)
      obtain ⟨-, rfl⟩ := AccessChange.between?_eq_some_iff.mp made
      exact AccessChange.records_between _ _ _ operation

/-- A diff is empty exactly when the snapshots are the same up to order. -/
theorem isEmpty_between_iff : (between before after).isEmpty = true ↔ before.Equivalent after := by
  have records := records_between validBefore validAfter
  have tables := records.tables.isEmpty_iff validBefore.tablesDistinct validAfter.tablesDistinct
    fun _ _ same => same.name
  rw [isEmpty, Bool.and_eq_true, tablesEmpty, tables, List.isEmpty_iff, Snapshot.Equivalent,
    and_iff_left_iff_imp]
  intro same
  have none := tables.mpr same
  simp only [Bool.and_eq_true, List.isEmpty_iff] at none
  obtain ⟨⟨added, -⟩, modified⟩ := none
  refine List.eq_nil_iff_forall_not_mem.mpr fun change member => ?_
  rcases (records.access change.table).mp (List.mem_map_of_mem member) with
    ⟨table, member, -⟩ | ⟨m, member, -⟩
  · rw [added] at member
    cases member
  · rw [modified] at member
    cases member

end Diff

/-- Nothing is planned for an empty diff. -/
theorem Synthesizer.synthesize_of_isEmpty (synthesizer : Synthesizer) {diff : Diff}
    (empty : diff.isEmpty = true) (target : Snapshot) (dialect : Dialect) :
    synthesizer.synthesize diff target dialect = .ok ⟨dialect, [], []⟩ := by
  obtain ⟨added, removed, modified, access⟩ := diff
  simp only [Diff.isEmpty, Diff.tablesEmpty, Bool.and_eq_true, List.isEmpty_iff] at empty
  obtain ⟨⟨⟨rfl, rfl⟩, rfl⟩, rfl⟩ := empty
  rfl

/-- Between accepted snapshots a diff records what differs and nothing else. It is empty exactly
when they are equal up to the order of tables and fields, and then a migration does nothing. -/
theorem diff_records_what_differs {before after : Snapshot}
    (acceptedBefore : before.validate = .ok ()) (acceptedAfter : after.validate = .ok ()) :
    ((Diff.between before after).isEmpty = true ↔ before.Equivalent after) ∧
    (before.Equivalent after → ∀ (synthesizer : Synthesizer) (dialect : Dialect),
      ∃ migration, synthesizer.migrate before after dialect = .ok migration ∧
        migration.statements = [] ∧ migration.warnings = [] ∧ migration.access = []) ∧
    (Diff.between before after).Records before after := by
  have validBefore := Snapshot.Valid.ofValidate acceptedBefore
  have validAfter := Snapshot.Valid.ofValidate acceptedAfter
  have empty := Diff.isEmpty_between_iff validBefore validAfter
  refine ⟨empty, fun same synthesizer dialect => ?_, Diff.records_between validBefore validAfter⟩
  exact ⟨_, synthesizer.synthesize_of_isEmpty (empty.mpr same) after dialect, rfl, rfl, rfl⟩

/-- The items of the shop, with tables and fields in another order. -/
def reorderedShopItems : Snapshot where
  tables := [
    { name := "shops", fields := [{ name := "id", type := .uuid, nullable := false }] },
    { name := "items"
      fields := [
        { name := "id", type := .uuid, nullable := false, primaryKey := true },
        { name := "price", type := .text, nullable := false },
        { name := "shop"
          type := .uuid
          foreignKey := some { table := "shops", field := "id" } }]
      access := { delete := .always false } }]

/-- Another order is no difference, while all kinds of entries are recorded from the priced items to
those of the shop. -/
theorem diff_records_what_differs_items :
    shopItems.Equivalent reorderedShopItems ∧
    (∃ migration,
      ({} : Synthesizer).migrate shopItems reorderedShopItems .postgres = .ok migration ∧
      migration.statements = [] ∧ migration.warnings = [] ∧ migration.access = []) ∧
    ¬ pricedItems.Equivalent shopItems ∧
    (Diff.between pricedItems shopItems).Records pricedItems shopItems := by
  have acceptedShop : shopItems.validate = .ok () := by decide
  obtain ⟨empty, still, -⟩ :=
    diff_records_what_differs acceptedShop (by decide : reorderedShopItems.validate = .ok ())
  have same : shopItems.Equivalent reorderedShopItems := empty.mp (by decide)
  obtain ⟨changed, -, records⟩ :=
    diff_records_what_differs (by decide : pricedItems.validate = .ok ()) acceptedShop
  exact ⟨same, still same {} .postgres, changed.not.mp (by decide), records⟩

end SchemaDelta
