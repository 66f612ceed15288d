import SchemaDelta.Proofs.Minimality

/-!
# Diffs in both directions

Comparing two snapshots the other way round records the same differences, read backwards. What one
diff adds the other removes, in the same order. Both modify the same tables and the same fields of
them, with the two values of every change exchanged. Access changes are exchanged in the same way
where both snapshots have the table; for a new table they are recorded in one direction only.
-/

namespace SchemaDelta

/-- Items with different names are the same up to order if each is in both lists. -/
theorem perm_of_names {α : Type} {xs ys : List α} {name : α → String}
    (distinct : (xs.map name).Nodup) (distinct' : (ys.map name).Nodup)
    (same : ∀ item, item ∈ xs ↔ item ∈ ys) : xs.Perm ys :=
  (List.perm_ext_iff_of_nodup distinct.of_map distinct'.of_map).mpr same

/-- The modification of a table is another one read backwards. -/
structure TableModification.Mirrors (m m' : TableModification) : Prop where
  table : m.table = m'.table
  fieldsAdded : m.fieldsAdded = m'.fieldsRemoved
  fieldsRemoved : m.fieldsRemoved = m'.fieldsAdded
  fieldsModified : m.fieldsModified.Perm (m'.fieldsModified.map FieldModification.reverse)
  accessChanged : m.accessChanged = m'.accessChanged

/-- The access changes for the tables of both snapshots. -/
def Diff.sharedAccess (diff : Diff) (before after : Snapshot) : List AccessChange :=
  diff.access.filter fun change =>
    change.table ∈ before.tableNames ∧ change.table ∈ after.tableNames

/-- The diff is another one, made between two snapshots, read backwards. -/
structure Diff.Mirrors (diff diff' : Diff) (before after : Snapshot) : Prop where
  added : diff.added = diff'.removed
  removed : diff.removed = diff'.added
  modified : SameUpToOrder TableModification.Mirrors diff.modified diff'.modified
  access : (diff.sharedAccess before after).Perm
    ((diff'.sharedAccess before after).map AccessChange.reverse)

/-! ## One value, one field, one set of rules -/

theorem Change.between_swap {α : Type} [BEq α] [Std.Symm fun x y : α => (x == y) = true]
    (before after : α) : between after before = (between before after).map reverse := by
  have swap : (after == before) = (before == after) := Bool.eq_iff_iff.mpr ⟨BEq.symm, BEq.symm⟩
  unfold between
  rw [swap]
  split <;> rfl

theorem FieldModification.between_swap {before after : Field} (named : before.name = after.name) :
    between after before = (between before after).reverse := by
  simp only [between, reverse, mk.injEq]
  exact ⟨named, Change.between_swap _ _, Change.between_swap _ _, Change.between_swap _ _,
    Change.between_swap _ _, Change.between_swap _ _⟩

theorem AccessChange.between_swap (table : String) (before after : AccessControl) :
    between table after before = (between table before after).reverse := by
  simp only [between, reverse, mk.injEq, true_and]
  exact ⟨Change.between_swap _ _, Change.between_swap _ _, Change.between_swap _ _,
    Change.between_swap _ _⟩

theorem AccessChange.between?_swap (table : String) (before after : AccessControl) :
    between? table after before = (between? table before after).map reverse := by
  have empty : (between table after before).isEmpty = (between table before after).isEmpty := by
    rw [between_swap]
    simp [isEmpty, reverse]
  unfold between?
  simp only [empty]
  split
  · rfl
  · rw [between_swap, Option.map_some]

/-! ## Tables -/

namespace TableModification

variable {before after : Table} (distinctBefore : (before.fields.map Field.name).Nodup)
  (distinctAfter : (after.fields.map Field.name).Nodup)

include distinctBefore distinctAfter

/-- The modified fields are the same, each read backwards. -/
theorem fieldsModified_swap :
    (between after before).fieldsModified.Perm
      ((between before after).fieldsModified.map FieldModification.reverse) := by
  have distinct : (((between before after).fieldsModified.map FieldModification.reverse).map
      FieldModification.name).Nodup := by
    rw [List.map_map]
    exact fieldsModified_distinct distinctAfter
  refine perm_of_names (fieldsModified_distinct distinctBefore) distinct fun m => ?_
  rw [List.mem_map, mem_fieldsModified_iff distinctAfter]
  constructor
  · rintro ⟨y, new, x, old, named, differ, rfl⟩
    have recorded := (mem_fieldsModified_iff distinctBefore).mpr
      ⟨x, old, y, new, named.symm, fun same => differ same.symm, rfl⟩
    exact ⟨_, recorded, (FieldModification.between_swap named.symm).symm⟩
  · rintro ⟨m, recorded, rfl⟩
    obtain ⟨x, old, y, new, named, differ, rfl⟩ :=
      (mem_fieldsModified_iff distinctBefore).mp recorded
    exact ⟨y, new, x, old, named.symm, fun same => differ same.symm,
      (FieldModification.between_swap named).symm⟩

theorem mirrors_between (named : before.name = after.name) :
    (between after before).Mirrors (between before after) where
  table := named
  fieldsAdded := rfl
  fieldsRemoved := rfl
  fieldsModified := fieldsModified_swap distinctBefore distinctAfter
  accessChanged := by
    change (AccessChange.between? before.name after.access before.access).isSome = _
    rw [named, AccessChange.between?_swap, Option.isSome_map]
    rfl

end TableModification

/-! ## Snapshots -/

namespace Diff

variable {before after : Snapshot} (validBefore : before.Valid) (validAfter : after.Valid)

include validBefore

/-- The access changes of the tables of both snapshots are the differences between their rules. -/
theorem mem_sharedAccess {change : AccessChange} :
    change ∈ (between before after).sharedAccess before after ↔
      ∃ x ∈ before.tables, ∃ y ∈ after.tables, x.name = y.name ∧
        AccessChange.between? y.name x.access y.access = some change := by
  simp only [sharedAccess, List.mem_filter, decide_eq_true_eq]
  constructor
  · rintro ⟨recorded, old, -⟩
    obtain ⟨y, new, ⟨unknown, rfl⟩ | ⟨x, known, made⟩⟩ := mem_access_iff.mp recorded
    · rw [validBefore.lastTable?_eq, Snapshot.table?_eq_none_iff] at unknown
      exact absurd old unknown
    · rw [validBefore.lastTable?_eq] at known
      obtain ⟨old, named⟩ := validBefore.table?_eq_some_iff.mp known
      exact ⟨x, old, y, new, named, made⟩
  · rintro ⟨x, old, y, new, named, made⟩
    have about : change.table = y.name := by
      obtain ⟨-, rfl⟩ := AccessChange.between?_eq_some_iff.mp made
      rfl
    refine ⟨mem_access_iff.mpr ⟨y, new, .inr ⟨x, ?_, made⟩⟩, ?_, ?_⟩
    · exact validBefore.lastTable?_of_mem old named
    · exact about ▸ named ▸ List.mem_map_of_mem old
    · exact about ▸ List.mem_map_of_mem new

include validAfter

theorem sharedAccess_swap :
    ((between after before).sharedAccess before after).Perm
      (((between before after).sharedAccess before after).map AccessChange.reverse) := by
  have swap : (between after before).sharedAccess before after =
      (between after before).sharedAccess after before := by
    simp only [sharedAccess, and_comm]
  have distinct : (((between after before).sharedAccess before after).map
      AccessChange.table).Nodup :=
    (access_distinct validBefore.tablesDistinct).sublist (List.filter_sublist.map _)
  have distinct' : ((((between before after).sharedAccess before after).map
      AccessChange.reverse).map AccessChange.table).Nodup := by
    rw [List.map_map]
    exact (access_distinct validAfter.tablesDistinct).sublist (List.filter_sublist.map _)
  refine perm_of_names distinct distinct' fun change => ?_
  rw [swap, List.mem_map, mem_sharedAccess validAfter]
  constructor
  · rintro ⟨y, new, x, old, named, made⟩
    rw [← named, AccessChange.between?_swap, Option.map_eq_some_iff] at made
    obtain ⟨change, made, rfl⟩ := made
    exact ⟨change, (mem_sharedAccess validBefore).mpr ⟨x, old, y, new, named.symm, made⟩, rfl⟩
  · rintro ⟨change, recorded, rfl⟩
    obtain ⟨x, old, y, new, named, made⟩ := (mem_sharedAccess validBefore).mp recorded
    refine ⟨y, new, x, old, named.symm, ?_⟩
    rw [named, AccessChange.between?_swap, made, Option.map_some]

/-- Both directions modify the same tables. -/
theorem modified_swap :
    SameUpToOrder TableModification.Mirrors (between after before).modified
      (between before after).modified := by
  have mirrors : ∀ x ∈ before.tables, ∀ y ∈ after.tables, x.name = y.name →
      (TableModification.between y x).Mirrors (TableModification.between x y) :=
    fun x old y new => TableModification.mirrors_between (validBefore.fieldsDistinct x old)
      (validAfter.fieldsDistinct y new)
  refine sameUpToOrder_of_names (modified_distinct validBefore.tablesDistinct)
    (modified_distinct validAfter.tablesDistinct) (fun _ _ mirrors => mirrors.table) ?_ ?_
  · intro m recorded
    obtain ⟨y, new, x, old, named, differ, rfl⟩ :=
      (mem_modified_iff validAfter validBefore).mp recorded
    exact ⟨_, (mem_modified_iff validBefore validAfter).mpr
      ⟨x, old, y, new, named.symm, fun same => differ same.symm, rfl⟩,
      mirrors x old y new named.symm⟩
  · intro m recorded
    obtain ⟨x, old, y, new, named, differ, rfl⟩ :=
      (mem_modified_iff validBefore validAfter).mp recorded
    exact ⟨_, (mem_modified_iff validAfter validBefore).mpr
      ⟨y, new, x, old, named.symm, fun same => differ same.symm, rfl⟩,
      mirrors x old y new named⟩

end Diff

/-- The diffs between two accepted snapshots in the two directions are each other read backwards. -/
theorem diffs_mirror_each_other {before after : Snapshot}
    (acceptedBefore : before.validate = .ok ()) (acceptedAfter : after.validate = .ok ()) :
    (Diff.between after before).Mirrors (Diff.between before after) before after := by
  have validBefore := Snapshot.Valid.ofValidate acceptedBefore
  have validAfter := Snapshot.Valid.ofValidate acceptedAfter
  exact {
    added := rfl
    removed := rfl
    modified := Diff.modified_swap validBefore validAfter
    access := Diff.sharedAccess_swap validBefore validAfter }

/-- Back from the shop, the drafts are added, the shops removed, and the items get their old
columns, types and rules. -/
theorem diffs_mirror_each_other_items :
    pricedItems.validate = .ok () ∧ shopItems.validate = .ok () ∧
      (Diff.between shopItems pricedItems).Mirrors (Diff.between pricedItems shopItems) pricedItems
        shopItems ∧
      ((Diff.between shopItems pricedItems).sharedAccess pricedItems shopItems).length = 1 := by
  have accepted : pricedItems.validate = .ok () := by decide
  have accepted' : shopItems.validate = .ok () := by decide
  exact ⟨accepted, accepted', diffs_mirror_each_other accepted accepted', by decide⟩

end SchemaDelta
