import SchemaDelta.Proofs.Diff
import SchemaDelta.Proofs.Equivalence

/-!
# Snapshots in another order

Tables and fields may be declared in any order: what is compared is found by its name. Reordering
two accepted snapshots reorders the lists of their diff, and the fields of the tables in it, and
changes nothing else. If only the old snapshot is reordered, even the order stays except for what is
removed.
-/

namespace SchemaDelta

/-! ## Lists up to order -/

namespace SameUpToOrder

variable {α β γ δ : Type} {R : α → β → Prop} {S : γ → δ → Prop} {xs : List α} {ys : List β}

theorem map_perm (same : SameUpToOrder R xs ys) {f : α → γ} {g : β → γ}
    (equal : ∀ x y, R x y → f x = g y) : (xs.map f).Perm (ys.map g) := by
  obtain ⟨zs, permuted, pairs⟩ := same
  have mapped : zs.map f = ys.map g := by
    rw [← List.forall₂_eq_eq_eq, List.forall₂_map_left_iff, List.forall₂_map_right_iff]
    exact pairs.imp equal
  exact mapped ▸ permuted.map f

theorem filter (same : SameUpToOrder R xs ys) {p : α → Bool} {q : β → Bool}
    (equal : ∀ x y, R x y → p x = q y) : SameUpToOrder R (xs.filter p) (ys.filter q) := by
  obtain ⟨zs, permuted, pairs⟩ := same
  exact ⟨zs.filter p, permuted.filter p,
    List.rel_filter (fun x y related => Bool.eq_iff_iff.mp (equal x y related)) pairs⟩

theorem filterMap (same : SameUpToOrder R xs ys) {f : α → Option γ} {g : β → Option δ}
    (related : ∀ x y, R x y → Option.Rel S (f x) (g y)) :
    SameUpToOrder S (xs.filterMap f) (ys.filterMap g) := by
  obtain ⟨zs, permuted, pairs⟩ := same
  exact ⟨zs.filterMap f, permuted.filterMap f, List.rel_filterMap related pairs⟩

theorem filterMap_perm (same : SameUpToOrder R xs ys) {f : α → Option γ} {g : β → Option γ}
    (equal : ∀ x y, R x y → f x = g y) : (xs.filterMap f).Perm (ys.filterMap g) := by
  have mapped := (same.map_perm equal).filterMap id
  rwa [List.filterMap_map, List.filterMap_map] at mapped

/-- Among items with different names a name finds related items in both lists. -/
theorem find? {name : α → String} {name' : β → String} (same : SameUpToOrder R xs ys)
    (distinct : (xs.map name).Nodup) (named : ∀ x y, R x y → name x = name' y) (key : String) :
    Option.Rel R (xs.find? (name · == key)) (ys.find? (name' · == key)) := by
  obtain ⟨zs, permuted, pairs⟩ := same
  rw [find?_name_perm distinct permuted]
  clear permuted
  induction pairs with
  | nil => exact .none
  | @cons x y _ _ related _ ih =>
    rw [List.find?_cons, List.find?_cons, named x y related]
    cases name' y == key with
    | true => exact .some related
    | false => exact ih

end SameUpToOrder

/-! ## Reordered snapshots and diffs -/

/-- The tables have the same name and rules, and the same fields in some order. -/
structure Table.Reordered (x y : Table) : Prop where
  name : x.name = y.name
  fields : x.fields.Perm y.fields
  access : x.access = y.access

/-- The snapshots have the same tables in some order, each with the same fields in some order. -/
def Snapshot.Reordered (x y : Snapshot) : Prop := SameUpToOrder Table.Reordered x.tables y.tables

/-- The modifications record the same, in some order. -/
structure TableModification.Reordered (m m' : TableModification) : Prop where
  table : m.table = m'.table
  fieldsAdded : m.fieldsAdded.Perm m'.fieldsAdded
  fieldsRemoved : m.fieldsRemoved.Perm m'.fieldsRemoved
  fieldsModified : m.fieldsModified.Perm m'.fieldsModified
  accessChanged : m.accessChanged = m'.accessChanged

/-- The diffs record the same, in some order. -/
structure Diff.Reordered (diff diff' : Diff) : Prop where
  added : SameUpToOrder Table.Reordered diff.added diff'.added
  removed : SameUpToOrder Table.Reordered diff.removed diff'.removed
  modified : SameUpToOrder TableModification.Reordered diff.modified diff'.modified
  access : diff.access.Perm diff'.access

/-- The modifications are the same but for the order of the removed fields. -/
def TableModification.SameButRemoved (m m' : TableModification) : Prop :=
  ∃ removed, m.fieldsRemoved.Perm removed ∧ m' = { m with fieldsRemoved := removed }

/-- The diffs are the same but for the order of what is removed. -/
structure Diff.SameButRemoved (diff diff' : Diff) : Prop where
  added : diff.added = diff'.added
  removed : SameUpToOrder Table.Reordered diff.removed diff'.removed
  modified : List.Forall₂ TableModification.SameButRemoved diff.modified diff'.modified
  access : diff.access = diff'.access

namespace Table.Reordered

variable {x y : Table}

theorem refl (x : Table) : x.Reordered x := ⟨rfl, .refl _, rfl⟩

theorem lastField?_eq (same : x.Reordered y) (distinct : (x.fields.map Field.name).Nodup)
    (key : String) : x.lastField? key = y.lastField? key := by
  have distinct' : (y.fields.map Field.name).Nodup := (same.fields.map _).nodup_iff.mp distinct
  rw [lastField?_eq_field? distinct, lastField?_eq_field? distinct']
  exact find?_name_perm distinct same.fields

theorem lastField?_isNone (same : x.Reordered y) (key : String) :
    (x.lastField? key).isNone = (y.lastField? key).isNone := by
  rw [Bool.eq_iff_iff, lastField?, lastField?, find?_name_reverse_isNone,
    find?_name_reverse_isNone, (same.fields.map Field.name).mem_iff]

end Table.Reordered

theorem Snapshot.Reordered.refl (x : Snapshot) : x.Reordered x :=
  ⟨x.tables, .refl _, List.forall₂_same.mpr fun table _ => .refl table⟩

/-- In a reordered snapshot a name finds the same table, with its fields reordered. -/
theorem Snapshot.Reordered.lastTable? {x y : Snapshot} (same : x.Reordered y) (valid : x.Valid)
    (key : String) :
    Option.Rel (fun table table' => (table.fields.map Field.name).Nodup ∧ table.Reordered table')
      (x.lastTable? key) (y.lastTable? key) := by
  have distinct' : y.tableNames.Nodup :=
    (same.map_perm fun _ _ same => same.name).nodup_iff.mp valid.tablesDistinct
  rw [valid.lastTable?_eq, lastTable?_eq_table? distinct']
  have related : Option.Rel Table.Reordered (x.table? key) (y.table? key) :=
    same.find? valid.tablesDistinct (fun _ _ same => same.name) key
  have distinct : ∀ table ∈ x.table? key, (table.fields.map Field.name).Nodup :=
    fun table found => valid.fieldsDistinct table (mem_of_table? found)
  generalize x.table? key = found, y.table? key = found' at related distinct
  cases related with
  | none => exact .none
  | some same => exact .some ⟨distinct _ rfl, same⟩

theorem Snapshot.Reordered.lastTable?_isNone {x y : Snapshot} (same : x.Reordered y)
    (key : String) : (x.lastTable? key).isNone = (y.lastTable? key).isNone := by
  rw [Bool.eq_iff_iff, Snapshot.lastTable?, Snapshot.lastTable?, find?_name_reverse_isNone,
    find?_name_reverse_isNone, (same.map_perm fun _ _ same => same.name).mem_iff]

namespace TableModification

variable {x x' y y' : Table} {m m' : TableModification}

theorem Reordered.isEmpty_eq (same : m.Reordered m') : m.isEmpty = m'.isEmpty := by
  rw [isEmpty, isEmpty, same.fieldsAdded.isEmpty_eq, same.fieldsRemoved.isEmpty_eq,
    same.fieldsModified.isEmpty_eq, same.accessChanged]

theorem between_reordered (distinct : (x.fields.map Field.name).Nodup) (old : x.Reordered x')
    (new : y.Reordered y') : (between x y).Reordered (between x' y') where
  table := new.name
  fieldsAdded := by
    simp only [between, old.lastField?_isNone]
    exact new.fields.filter _
  fieldsRemoved := by
    simp only [between, new.lastField?_isNone]
    exact old.fields.filter _
  fieldsModified := by
    simp only [between, old.lastField?_eq distinct]
    exact new.fields.filterMap _
  accessChanged := by
    simp only [between, old.access, new.access, new.name]

theorem between_sameButRemoved (distinct : (x.fields.map Field.name).Nodup) (old : x.Reordered x') :
    (between x y).SameButRemoved (between x' y) := by
  have permuted := (between_reordered distinct old (.refl y)).fieldsRemoved
  refine ⟨(between x' y).fieldsRemoved, permuted, ?_⟩
  simp only [between, old.lastField?_eq distinct, old.access]

/-- Related modifications are left out together. -/
theorem between?_related {S : TableModification → TableModification → Prop}
    (related : S (between x y) (between x' y'))
    (same : (between x y).Reordered (between x' y')) :
    Option.Rel S (between? x y) (between? x' y') := by
  simp only [between?, same.isEmpty_eq]
  split
  · exact .none
  · exact .some related

end TableModification

namespace Diff

variable {before before' after after' : Snapshot} (valid : before.Valid)
  (old : before.Reordered before')

include valid old

/-- The diff between reordered snapshots is the same up to order. -/
theorem between_reordered (new : after.Reordered after') :
    (between before after).Reordered (between before' after') where
  added := new.filter fun x y same => by rw [same.name, old.lastTable?_isNone]
  removed := old.filter fun x y same => by rw [same.name, new.lastTable?_isNone]
  modified := new.filterMap fun y y' same => by
    have found := old.lastTable? valid y'.name
    rw [same.name]
    generalize before.lastTable? y'.name = x, before'.lastTable? y'.name = x' at found
    cases found with
    | none => exact .none
    | some found =>
      have reordered := TableModification.between_reordered found.1 found.2 same
      exact TableModification.between?_related reordered reordered
  access := new.filterMap_perm fun y y' same => by
    have found := old.lastTable? valid y'.name
    rw [same.name]
    generalize before.lastTable? y'.name = x, before'.lastTable? y'.name = x' at found
    cases found with
    | none => simp only [AccessChange.ofNewTable, same.name, same.access]
    | some found => simp only [found.2.access, same.access]

/-- If the old snapshot alone is reordered, only the order of what is removed changes. -/
theorem between_sameButRemoved :
    (between before after).SameButRemoved (between before' after) where
  added := by simp only [between, old.lastTable?_isNone]
  removed := (between_reordered valid old (.refl after)).removed
  modified := by
    refine List.rel_filterMap (R := Eq) (fun y y' same => ?_) (List.forall₂_eq_eq_eq ▸ rfl)
    subst same
    have found := old.lastTable? valid y.name
    generalize before.lastTable? y.name = x, before'.lastTable? y.name = x' at found
    cases found with
    | none => exact .none
    | some found =>
      exact TableModification.between?_related
        (TableModification.between_sameButRemoved found.1 found.2)
        (TableModification.between_reordered found.1 found.2 (.refl y))
  access := by
    refine List.filterMap_congr fun y _ => ?_
    have found := old.lastTable? valid y.name
    generalize before.lastTable? y.name = x, before'.lastTable? y.name = x' at found
    cases found with
    | none => rfl
    | some found => simp only [found.2.access]

end Diff

end SchemaDelta
