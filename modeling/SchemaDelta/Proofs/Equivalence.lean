import Mathlib.Data.List.Perm.Basic
import SchemaDelta.Proofs.Equality
import SchemaDelta.Proofs.Lookup

/-!
# Snapshots that are equal up to order

Tables and fields are found by their names, so it does not matter in which order they stand. Two
snapshots are equivalent when their tables can be paired in such a way that the tables of a pair
have the same name, fields that can be paired in the same way, and the same conditions. Defaults and
conditions are compared as diffs compare them.
-/

namespace SchemaDelta

section Order

variable {α β : Type} {R : α → β → Prop}

/-- The items of two lists are related one to one, in whatever order they stand. -/
def SameUpToOrder (R : α → β → Prop) (xs : List α) (ys : List β) : Prop :=
  ∃ zs, xs.Perm zs ∧ List.Forall₂ R zs ys

theorem SameUpToOrder.exists_right {xs : List α} {ys : List β} (same : SameUpToOrder R xs ys)
    {x : α} (member : x ∈ xs) : ∃ y ∈ ys, R x y := by
  obtain ⟨zs, permuted, pairs⟩ := same
  exact exists_right_of_forall₂ pairs (permuted.subset member)

theorem SameUpToOrder.exists_left {xs : List α} {ys : List β} (same : SameUpToOrder R xs ys)
    {y : β} (member : y ∈ ys) : ∃ x ∈ xs, R x y := by
  obtain ⟨zs, permuted, pairs⟩ := same
  obtain ⟨x, among, related⟩ := exists_left_of_forall₂ pairs member
  exact ⟨x, permuted.symm.subset among, related⟩

theorem SameUpToOrder.symm {xs : List α} {ys : List β} (same : SameUpToOrder R xs ys) :
    SameUpToOrder (flip R) ys xs := by
  obtain ⟨zs, permuted, pairs⟩ := same
  obtain ⟨ws, pairs', permuted'⟩ := List.perm_comp_forall₂ permuted pairs
  exact ⟨ws, permuted'.symm, pairs'.flip⟩

/-- Among items with different names it is enough that each has a partner of its name. -/
theorem sameUpToOrder_of_names {xs : List α} {ys : List β} {name : α → String}
    {name' : β → String} (distinct : (xs.map name).Nodup) (distinct' : (ys.map name').Nodup)
    (named : ∀ x y, R x y → name x = name' y) (left : ∀ x ∈ xs, ∃ y ∈ ys, R x y)
    (right : ∀ y ∈ ys, ∃ x ∈ xs, R x y) : SameUpToOrder R xs ys := by
  induction ys generalizing xs with
  | nil =>
    have none : xs = [] := List.eq_nil_iff_forall_not_mem.mpr fun x member => by
      obtain ⟨y, absent, -⟩ := left x member
      exact List.not_mem_nil absent
    exact ⟨[], none ▸ .refl _, .nil⟩
  | cons y ys ih =>
    obtain ⟨x, member, related⟩ := right y (by simp)
    obtain ⟨first, last, rfl⟩ := List.append_of_mem member
    have moved : (first ++ x :: last).Perm (x :: (first ++ last)) := List.perm_middle
    have distinctMoved := (moved.map name).nodup_iff.mp distinct
    rw [List.map_cons, List.nodup_cons] at distinctMoved distinct'
    -- without the first pair both lists are shorter, and no partner was taken from them
    have left' : ∀ z ∈ first ++ last, ∃ y' ∈ ys, R z y' := by
      intro z stays
      obtain ⟨y', choice, related'⟩ := left z (moved.symm.subset (List.mem_cons_of_mem x stays))
      rcases List.mem_cons.mp choice with rfl | inside
      · have same : name z = name x := (named z y' related').trans (named x y' related).symm
        exact absurd (same ▸ List.mem_map_of_mem stays) distinctMoved.1
      · exact ⟨y', inside, related'⟩
    have right' : ∀ y' ∈ ys, ∃ z ∈ first ++ last, R z y' := by
      intro y' inside
      obtain ⟨z, stays, related'⟩ := right y' (List.mem_cons_of_mem y inside)
      rcases List.mem_cons.mp (moved.subset stays) with rfl | stays
      · have same : name' y' = name' y := (named z y' related').symm.trans (named z y related)
        exact absurd (same ▸ List.mem_map_of_mem inside) distinct'.1
      · exact ⟨z, stays, related'⟩
    obtain ⟨zs, permuted, pairs⟩ := ih distinctMoved.2 distinct'.2 left' right'
    exact ⟨x :: zs, moved.trans (permuted.cons x), .cons related pairs⟩

end Order

/-- The fields have the same name and the same attributes. -/
structure Field.Equivalent (x y : Field) : Prop where
  name : x.name = y.name
  type : x.type = y.type
  nullable : x.nullable = y.nullable
  primaryKey : x.primaryKey = y.primaryKey
  default : (x.default == y.default) = true
  foreignKey : x.foreignKey = y.foreignKey

/-- Every operation has the same condition. -/
def AccessControl.Equivalent (x y : AccessControl) : Prop :=
  ∀ operation, (x.get operation == y.get operation) = true

/-- The tables have the same name and conditions, and the same fields in some order. -/
structure Table.Equivalent (x y : Table) : Prop where
  name : x.name = y.name
  fields : SameUpToOrder Field.Equivalent x.fields y.fields
  access : x.access.Equivalent y.access

/-- The snapshots have the same tables in some order. -/
def Snapshot.Equivalent (x y : Snapshot) : Prop :=
  SameUpToOrder Table.Equivalent x.tables y.tables

theorem Field.Equivalent.refl (x : Field) : x.Equivalent x := ⟨rfl, rfl, rfl, rfl, BEq.rfl, rfl⟩

theorem Field.Equivalent.symm {x y : Field} (same : x.Equivalent y) : y.Equivalent x :=
  ⟨same.name.symm, same.type.symm, same.nullable.symm, same.primaryKey.symm, BEq.symm same.default,
    same.foreignKey.symm⟩

theorem AccessControl.Equivalent.refl (x : AccessControl) : x.Equivalent x := fun _ => BEq.rfl

theorem AccessControl.Equivalent.symm {x y : AccessControl} (same : x.Equivalent y) :
    y.Equivalent x := fun operation => BEq.symm (same operation)

theorem Table.Equivalent.refl (x : Table) : x.Equivalent x :=
  ⟨rfl, ⟨x.fields, .refl _, List.forall₂_same.mpr fun y _ => .refl y⟩, .refl _⟩

theorem Table.Equivalent.symm {x y : Table} (same : x.Equivalent y) : y.Equivalent x := by
  obtain ⟨fields, permuted, pairs⟩ := same.fields.symm
  exact ⟨same.name.symm, ⟨fields, permuted, pairs.imp fun _ _ => Field.Equivalent.symm⟩,
    same.access.symm⟩

end SchemaDelta
