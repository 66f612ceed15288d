import Mathlib.Data.String.Basic
import SchemaDelta.Json

/-!
# Canonical JSON values

The bindings of a map stand in ascending order of their keys, and making them anew in that order
changes nothing. So a value that was made canonical is not changed by making it canonical again.
-/

namespace SchemaDelta

namespace KeyedList

variable {α : Type} {key : String} {value : α} {map bindings : List (String × α)}

/-- The keys ascend. -/
def Ascending (map : List (String × α)) : Prop := map.Pairwise fun x y => x.1 < y.1

theorem mem_of_mem_insert {binding : String × α} (member : binding ∈ insert key value map) :
    binding = (key, value) ∨ binding ∈ map := by
  induction map with
  | nil => exact .inl (List.mem_singleton.mp member)
  | cons first map ih =>
    obtain ⟨k, v⟩ := first
    rw [insert] at member
    split at member
    · exact List.mem_cons.mp member
    · split at member
      · exact (List.mem_cons.mp member).imp_right (List.mem_cons_of_mem _)
      · rcases List.mem_cons.mp member with rfl | member
        · exact .inr List.mem_cons_self
        · exact (ih member).imp_right (List.mem_cons_of_mem _)

theorem ascending_insert (ascending : Ascending map) : Ascending (insert key value map) := by
  induction map with
  | nil => exact List.pairwise_singleton _ _
  | cons first map ih =>
    obtain ⟨k, v⟩ := first
    obtain ⟨least, later⟩ := List.pairwise_cons.mp ascending
    rw [insert]
    split
    case isTrue less =>
      refine List.pairwise_cons.mpr ⟨fun binding member => ?_, ascending⟩
      rcases List.mem_cons.mp member with rfl | member
      · exact less
      · exact less.trans (least binding member)
    case isFalse notLess =>
      split
      case isTrue same =>
        subst same
        exact List.pairwise_cons.mpr ⟨least, later⟩
      case isFalse different =>
        have less : k < key := lt_of_le_of_ne (not_lt.mp notLess) (Ne.symm different)
        refine List.pairwise_cons.mpr ⟨fun binding member => ?_, ih later⟩
        rcases mem_of_mem_insert member with rfl | member
        · exact less
        · exact least binding member

theorem ascending_ofList (bindings : List (String × α)) : Ascending (ofList bindings) := by
  suffices ∀ map, Ascending map →
      Ascending (bindings.foldl (fun map binding => insert binding.1 binding.2 map) map) from
    this [] List.Pairwise.nil
  induction bindings with
  | nil => exact fun map ascending => ascending
  | cons binding bindings ih => exact fun map ascending => ih _ (ascending_insert ascending)

theorem mem_of_mem_ofList {binding : String × α} (member : binding ∈ ofList bindings) :
    binding ∈ bindings := by
  suffices ∀ map, binding ∈ bindings.foldl (fun map binding => insert binding.1 binding.2 map) map →
      binding ∈ map ∨ binding ∈ bindings from
    (this [] member).resolve_left List.not_mem_nil
  clear member
  induction bindings with
  | nil => exact fun map member => .inl member
  | cons first bindings ih =>
    intro map member
    rcases ih _ member with member | member
    · exact (mem_of_mem_insert member).elim (fun same => .inr (same ▸ List.mem_cons_self)) .inl
    · exact .inr (List.mem_cons_of_mem _ member)

/-- A binding of a greater key comes last. -/
theorem insert_eq_append (greatest : ∀ binding ∈ map, binding.1 < key) :
    insert key value map = map ++ [(key, value)] := by
  induction map with
  | nil => rfl
  | cons first map ih =>
    obtain ⟨k, v⟩ := first
    obtain ⟨less, greater⟩ := List.forall_mem_cons.mp greatest
    rw [insert, if_neg less.asymm, if_neg less.ne', ih greater, List.cons_append]

theorem ofList_of_ascending (ascending : Ascending map) : ofList map = map := by
  suffices ∀ done, Ascending (done ++ map) →
      map.foldl (fun map binding => insert binding.1 binding.2 map) done = done ++ map from
    this [] ascending
  clear ascending
  induction map with
  | nil => exact fun done _ => (List.append_nil done).symm
  | cons binding map ih =>
    intro done ascending
    have greatest : ∀ earlier ∈ done, earlier.1 < binding.1 :=
      fun earlier member => (List.pairwise_append.mp ascending).2.2 earlier member binding
        List.mem_cons_self
    rw [List.append_cons] at ascending ⊢
    rw [List.foldl_cons, insert_eq_append greatest]
    exact ih _ ascending

end KeyedList

namespace Json

theorem canonicalItems_eq_map (items : List Json) : canonicalItems items = items.map canonical := by
  induction items with
  | nil => rfl
  | cons item items ih => rw [canonicalItems, ih, List.map_cons]

theorem canonicalMembers_eq_map (members : List (String × Json)) :
    canonicalMembers members = members.map fun (key, value) => (key, value.canonical) := by
  induction members with
  | nil => rfl
  | cons member members ih => rw [canonicalMembers, ih, List.map_cons]

/-- A value that is kept as it is. -/
def Canonical (value : Json) : Prop := value.canonical = value

theorem canonical_array {items : List Json} (each : ∀ item ∈ items, item.Canonical) :
    (array items).Canonical := by
  rw [Canonical, canonical, canonicalItems_eq_map, List.map_congr_left each, List.map_id']

theorem canonical_object {members : List (String × Json)} (ascending : KeyedList.Ascending members)
    (each : ∀ member ∈ members, member.2.Canonical) : (object members).Canonical := by
  have same : canonicalMembers members = members := calc
    canonicalMembers members = members.map id := (canonicalMembers_eq_map members).trans
      (List.map_congr_left fun member inside => Prod.ext rfl (each member inside))
    _ = members := List.map_id _
  rw [Canonical, canonical, same, KeyedList.ofList_of_ascending ascending]

mutual

/-- Values that were made canonical are canonical. -/
theorem canonical_canonical : ∀ value : Json, value.canonical.Canonical
  | null => rfl
  | bool _ => rfl
  | number _ => rfl
  | string _ => rfl
  | array items => by
    rw [canonical]
    exact canonical_array (canonical_canonicalItems items)
  | object members => by
    rw [canonical]
    exact canonical_object (KeyedList.ascending_ofList _) fun member inside =>
      canonical_canonicalMembers members member (KeyedList.mem_of_mem_ofList inside)

theorem canonical_canonicalItems : ∀ items : List Json,
    ∀ item ∈ canonicalItems items, item.Canonical
  | [] => fun _ => nofun
  | item :: items => List.forall_mem_cons.mpr
    ⟨canonical_canonical item, canonical_canonicalItems items⟩

theorem canonical_canonicalMembers : ∀ members : List (String × Json),
    ∀ member ∈ canonicalMembers members, member.2.Canonical
  | [] => fun _ => nofun
  | (_, value) :: members => List.forall_mem_cons.mpr
    ⟨canonical_canonical value, canonical_canonicalMembers members⟩

end

end Json

end SchemaDelta
