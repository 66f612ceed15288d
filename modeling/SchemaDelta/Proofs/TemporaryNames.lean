import Mathlib.Order.Bounds.Basic
import SchemaDelta.Proofs.Settlement.Rebuild

/-!
# Temporary names

The temporary name of a rebuilt column is searched for without a bound: as long as the name at hand
is taken, the search passes on to the next number. It ends all the same, because these names all
differ and a table has only so many fields. Main statement: the search looks at one name more than
there are fields at most, and it ends at the least free name, which is the one that plans have.
-/

namespace SchemaDelta

/-- A search for a free name: the name at hand, and the number that the next one has. -/
structure NameSearch where
  candidate : String
  counter : Nat

namespace NameSearch

/-- The first name has no number. -/
def start (column : String) : NameSearch := ⟨column ++ "__rebuild", 1⟩

/-- The search passes on to the name with the next number. -/
def next (column : String) (search : NameSearch) : NameSearch where
  candidate := column ++ "__rebuild" ++ "_" ++ toString search.counter
  counter := search.counter + 1

/-- From here on the search looks at `looks` names, and ends at the free one `name`. -/
inductive Ends (table : Table) (column : String) : NameSearch → Nat → String → Prop
  | free {search : NameSearch} (free : table.field? search.candidate = none) :
      Ends table column search 1 search.candidate
  | taken {search : NameSearch} {looks : Nat} {name : String}
      (taken : (table.field? search.candidate).isSome)
      (later : Ends table column (search.next column) looks name) :
      Ends table column search (looks + 1) name

variable {table : Table} {column : String} {search : NameSearch} {looks looks' : Nat}
  {name name' : String}

/-- A search has at most one end. -/
theorem Ends.unique (ends : search.Ends table column looks name)
    (ends' : search.Ends table column looks' name') : looks' = looks ∧ name' = name := by
  induction ends generalizing looks' name' with
  | free free =>
    cases ends' with
    | free => exact ⟨rfl, rfl⟩
    | taken taken => simp [free] at taken
  | taken taken _ ih =>
    cases ends' with
    | free free => simp [free] at taken
    | taken _ later =>
      obtain ⟨rfl, rfl⟩ := ih later
      exact ⟨rfl, rfl⟩

/-- The search at its `k`-th name. -/
def attempt (column : String) (k : Nat) : NameSearch := ⟨rebuildCandidate column k, k + 1⟩

theorem next_attempt (column : String) (k : Nat) :
    (attempt column k).next column = attempt column (k + 1) := by
  simp [next, attempt, rebuildCandidate, String.append_assoc]

/-- The search goes past the names that are taken, up to one that is free. -/
theorem ends_attempt {k : Nat}
    (taken : ∀ j < looks, (table.field? (rebuildCandidate column (k + j))).isSome)
    (free : table.field? (rebuildCandidate column (k + looks)) = none) :
    (attempt column k).Ends table column (looks + 1) (rebuildCandidate column (k + looks)) := by
  induction looks generalizing k with
  | zero => exact .free free
  | succ looks ih =>
    have shift (j : Nat) : k + (j + 1) = k + 1 + j := by omega
    have later : ∀ j < looks, (table.field? (rebuildCandidate column (k + 1 + j))).isSome := by
      intro j less
      rw [← shift]
      exact taken (j + 1) (Nat.succ_lt_succ less)
    refine .taken (taken 0 looks.succ_pos) ?_
    rw [shift] at free ⊢
    rw [Nat.add_zero, next_attempt]
    exact ih later free

theorem ends_start {k : Nat} (taken : ∀ j < k, (table.field? (rebuildCandidate column j)).isSome)
    (free : table.field? (rebuildCandidate column k) = none) :
    (start column).Ends table column (k + 1) (rebuildCandidate column k) := by
  have run : (attempt column 0).Ends table column (k + 1) (rebuildCandidate column (0 + k)) :=
    ends_attempt (by simpa using taken) (by simpa using free)
  rwa [Nat.zero_add] at run

end NameSearch

/-- The temporary name in a plan is the first free one, and its number is at most the number of
fields. -/
theorem exists_rebuildName_eq (table : Table) (column : String) :
    ∃ k ≤ table.fields.length, rebuildName table column = rebuildCandidate column k ∧
      ∀ j < k, (table.field? (rebuildCandidate column j)).isSome := by
  have planned : ∃ attempt, rebuildName table column = rebuildCandidate column (attempt.getD 0) ∧
      (List.range (table.fields.length + 1)).find?
        (fun k => (table.field? (rebuildCandidate column k)).isNone) = attempt := ⟨_, rfl, rfl⟩
  obtain ⟨attempt, named, found⟩ := planned
  cases attempt with
  | none =>
    -- no attempt would be free, but the name that the plan has then is that of the first
    have taken := List.find?_eq_none.mp found 0 (List.mem_range.mpr (Nat.succ_pos _))
    have free := field?_rebuildName table column
    rw [named] at free
    exact absurd (Option.isNone_iff_eq_none.mpr free) taken
  | some k =>
    obtain ⟨-, small, earlier⟩ := List.find?_range_eq_some.mp found
    refine ⟨k, Nat.lt_succ_iff.mp (List.mem_range.mp small), named, fun j less => ?_⟩
    simpa [Option.isSome_iff_ne_none] using earlier j less

theorem rebuildCandidate_ne (column : String) (k : Nat) : rebuildCandidate column k ≠ column := by
  intro same
  have letters := congrArg String.toList same
  cases k <;> simp [rebuildCandidate] at letters

/-- The search for a temporary name has just one end: the name that plans have, after looking at one
name more than the table has fields at most. This name has no number if that is free, and otherwise
the least number that is. It is neither the name of a field nor that of the column that is
rebuilt. -/
theorem name_search_ends_at_least_free_name (table : Table) (column : String) :
    (∃ looks ≤ table.fields.length + 1, ∀ looks' name,
      (NameSearch.start column).Ends table column looks' name ↔
        looks' = looks ∧ name = rebuildName table column) ∧
    (column ++ "__rebuild" ∉ table.fields.map Field.name →
      rebuildName table column = column ++ "__rebuild") ∧
    (column ++ "__rebuild" ∈ table.fields.map Field.name →
      ∃ k, rebuildName table column = column ++ "__rebuild_" ++ toString k ∧
        IsLeast
          {i | 1 ≤ i ∧ column ++ "__rebuild_" ++ toString i ∉ table.fields.map Field.name} k) ∧
    rebuildName table column ∉ table.fields.map Field.name ∧
    rebuildName table column ≠ column := by
  obtain ⟨k, small, planned, taken⟩ := exists_rebuildName_eq table column
  have free := field?_rebuildName table column
  rw [planned] at free ⊢
  have ends := NameSearch.ends_start taken free
  refine ⟨⟨k + 1, Nat.succ_le_succ small, fun looks name => ?ends⟩, ?plain, ?numbered,
    Table.field?_eq_none_iff.mp free, rebuildCandidate_ne column k⟩
  case ends =>
    constructor
    · exact ends.unique
    · rintro ⟨rfl, rfl⟩
      exact ends
  case plain =>
    intro unused
    cases k with
    | zero => rfl
    | succ k =>
      have used := Table.field?_isSome_iff.mp (taken 0 k.succ_pos)
      exact absurd used unused
  case numbered =>
    intro used
    cases k with
    | zero => exact absurd used (Table.field?_eq_none_iff.mp free)
    | succ k =>
      refine ⟨k + 1, rfl, ⟨Nat.succ_pos k, Table.field?_eq_none_iff.mp free⟩, ?_⟩
      rintro (_ | j) ⟨positive, unused⟩
      · exact absurd positive (by decide)
      · by_contra less
        exact unused (Table.field?_isSome_iff.mp (taken (j + 1) (not_le.mp less)))

/-- A name of a field is passed over also where the table declares it twice. -/
example :
    rebuildName
      { name := "users"
        fields := [
          { name := "age__rebuild", type := .text }, { name := "age__rebuild_2", type := .text },
          { name := "age__rebuild", type := .number }] } "age" = "age__rebuild_1" := by
  decide

end SchemaDelta
