import SchemaDelta.Proofs.Diff
import SchemaDelta.Proofs.Validity

/-!
# The violations that are reported

What is wrong with a snapshot can be said without a scan. A name is at fault where it stands if it
is empty or one of the names before it, and a foreign key is at fault if the last table of the name
it gives lacks the field. Validation reports these faults, all of them and in the order of the
document.
-/

namespace SchemaDelta

/-- What is wrong with a name that stands after others. -/
inductive NameFault where
  | empty
  | repeated
deriving DecidableEq

/-- The fault of a name, given the names before it. An empty name is not one that is repeated. -/
def nameFault? (earlier : List String) (name : String) : Option NameFault :=
  if name = "" then some .empty else if name ∈ earlier then some .repeated else none

namespace Violation

/-- The violation by the name of a table at a position. -/
def ofTableName (position : Nat) (table : String) : NameFault → Violation
  | .empty => .emptyTableName position
  | .repeated => .duplicateTable table

/-- The violation by the name of a field. -/
def ofFieldName (table field : String) : NameFault → Violation
  | .empty => .emptyFieldName table
  | .repeated => .duplicateField table field

end Violation

/-- The faults of the names of the fields, each looked at after the fields before it. -/
def Table.fieldFaults (table : Table) : List Violation :=
  table.fields.zipIdx.flatMap fun (field, position) =>
    (nameFault? ((table.fields.take position).map Field.name) field.name).toList.map
      (.ofFieldName table.name field.name)

namespace Snapshot

variable (snapshot : Snapshot)

/-- The faults of names: of every table its own, after the tables before it, and then those of its
fields. -/
def nameFaults : List Violation :=
  snapshot.tables.zipIdx.flatMap fun (table, position) =>
    (nameFault? ((snapshot.tables.take position).map Table.name) table.name).toList.map
      (.ofTableName position table.name) ++ table.fieldFaults

/-- The last table of a name declares a field of a name. -/
def Declares (table field : String) : Prop :=
  ∃ target, (snapshot.tables.filter (·.name = table)).getLast? = some target ∧
    field ∈ target.fields.map Field.name

theorem hasTarget_iff_declares (relation : Relation) :
    snapshot.hasTarget relation = true ↔
      snapshot.Declares relation.toTable relation.toField := by
  have last : snapshot.lastTable? relation.toTable =
      (snapshot.tables.filter (·.name = relation.toTable)).getLast? := by
    rw [lastTable?, ← List.head?_filter, List.filter_reverse, List.head?_reverse]
    rfl
  rw [hasTarget, Option.any_eq_true, last]
  simp only [Table.field?_isSome_iff]
  rfl

instance (table field : String) : Decidable (snapshot.Declares table field) :=
  decidable_of_iff _ (snapshot.hasTarget_iff_declares ⟨"", "", table, field⟩)

/-- The faults of foreign keys. -/
def keyFaults : List Violation :=
  snapshot.tables.flatMap fun table => table.fields.flatMap fun field =>
    match field.foreignKey with
    | none => []
    | some key =>
      if snapshot.Declares key.table key.field then []
      else [.unknownForeignKeyTarget ⟨table.name, field.name, key.table, key.field⟩]

/-- All faults of a snapshot in order. -/
def faults : List Violation := snapshot.nameFaults ++ snapshot.keyFaults

end Snapshot

/-! ## Names that were seen -/

/-- The names seen are those before, but for empty ones. -/
def Sees (seen earlier : List String) : Prop := ∀ name, name ≠ "" → (name ∈ seen ↔ name ∈ earlier)

/-- The names seen after one more. Only a name without fault is new. -/
def see (seen : List String) (name : String) : List String :=
  if (nameFault? seen name).isSome then seen else name :: seen

namespace Sees

variable {seen earlier : List String}

theorem nil : Sees [] [] := fun _ _ => Iff.rfl

/-- It does not matter to the fault of a name that empty names are not seen. -/
theorem nameFault?_eq (sees : Sees seen earlier) (name : String) :
    nameFault? seen name = nameFault? earlier name := by
  by_cases empty : name = ""
  · simp [nameFault?, empty]
  · simp [nameFault?, empty, sees name empty]

theorem snoc (sees : Sees seen earlier) (name : String) :
    Sees (see seen name) (earlier ++ [name]) := by
  intro other named
  rw [List.mem_append, List.mem_singleton, ← sees other named]
  by_cases empty : name = ""
  · have different : other ≠ name := fun same => named (same.trans empty)
    simp [see, nameFault?, empty, named]
  · by_cases known : name ∈ seen
    · -- a repeated name is not seen a second time, but it is among those seen
      have among : other = name → other ∈ seen := fun same => same ▸ known
      simp only [see, nameFault?, empty, known, if_false, if_true, Option.isSome_some]
      tauto
    · simp [see, nameFault?, empty, known, or_comm]

end Sees

/-- A scan that finds something of each item by the names seen so far finds it by the items that
stand before. -/
theorem scan_eq_flatMap {α β : Type} (name : α → String)
    (found : Option NameFault → Nat → α → List β) (scan : Nat → List String → List α → List β)
    (nil : ∀ position seen, scan position seen [] = [])
    (cons : ∀ position seen item items, scan position seen (item :: items) =
      found (nameFault? seen (name item)) position item ++
        scan (position + 1) (see seen (name item)) items)
    (later : List α) :
    ∀ (earlier : List α) (seen : List String), Sees seen (earlier.map name) →
      scan earlier.length seen later =
        (later.zipIdx earlier.length).flatMap fun (item, position) =>
          found (nameFault? (((earlier ++ later).take position).map name) (name item)) position
            item := by
  induction later with
  | nil =>
    intro earlier seen _
    rw [nil]
    rfl
  | cons item later ih =>
    intro earlier seen sees
    have snoc : Sees (see seen (name item)) ((earlier ++ [item]).map name) := by
      rw [List.map_append]
      exact sees.snoc (name item)
    have rest := ih (earlier ++ [item]) _ snoc
    rw [List.length_append, List.length_singleton, List.append_assoc, List.singleton_append] at rest
    rw [cons, rest, sees.nameFault?_eq, List.zipIdx_cons, List.flatMap_cons]
    simp only [List.take_left]

namespace Table

theorem fieldViolations_cons (table : String) (seen : List String) (field : Field)
    (fields : List Field) :
    fieldViolations table seen (field :: fields) =
      (nameFault? seen field.name).toList.map (.ofFieldName table field.name) ++
        fieldViolations table (see seen field.name) fields := by
  by_cases empty : field.name = ""
  · simp [fieldViolations, nameFault?, see, empty, Violation.ofFieldName]
  · by_cases known : field.name ∈ seen
    · simp [fieldViolations, nameFault?, see, empty, known, Violation.ofFieldName]
    · simp [fieldViolations, nameFault?, see, empty, known]

theorem fieldViolations_eq_fieldFaults (table : Table) :
    fieldViolations table.name [] table.fields = table.fieldFaults :=
  scan_eq_flatMap Field.name
    (fun fault _ field => fault.toList.map (Violation.ofFieldName table.name field.name))
    (fun _ seen fields => fieldViolations table.name seen fields) (fun _ _ => rfl)
    (fun _ seen field fields => fieldViolations_cons table.name seen field fields)
    table.fields [] [] Sees.nil

end Table

namespace Snapshot

theorem nameViolations_cons (position : Nat) (seen : List String) (table : Table)
    (tables : List Table) :
    nameViolations position seen (table :: tables) =
      (nameFault? seen table.name).toList.map (.ofTableName position table.name) ++
        table.fieldFaults ++ nameViolations (position + 1) (see seen table.name) tables := by
  rw [← Table.fieldViolations_eq_fieldFaults]
  by_cases empty : table.name = ""
  · simp [nameViolations, nameFault?, see, empty, Violation.ofTableName]
  · by_cases known : table.name ∈ seen
    · simp [nameViolations, nameFault?, see, empty, known, Violation.ofTableName]
    · simp [nameViolations, nameFault?, see, empty, known]

variable (snapshot : Snapshot)

theorem nameViolations_eq_nameFaults :
    nameViolations 0 [] snapshot.tables = snapshot.nameFaults :=
  scan_eq_flatMap Table.name
    (fun fault position table =>
      fault.toList.map (Violation.ofTableName position table.name) ++ table.fieldFaults)
    nameViolations (fun _ _ => rfl) nameViolations_cons snapshot.tables [] [] Sees.nil

theorem danglingKeys_eq_keyFaults : snapshot.danglingKeys = snapshot.keyFaults := by
  have each : snapshot.danglingKeys = snapshot.relations.flatMap fun relation =>
      if snapshot.Declares relation.toTable relation.toField then []
      else [.unknownForeignKeyTarget relation] := by
    rw [danglingKeys]
    induction snapshot.relations with
    | nil => rfl
    | cons relation relations ih =>
      rw [List.flatMap_cons, ← ih]
      by_cases declared : snapshot.Declares relation.toTable relation.toField
      · simp [declared, (snapshot.hasTarget_iff_declares relation).mpr declared]
      · have missing : snapshot.hasTarget relation = false := by
          rwa [← snapshot.hasTarget_iff_declares, Bool.not_eq_true] at declared
        simp [declared, missing]
  rw [each, relations, List.flatMap_assoc]
  refine List.flatMap_congr fun table _ => ?_
  refine flatMap_filterMap_eq fun field _ => ?_
  cases field.foreignKey <;> rfl

theorem violations_eq_faults : snapshot.violations = snapshot.faults := by
  rw [violations, faults, nameViolations_eq_nameFaults, danglingKeys_eq_keyFaults]

/-- Validation reports the faults of a snapshot: a single one as it is, and two or more together.
A violation is not an error by itself, so there are no lists within lists. A snapshot is accepted if
it has no faults, which means that all names are there and differ and that every foreign key leads
to a declared field. -/
theorem validate_reports_faults :
    snapshot.violations = snapshot.faults ∧
    (snapshot.validate = .ok () ↔ snapshot.faults = []) ∧
    (∀ v, snapshot.validate = .error (.violation v) ↔ snapshot.faults = [v]) ∧
    (∀ vs, snapshot.validate = .error (.violations vs) ↔
      snapshot.faults = vs ∧ 2 ≤ vs.length) ∧
    (snapshot.validate = .ok () ↔ snapshot.Valid) := by
  refine ⟨snapshot.violations_eq_faults, ?_⟩
  rw [← violations_eq_faults, ← validate_eq_ok_iff, validate]
  rcases snapshot.violations with _ | ⟨v, _ | ⟨w, vs⟩⟩
  · simp
  · simp
  · simp

/-- Empty names are no duplicates of each other, and the fields of a repeated table are looked at as
well. -/
example :
    ({ tables := [
      { name := "", fields := [{ name := "", type := .text }, { name := "", type := .text }] },
      { name := "notes", fields := [{ name := "id", type := .uuid }] },
      { name := "notes"
        fields := [
          { name := "id", type := .uuid, foreignKey := some { table := "notes", field := "key" } },
          { name := "id", type := .uuid }] }] } : Snapshot).faults =
      [.emptyTableName 0, .emptyFieldName "", .emptyFieldName "", .duplicateTable "notes",
        .duplicateField "notes" "id", .unknownForeignKeyTarget ⟨"notes", "id", "notes", "key"⟩] := by
  decide

end Snapshot

end SchemaDelta
