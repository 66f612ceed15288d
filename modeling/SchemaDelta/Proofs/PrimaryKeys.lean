import SchemaDelta.Proofs.Convergence
import SchemaDelta.Proofs.Rendering
import SchemaDelta.Proofs.Rows.Planner
import SchemaDelta.Proofs.Schedule.Occasion

/-!
# Primary keys of existing tables

The key flag of a column that stays is never changed, and there is a warning if its field changes
it; a rebuilt column loses the key, with a warning as well. A new field of an existing table is
another matter: its column is added with all that the field declares, the key among it, and there is
no warning about it, nor about the column of a field that is removed.
-/

namespace SchemaDelta

/-- The field of this name is declared a primary key. -/
def Snapshot.IsKey (snapshot : Snapshot) (table name : String) : Prop :=
  ∃ field, snapshot.field? table name = some field ∧ field.primaryKey = true

instance (snapshot : Snapshot) (table name : String) : Decidable (snapshot.IsKey table name) :=
  decidable_of_iff ((snapshot.field? table name).any Field.primaryKey = true)
    (Option.any_eq_true ..)

/-- The statement adds a primary key to an existing table. -/
def Statement.AddsKey (table name : String) : Statement → Prop
  | addColumn table' column => table' = table ∧ column.name = name ∧ column.key = .primaryKey
  | _ => False

/-- The warning is about a primary key: its flag changes, or it is lost with a rebuilt column. -/
def Warning.ConcernsKey (table name : String) : Warning → Prop
  | primaryKeyChange table' name' _ => table' = table ∧ name' = name
  | rebuildDropped table' name' constraint =>
    table' = table ∧ name' = name ∧ constraint = .primaryKey
  | _ => False

theorem Field.keyClause_eq_primaryKey_iff {field : Field} :
    field.keyClause = .primaryKey ↔ field.primaryKey = true := by
  unfold keyClause
  cases field.primaryKey <;> cases field.nullable <;> simp

namespace Planner

variable {planner : Planner} {table name : String}

section Parts

variable {owner : String} {field : Field}

/-- Adding a field adds a key exactly if the field is one. -/
theorem addsKey_addField :
    (planner.addField owner field).All fun s => s.AddsKey table name →
      owner = table ∧ field.name = name ∧ field.primaryKey = true := by
  refine Plan.all_ofResult fun column made => ?_
  have declares := declares_of_column made
  refine Plan.all_append ?_ (all_addConstraint_of fun key _ adds => adds.elim)
  refine Plan.all_execute.mpr (List.forall_mem_singleton.mpr ?_)
  rintro ⟨on, named, keyed⟩
  refine ⟨on, declares.name.symm.trans named, ?_⟩
  rw [← Field.keyClause_eq_primaryKey_iff, ← declares.key, keyed]

theorem not_addsKey_removeField :
    (planner.removeField owner field).All (¬ ·.AddsKey table name) := by
  refine Plan.all_append (all_dropConstraint_of fun key _ adds => adds) ?_
  exact Plan.all_execute.mpr (List.forall_mem_singleton.mpr fun adds => adds)

/-- Changing a field adds no key. What is added under a temporary name is no key. -/
theorem not_addsKey_modifyField (declaration : Table) (m : FieldModification) :
    (planner.modifyField declaration m).All (¬ ·.AddsKey table name) := by
  have constraints : (planner.alterConstraints declaration.name m).All (¬ ·.AddsKey table name) :=
    all_alterConstraints_of (fun _ adds => adds) (fun _ _ _ adds => adds) (fun adds => adds)
      (fun _ adds => adds) fun adds => adds
  refine Plan.all_append ?_ (all_onChange fun change => Plan.all_warn _)
  cases m.type with
  | none => exact constraints
  | some change =>
    simp only
    split
    · refine Plan.all_append ?_ constraints
      exact Plan.all_execute.mpr (List.forall_mem_singleton.mpr fun adds => adds)
    · intro s member
      rw [statements_rebuildColumn] at member
      simp only [List.mem_cons, List.not_mem_nil, or_false] at member
      rcases member with rfl | rfl | rfl | rfl
      · rintro ⟨-, -, keyed⟩
        cases keyed
      · exact fun adds => adds
      · exact fun adds => adds
      · exact fun adds => adds

end Parts

variable {before after : Snapshot} {s : Statement}

/-- A migration adds keys of new fields only. -/
theorem isKey_of_addsKey (validBefore : before.Valid) (validAfter : after.Valid)
    (target : planner.target = after)
    (complete : (planner.carryOut (.between before after)).Complete)
    (member : s ∈ (planner.carryOut (.between before after)).statements)
    (adds : s.AddsKey table name) :
    before.field? table name = none ∧ after.IsKey table name := by
  simp only [statements_carryOut complete, List.mem_append, List.mem_flatMap,
    or_assoc] at member
  rcases member with ⟨other, -, member⟩ | member | ⟨m, modified, member⟩ | member
  · rw [dropTable, Plan.statements_execute, List.mem_singleton] at member
    subst member
    exact adds.elim
  · have creates : (planner.createTables (Diff.between before after).added).All
        (¬ ·.AddsKey table name) :=
      all_createTables_of (fun _ _ _ _ adds => adds) fun _ _ _ adds => adds
    exact absurd adds (creates s member)
  · obtain ⟨declaration, declared, old, foundOld, -, rfl⟩ :=
      (Diff.mem_modified validBefore.tablesDistinct).mp modified
    have found : planner.target.table? declaration.name = some declaration :=
      target ▸ validAfter.table?_eq_some_iff.mpr ⟨declared, rfl⟩
    have modifies := (complete_carryOut_iff.mp complete).2.1 _ modified
    simp only [statements_modifyTable found modifies, List.mem_append, List.mem_flatMap,
      or_assoc] at member
    rcases member with ⟨field, added, member⟩ | ⟨field, -, member⟩ | ⟨m, -, member⟩
    · obtain ⟨rfl, rfl, keyed⟩ := addsKey_addField s member adds
      obtain ⟨fieldMember, new⟩ := TableModification.mem_fieldsAdded.mp added
      refine ⟨?_, field, validAfter.field?_of_mem declared fieldMember, keyed⟩
      rw [TableModification.between_table, Snapshot.field?_of_table? foundOld, new]
    · exact absurd adds (not_addsKey_removeField s member)
    · exact absurd adds (not_addsKey_modifyField declaration m s member)
  · obtain ⟨change, -, keeps⟩ := all_policies _ s member
    cases s with
    | addColumn owner column => exact absurd rfl (not_touches_of_keepsColumns keeps)
    | _ => exact adds.elim

/-- Exactly the new fields that are keys are added as keys to an existing table. -/
theorem addsKey_iff (validBefore : before.Valid) (validAfter : after.Valid)
    (target : planner.target = after)
    (complete : (planner.carryOut (.between before after)).Complete)
    (common : (before.table? table).isSome) :
    (∃ s ∈ (planner.carryOut (.between before after)).statements, s.AddsKey table name) ↔
      before.field? table name = none ∧ after.IsKey table name := by
  constructor
  · rintro ⟨s, member, adds⟩
    exact isKey_of_addsKey validBefore validAfter target complete member adds
  · rintro ⟨new, field, found, keyed⟩
    obtain ⟨column, made, member⟩ :=
      addColumn_mem_of_field? complete validBefore validAfter target common new found
    have declares := declares_of_column made
    refine ⟨_, member, rfl, declares.name.trans (Snapshot.name_of_field? found), ?_⟩
    rw [declares.key, Field.keyClause_eq_primaryKey_iff, keyed]

end Planner

namespace Dialect

variable {dialect : Dialect} {table name : String}

theorem primaryKey_mem_rebuildLosses_iff {old field : Field} :
    .primaryKey ∈ Planner.rebuildLosses (.between old field) field ↔
      field.primaryKey = true ∧ old.primaryKey = field.primaryKey := by
  have flag : (FieldModification.between old field).primaryKey.isNone = true ↔
      old.primaryKey = field.primaryKey := by
    rw [Option.isNone_iff_eq_none]
    exact Change.between_eq_none_iff.trans beq_iff_eq
  simp only [Planner.rebuildLosses, List.mem_append, flag]
  constructor
  · rintro ((default | key) | foreignKey)
    · split at default
      · simp at default
      · cases default
    · split at key
      · next keyed =>
        split at key
        · next same => exact ⟨keyed, same⟩
        · cases key
      · split at key
        · cases key
        · simp at key
    · split at foreignKey
      · simp at foreignKey
      · cases foreignKey
  · rintro ⟨keyed, same⟩
    refine .inl (.inr ?_)
    rw [if_pos keyed, if_pos same]
    exact List.mem_singleton_self _

theorem not_concernsKey_skippedWarnings {old field : Field} {owner : String} :
    ∀ w ∈ skippedWarnings owner old field, ¬ w.ConcernsKey table name := by
  intro w member
  simp only [skippedWarnings, List.mem_append] at member
  rcases member with (nullable | default) | foreignKey
  · split at nullable
    · cases nullable
    · rw [List.mem_singleton.mp nullable]
      exact fun concerns => concerns
  · split at default
    · cases default
    · rw [List.mem_singleton.mp default]
      exact fun concerns => concerns
  · split at foreignKey
    · cases foreignKey
    · rw [List.mem_singleton.mp foreignKey]
      exact fun concerns => concerns

/-- What is said of a field is about its key if the flag changes, or if the column of a key is
rebuilt. -/
theorem concernsKey_fieldWarnings_iff {old field : Field} {owner : String} :
    (∃ w ∈ dialect.fieldWarnings owner old field, w.ConcernsKey table name) ↔
      owner = table ∧ field.name = name ∧ (old.primaryKey ≠ field.primaryKey ∨
        dialect.isEmbedded = true ∧ old.type ≠ field.type ∧ field.primaryKey = true) := by
  constructor
  · rintro ⟨w, member, concerns⟩
    rcases List.mem_append.mp member with main | flag
    · split at main
      · next embedded =>
        split at main
        · exact absurd concerns (not_concernsKey_skippedWarnings w main)
        · next retyped =>
          obtain ⟨constraint, lost, rfl⟩ := List.mem_map.mp main
          obtain ⟨rfl, rfl, rfl⟩ := concerns
          obtain ⟨keyed, -⟩ := primaryKey_mem_rebuildLosses_iff.mp lost
          exact ⟨rfl, rfl, .inr ⟨embedded, retyped, keyed⟩⟩
      · cases main
    · split at flag
      · cases flag
      · next changed =>
        obtain rfl := List.mem_singleton.mp flag
        obtain ⟨rfl, rfl⟩ := concerns
        exact ⟨rfl, rfl, .inl changed⟩
  · rintro ⟨rfl, rfl, reason⟩
    by_cases changed : old.primaryKey = field.primaryKey
    · obtain ⟨embedded, retyped, keyed⟩ := reason.resolve_left (not_not_intro changed)
      refine ⟨.rebuildDropped owner field.name .primaryKey, List.mem_append_left _ ?_, rfl, rfl, rfl⟩
      rw [if_pos embedded, if_neg retyped]
      exact List.mem_map_of_mem (primaryKey_mem_rebuildLosses_iff.mpr ⟨keyed, changed⟩)
    · refine ⟨.primaryKeyChange owner field.name field.primaryKey, List.mem_append_right _ ?_,
        rfl, rfl⟩
      rw [if_neg changed]
      exact List.mem_singleton_self _

/-- The warnings of a migration about the key of a column. -/
theorem concernsKey_settledWarnings_iff {before after : Snapshot} (valid : after.Valid) :
    (∃ w ∈ dialect.settledWarnings before after, w.ConcernsKey table name) ↔ ∃ old field,
      before.field? table name = some old ∧ after.field? table name = some field ∧
        (old.primaryKey ≠ field.primaryKey ∨
          dialect.isEmbedded = true ∧ old.type ≠ field.type ∧ field.primaryKey = true) := by
  constructor
  · rintro ⟨w, member, concerns⟩
    obtain ⟨owner, name', old, field, foundOld, found, member⟩ :=
      (mem_settledWarnings_iff valid).mp member
    obtain ⟨rfl, named, reason⟩ := concernsKey_fieldWarnings_iff.mp ⟨w, member, concerns⟩
    obtain rfl : name' = name := (Snapshot.name_of_field? found).symm.trans named
    exact ⟨old, field, foundOld, found, reason⟩
  · rintro ⟨old, field, foundOld, found, reason⟩
    obtain ⟨w, member, concerns⟩ := concernsKey_fieldWarnings_iff.mpr
      ⟨rfl, Snapshot.name_of_field? found, reason⟩
    exact ⟨w, (mem_settledWarnings_iff valid).mpr ⟨_, _, old, field, foundOld, found, member⟩,
      concerns⟩

end Dialect

/-- A migration adds a primary key to an existing table exactly for a new field that is one. Of the
columns that are a key in one snapshot only, those that both snapshots have are reported, and those
of new and of removed fields are not. -/
theorem migrate_adds_keys_of_new_fields {synthesizer : Synthesizer} {before after : Snapshot}
    {dialect : Dialect} {migration : Migration} {table name : String}
    (acceptedBefore : before.validate = .ok ()) (acceptedAfter : after.validate = .ok ())
    (made : synthesizer.migrate before after dialect = .ok migration)
    (common : (before.table? table).isSome) :
    ((∃ s ∈ migration.statements, s.AddsKey table name) ↔
        before.field? table name = none ∧ after.IsKey table name) ∧
      (¬ (before.IsKey table name ↔ after.IsKey table name) →
        ((∃ w ∈ migration.warnings, w.ConcernsKey table name) ↔
          (before.field? table name).isSome ∧ (after.field? table name).isSome)) := by
  have validBefore := Snapshot.Valid.ofValidate acceptedBefore
  have validAfter := Snapshot.Valid.ofValidate acceptedAfter
  obtain ⟨-, warned⟩ := Synthesizer.migrate_settles validBefore validAfter made
  constructor
  · obtain ⟨complete, rfl⟩ := Plan.toMigration_eq_ok_iff.mp made
    exact Planner.addsKey_iff validBefore validAfter rfl complete common
  · intro differs
    rw [warned, Dialect.concernsKey_settledWarnings_iff validAfter]
    constructor
    · rintro ⟨old, field, foundOld, found, -⟩
      simp [foundOld, found]
    · rintro ⟨kept, stays⟩
      obtain ⟨old, foundOld⟩ := Option.isSome_iff_exists.mp kept
      obtain ⟨field, found⟩ := Option.isSome_iff_exists.mp stays
      refine ⟨old, field, foundOld, found, .inl fun same => differs ?_⟩
      simp [Snapshot.IsKey, foundOld, found, same]

/-- A key that is a key no more is reported where the field is kept, and no key is added. -/
theorem migrate_adds_keys_of_new_fields_notes :
    ∃ migration : Migration,
      ({} : Synthesizer).migrate ownedNotes looseNotes .libsql = .ok migration ∧
      (¬ ∃ s ∈ migration.statements, s.AddsKey "notes" "id") ∧
      ∃ w ∈ migration.warnings, w.ConcernsKey "notes" "id" := by
  obtain ⟨adds, reported⟩ : (_ ↔ ownedNotes.field? "notes" "id" = none ∧ _) ∧ _ :=
    migrate_adds_keys_of_new_fields ownedNotes_regular.accepted looseNotes_regular.accepted
      (rfl : ({} : Synthesizer).migrate _ _ .libsql = .ok _) (by decide)
  refine ⟨_, rfl, ?_, (reported (by decide)).mpr (by decide)⟩
  rw [adds]
  decide

/-- Notes without a key. -/
def bareNotes : Snapshot where
  tables := [{ name := "notes", fields := [{ name := "body", type := .text }] }]

/-- Notes with a key beside their text. -/
def identifiedNotes : Snapshot where
  tables := [
    { name := "notes"
      fields := [
        { name := "body", type := .text },
        { name := "id", type := .uuid, nullable := false, primaryKey := true }] }]

/-- The notes get a primary key in their place, and nothing is said about it. -/
theorem migrate_adds_key_without_warning :
    bareNotes.validate = .ok () ∧ identifiedNotes.validate = .ok () ∧
    ∃ migration : Migration,
      ({} : Synthesizer).migrate bareNotes identifiedNotes .sqlite = .ok migration ∧
      migration.statements =
        [.addColumn "notes" { name := "id", type := .text, key := .primaryKey }] ∧
      migration.warnings = [] :=
  ⟨by decide, by decide, _, rfl, rfl, rfl⟩

end SchemaDelta
