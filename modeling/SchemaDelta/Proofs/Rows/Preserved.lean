import SchemaDelta.Proofs.Convergence
import SchemaDelta.Proofs.Rows.Planner
import SchemaDelta.Proofs.Rows.Rebuilds

/-!
# Rows are kept

A migration keeps the rows of the tables that both snapshots have. In the columns that both have, a
row has its values from before, cast where the type is a new one. The names of fields do not matter:
in the end there are columns for the fields of the new snapshot and for nothing else.
-/

namespace SchemaDelta

variable {V : Type} {engine : Engine V}

/-- The row of an old table is still there in the new one, with its values carried over. -/
structure StoredRow.Kept (dialect : Dialect) (engine : Engine V) (before after : Table)
    (row result : StoredRow V) : Prop where
  id : result.id = row.id
  columns : ∀ name, (result.values name).isSome ↔ name ∈ after.fields.map Field.name
  values : ∀ field ∈ after.fields, ∀ old, before.field? field.name = some old → ∃ value,
    row.values field.name = some value ∧
      result.values field.name = some (dialect.carry engine old field value)

/-- The rows of the tables that both snapshots have are kept, in their order. -/
def Contents.Kept (dialect : Dialect) (engine : Engine V) (before after : Snapshot)
    (contents final : Contents V) : Prop :=
  ∀ table ∈ after.tables, ∀ old, before.table? table.name = some old → ∃ rows results,
    contents table.name = some rows ∧ final table.name = some results ∧
      List.Forall₂ (StoredRow.Kept dialect engine old table) rows results

namespace Planner

variable {planner : Planner} {before after : Snapshot} (validBefore : before.Valid)
  (validAfter : after.Valid) (target : planner.target = after)
  (complete : (planner.carryOut (.between before after)).Complete)

include validBefore validAfter target complete

/-- What a migration makes of a row of a table that both snapshots have. -/
theorem keeps_row {old table : Table} {row result : StoredRow V} (member : table ∈ after.tables)
    (found : before.table? table.name = some old)
    (fits : row.Fits (.ofTable planner.dialect old))
    (ran : row.run engine (Statement.about table.name
      (planner.carryOut (.between before after)).statements) = some result)
    (settled : result.Fits (planner.dialect.settledColumns (some old) table)) :
    StoredRow.Kept planner.dialect engine old table row result where
  id := StoredRow.id_of_run ran
  columns name := by
    rw [settled, Dialect.settledColumns, Option.isSome_map, Table.field?_isSome_iff]
  values field fieldMember oldField foundOld := by
    have present : (row.values field.name).isSome := by
      simp [fits field.name, Columns.ofTable, foundOld]
    obtain ⟨value, held⟩ := Option.isSome_iff_exists.mp present
    have foundField := (validAfter.field?_eq_some_iff member).mpr ⟨fieldMember, rfl⟩
    exact ⟨value, held, carries_carryOut validBefore validAfter target complete member found
      foundOld foundField row result ran value held⟩

/-- A migration keeps the rows of the tables that both snapshots have. -/
theorem keeps_rows {contents final : Contents V}
    (fits : contents.Fits (.ofSnapshot planner.dialect before))
    (ran : contents.run engine (planner.carryOut (.between before after)).statements = some final)
    (settled : final.Fits (planner.dialect.settled before after)) :
    contents.Kept planner.dialect engine before after final := by
  intro table member old found
  have declared := validAfter.table?_eq_some_iff.mpr ⟨member, rfl⟩
  have columns : Database.ofSnapshot planner.dialect before table.name =
      some (.ofTable planner.dialect old) := by
    rw [Database.ofSnapshot, found, Option.map_some]
  have settledColumns : planner.dialect.settled before after table.name =
      some (planner.dialect.settledColumns (some old) table) := by
    rw [Dialect.settled, declared, Option.map_some, found]
  obtain ⟨rows, held, eachFits⟩ := fits.exists_rows columns
  obtain ⟨results, heldAfter, eachSettled⟩ := settled.exists_rows settledColumns
  have spared : (planner.carryOut (.between before after)).All (Statement.Spares table.name) :=
    spares_carryOut complete (by simp [found]) (by simp [declared])
  obtain ⟨results', heldAfter', each⟩ := Contents.run_about spared ran held
  obtain rfl : results' = results := Option.some.inj (heldAfter'.symm.trans heldAfter)
  refine ⟨rows, results', held, heldAfter, List.forall₂_iff_get.mpr ⟨each.length_eq, ?_⟩⟩
  intro i inRows inResults
  exact keeps_row validBefore validAfter target complete member found
    (eachFits _ (List.get_mem _ _)) (each.get inRows inResults) (eachSettled _ (List.get_mem _ _))

end Planner

/-- Executing a migration keeps rows and values. Where columns are rebuilt, every change of a type
is one block of four statements, and nothing else moves values. -/
theorem migrate_keeps_rows {synthesizer : Synthesizer} {before after : Snapshot}
    {dialect : Dialect} {migration : Migration} {contents : Contents V}
    (acceptedBefore : before.validate = .ok ()) (acceptedAfter : after.validate = .ok ())
    (made : synthesizer.migrate before after dialect = .ok migration) (engine : Engine V)
    (fits : contents.Fits (.ofSnapshot dialect before)) :
    (∃ final, contents.run engine migration.statements = some final ∧
      contents.Kept dialect engine before after final) ∧
    (dialect.isEmbedded = true →
      dialect.Rebuilds (before.typeChanges after) migration.statements) := by
  have validBefore := Snapshot.Valid.ofValidate acceptedBefore
  have validAfter := Snapshot.Valid.ofValidate acceptedAfter
  obtain ⟨settles, -⟩ := Synthesizer.migrate_settles validBefore validAfter made
  obtain ⟨complete, rfl⟩ := Plan.toMigration_eq_ok_iff.mp made
  obtain ⟨final, ran, settled⟩ := Contents.run_fits engine fits settles
  refine ⟨⟨final, ran, ?_⟩, fun embedded => ?_⟩
  · exact Planner.keeps_rows validBefore validAfter rfl complete fits ran settled
  · exact Planner.rebuilds_carryOut embedded validBefore validAfter rfl complete

/-- Items with two numbers, of which one is named as the other would be while it is rebuilt. -/
def countedItems : Snapshot where
  tables := [
    { name := "items"
      fields := [
        { name := "count", type := .number },
        { name := "count__rebuild", type := .number }] }]

/-- Items with texts in place of the numbers, and with one more of these names. -/
def writtenItems : Snapshot where
  tables := [
    { name := "items"
      fields := [
        { name := "count", type := .text },
        { name := "count__rebuild", type := .text },
        { name := "count__rebuild_1", type := .text }] }]

/-- Numbers and texts. A number that is cast to a text is written down, and new columns are null. -/
def writing : Engine (Option (Nat ⊕ String)) where
  cast
    | .text, some (.inl number) => some (.inr number.repr)
    | _, value => value
  initial _ _ := none

/-- One item, with numbers in both columns. -/
def threeOfFour : Contents (Option (Nat ⊕ String)) := fun table =>
  if table = "items" then
    some [{
      id := 0
      values := fun name =>
        if name = "count" then some (some (.inl 3))
        else if name = "count__rebuild" then some (some (.inl 4))
        else none }]
  else none

theorem threeOfFour_fits : threeOfFour.Fits (.ofSnapshot .sqlite countedItems) := by
  intro table
  by_cases here : table = "items"
  · subst here
    refine .some ?_
    simp only [List.forall_mem_singleton]
    intro name
    by_cases count : name = "count"
    · subst count; decide
    by_cases rebuild : name = "count__rebuild"
    · subst rebuild; decide
    simp [count, rebuild, Columns.ofTable, Table.field?, Ne.symm count, Ne.symm rebuild]
  · simp [threeOfFour, here, Database.ofSnapshot, Snapshot.table?, countedItems, Ne.symm here]

/-- Both numbers are written down in the columns that they were in. -/
theorem migrate_keeps_rows_items :
    ∃ migration : Migration,
      ({} : Synthesizer).migrate countedItems writtenItems .sqlite = .ok migration ∧
      (∃ final, threeOfFour.run writing migration.statements = some final ∧
        threeOfFour.Kept .sqlite writing countedItems writtenItems final ∧
        (final "items").map (·.map fun row => (row.values "count", row.values "count__rebuild")) =
          some [(some (some (.inr "3")), some (some (.inr "4")))]) ∧
      Dialect.Rebuilds .sqlite
        [⟨"items", "count", .text⟩, ⟨"items", "count__rebuild", .text⟩] migration.statements := by
  refine ⟨_, rfl, ?_⟩
  obtain ⟨kept, rebuilds⟩ := migrate_keeps_rows (by decide) (by decide)
    (rfl : ({} : Synthesizer).migrate countedItems writtenItems .sqlite = .ok _) writing
    threeOfFour_fits
  obtain ⟨final, ran, kept⟩ := kept
  refine ⟨⟨final, ran, kept, ?_⟩, rebuilds rfl⟩
  have counts := congrArg (Option.map fun final : Contents _ => (final "items").map
    (·.map fun row => (row.values "count", row.values "count__rebuild"))) ran
  exact Option.some.inj (counts.symm.trans rfl)

end SchemaDelta
