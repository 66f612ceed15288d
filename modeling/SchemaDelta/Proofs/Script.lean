import SchemaDelta.Proofs.Rendering
import SchemaDelta.Proofs.Script.Texts
import SchemaDelta.Proofs.Settlement

/-!
# Scripts

A script is read back as the statements it was written from, whatever the names and texts in a
schema are. All that a plan takes over into its statements as SQL is rendered by the planner: the
defaults and the predicates. If what the compiler makes of expressions is closed, so is every
statement, and then the script falls into its statements at the semicolons.
-/

namespace SchemaDelta

namespace Planner

variable {planner : Planner} {table : String} {field : Field}

/-- The SQL is that of a default or of a condition. -/
inductive Renders (planner : Planner) : String → Prop
  | default {table : String} {value : DefaultValue} {sql : String}
    (renders : planner.RendersDefault table value sql) : Renders planner sql
  | condition {table : String} {condition : Condition} {sql : String}
    (renders : planner.RendersCondition table condition sql) : Renders planner sql

/-- All SQL in a statement is that of defaults and conditions. -/
def Fills (planner : Planner) (s : Statement) : Prop := ∀ sql ∈ s.fragments, planner.Renders sql

section Fills

theorem fills_of_nil {s : Statement} (none : s.fragments = []) : planner.Fills s := by
  intro sql fragment
  rw [none] at fragment
  cases fragment

theorem renders_of_declares {column : Column} (declares : planner.Declares table field column) :
    ∀ default ∈ column.default, planner.Renders default.sql := by
  intro default some
  cases declared : field.default with
  | none =>
    rw [declares.noDefault declared] at some
    cases some
  | some value =>
    obtain ⟨sql, rendered, renders⟩ := declares.default value declared
    rw [rendered] at some
    cases some
    exact .default renders

theorem fills_createTables (tables : List Table) :
    (planner.createTables tables).All planner.Fills := by
  refine all_createTables_of (fun table _ columns made sql fragment => ?_)
    fun _ _ _ => fills_of_nil rfl
  obtain ⟨column, among, text⟩ := List.mem_filterMap.mp fragment
  obtain ⟨default, declared, rfl⟩ := Option.map_eq_some_iff.mp text
  obtain ⟨field, -, defined⟩ := exists_of_mem_mapM made among
  exact renders_of_declares (declares_of_column defined) default declared

theorem fills_addField : (planner.addField table field).All planner.Fills := by
  refine Plan.all_ofResult fun column made => Plan.all_append ?_ ?_
  · refine Plan.all_execute.mpr (List.forall_mem_singleton.mpr fun sql member => ?_)
    obtain ⟨default, declared, rfl⟩ := Option.map_eq_some_iff.mp (Option.mem_toList.mp member)
    exact renders_of_declares (declares_of_column made) default declared
  · exact all_addConstraint_of fun _ _ => fills_of_nil rfl

theorem fills_removeField : (planner.removeField table field).All planner.Fills := by
  refine Plan.all_append (all_dropConstraint_of fun _ _ => fills_of_nil rfl) ?_
  exact Plan.all_execute.mpr (List.forall_mem_singleton.mpr (fills_of_nil rfl))

theorem fills_alterConstraints (m : FieldModification) :
    (planner.alterConstraints table m).All planner.Fills := by
  refine all_alterConstraints_of ?nullable ?set ?drop ?added ?dropped
  case set =>
    intro value default made sql member
    obtain rfl := List.mem_singleton.mp member
    obtain ⟨sql, rfl, renders⟩ := renders_of_renderDefault made
    exact .default renders
  case nullable => exact fun _ => fills_of_nil rfl
  case drop => exact fills_of_nil rfl
  case added => exact fun _ => fills_of_nil rfl
  case dropped => exact fills_of_nil rfl

/-- A rebuilt column declares no default but a constant. -/
theorem fills_rebuildColumn (declaration : Table) (m : FieldModification) (type : FieldType) :
    (planner.rebuildColumn declaration m type).All planner.Fills := by
  refine Plan.all_append (Plan.all_append (fun _ member => by cases member) ?_) ?_
  · have others : ∀ s ∈ [
          Statement.copyCast declaration.name m.name (rebuildName declaration m.name)
            (planner.dialect.copyType type),
          .dropColumn declaration.name m.name,
          .renameColumn declaration.name (rebuildName declaration m.name) m.name],
        planner.Fills s := by
      simp only [List.forall_mem_cons]
      exact ⟨fills_of_nil rfl, fills_of_nil rfl, fills_of_nil rfl, List.forall_mem_nil _⟩
    refine Plan.all_execute.mpr (List.forall_mem_cons.mpr ⟨fun sql member => ?_, others⟩)
    obtain ⟨default, declared, rfl⟩ := Option.map_eq_some_iff.mp (Option.mem_toList.mp member)
    obtain ⟨field, -, rebuilt⟩ := Option.bind_eq_some_iff.mp declared
    unfold rebuiltDefault at rebuilt
    split at rebuilt
    · rename_i value constant
      cases rebuilt
      exact .default (@RendersDefault.constant planner declaration.name value)
    · cases rebuilt
  · exact Plan.all_sequence (List.forall_mem_map.mpr fun _ _ => Plan.all_warn _)

theorem fills_modifyField (declaration : Table) (m : FieldModification) :
    (planner.modifyField declaration m).All planner.Fills := by
  refine Plan.all_append ?_ (all_onChange fun _ => Plan.all_warn _)
  cases m.type with
  | none => exact fills_alterConstraints m
  | some change =>
    simp only
    split
    · refine Plan.all_append ?_ (fills_alterConstraints m)
      exact Plan.all_execute.mpr (List.forall_mem_singleton.mpr (fills_of_nil rfl))
    · exact fills_rebuildColumn declaration m change.after

theorem fills_modifyTable (m : TableModification) :
    (planner.modifyTable m).All planner.Fills := by
  unfold modifyTable
  split
  · exact Plan.all_fail _
  · refine Plan.all_append (Plan.all_append ?_ ?_) ?_
    · exact Plan.all_sequence (List.forall_mem_map.mpr fun _ _ => fills_addField)
    · exact Plan.all_sequence (List.forall_mem_map.mpr fun _ _ => fills_removeField)
    · exact Plan.all_sequence (List.forall_mem_map.mpr fun _ _ => fills_modifyField _ _)

theorem fills_policyBlock {change : AccessChange} {block : List Statement}
    (made : planner.policyBlock change = .ok block) : ∀ s ∈ block, planner.Fills s := by
  unfold policyBlock at made
  split at made
  · obtain ⟨policies, created, whole⟩ := bind_eq_ok_iff.mp made
    cases whole
    intro s member
    rcases List.mem_append.mp member with first | policy
    · rcases List.mem_cons.mp first with rfl | drop
      · exact fills_of_nil rfl
      · obtain ⟨operation, -, rfl⟩ := List.mem_map.mp drop
        exact fills_of_nil rfl
    · obtain ⟨rule, -, rendered⟩ := exists_of_mem_mapM created policy
      obtain ⟨predicate, text, whole⟩ := bind_eq_ok_iff.mp rendered
      cases whole
      intro sql fragment
      obtain rfl := List.mem_singleton.mp fragment
      exact .condition (predicate_eq_ok_iff.mp text)
  · cases made
    exact List.forall_mem_nil _

theorem fills_policies (changes : List AccessChange) :
    (planner.policies changes).All planner.Fills := by
  refine Plan.all_append (Plan.all_sequence ?_) (Plan.all_sequence ?_)
  · refine List.forall_mem_map.mpr fun change _ => Plan.all_ofResult fun block _ => ?_
    unfold notePolicies
    split
    · exact Plan.all_nothing
    · exact fun _ member => by cases member
  · refine List.forall_mem_map.mpr fun change _ => Plan.all_ofResult fun block made => ?_
    exact Plan.all_execute.mpr (fills_policyBlock made)

theorem fills_bootstrap : planner.bootstrap.All planner.Fills :=
  Plan.all_append (fills_createTables _) (fills_policies _)

theorem fills_carryOut (diff : Diff) : (planner.carryOut diff).All planner.Fills := by
  refine Plan.all_append (Plan.all_append (Plan.all_append ?_ ?_) ?_) (fills_policies _)
  · refine Plan.all_sequence (List.forall_mem_map.mpr fun table _ => ?_)
    exact Plan.all_execute.mpr (List.forall_mem_singleton.mpr (fills_of_nil rfl))
  · exact fills_createTables _
  · exact Plan.all_sequence (List.forall_mem_map.mpr fun _ _ => fills_modifyTable _)

end Fills

theorem Renders.closed {sql : String} (rendered : planner.Renders sql)
    (compiler : ∀ table e sql, planner.compiler (planner.scope table) e = .ok sql → Closed sql) :
    Closed sql := by
  rcases rendered with renders | renders
  · rcases renders with value | compiled
    · exact planner.dialect.closed_constantLiteral value
    · exact planner.dialect.closed_expressionDefault (compiler _ _ _ compiled)
  · rcases renders with allowed | compiled
    · exact planner.dialect.closed_booleanLiteral allowed
    · exact compiler _ _ _ compiled

end Planner

/-- Texts of which all but the first are put on a new line. -/
def onNewLines : List String → List String
  | [] => []
  | first :: others => first :: others.map ("\n" ++ ·)

/-- A closed text with a semicolon and a line break after it is a piece of its own, and what follows
begins with the line break. -/
theorem scriptPieces_statement {text rest first : String} {others : List String}
    (closed : Closed text) (after : scriptPieces rest = first :: others) :
    scriptPieces (text ++ ";\n" ++ rest) = text :: ("\n" ++ first) :: others := by
  have letters : (text ++ ";\n" ++ rest).toList = text.toList ++ ';' :: '\n' :: rest.toList := by
    simp
  have lineBreak : Position.outside.pieces ('\n' :: rest.toList) =
      ('\n' :: (Position.outside.pieces rest.toList).1, (Position.outside.pieces rest.toList).2) :=
    Position.pieces_cons (by decide)
  obtain ⟨head, tail⟩ := List.cons_eq_cons.mp after
  rw [scriptPieces, letters, pieces_terminated closed, lineBreak]
  simp only [String.ofList_toList, List.map_cons, List.cons.injEq, true_and]
  exact ⟨by rw [← head, String.ofList_cons]; rfl, tail⟩

/-- Statements that end with a semicolon and a line break are read back one by one. -/
theorem scriptPieces_join {texts : List String} (closed : ∀ text ∈ texts, Closed text) :
    scriptPieces (String.join (texts.map (· ++ ";\n"))) = onNewLines (texts ++ [""]) := by
  induction texts with
  | nil => rfl
  | cons text texts ih =>
    obtain ⟨head, tail⟩ := List.forall_mem_cons.mp closed
    rw [List.map_cons, String.join_cons]
    cases texts with
    | nil => exact scriptPieces_statement head (ih tail)
    | cons second others => exact scriptPieces_statement head (ih tail)

theorem Migration.scriptPieces_sql {migration : Migration}
    (closed : ∀ s ∈ migration.statements, Closed s.render) :
    scriptPieces migration.sql =
      onNewLines (migration.statements.map Statement.render ++ [""]) := by
  have texts : migration.sql =
      String.join ((migration.statements.map Statement.render).map (· ++ ";\n")) := by
    rw [Migration.sql, List.map_map]
    rfl
  rw [texts, scriptPieces_join (List.forall_mem_map.mpr closed)]

/-- Under bindings of closed SQL all statements are closed, of any snapshots and for any dialect.
The script then falls into its statements, each of which ends with a line break. -/
theorem script_falls_into_statements {config : Config} {dialect : Dialect} {migration : Migration}
    (bound : ∀ binding ∈ config.bindings, Closed binding.2)
    (made : (∃ snapshot, ({ config } : Synthesizer).bootstrap snapshot dialect = .ok migration) ∨
      ∃ before after, ({ config } : Synthesizer).migrate before after dialect = .ok migration) :
    (∀ s ∈ migration.statements, Closed s.render) ∧
      scriptPieces migration.sql =
        onNewLines (migration.statements.map Statement.render ++ [""]) := by
  have closed : ∀ s ∈ migration.statements, Closed s.render := by
    rcases made with ⟨snapshot, made⟩ | ⟨before, after, made⟩
    · obtain ⟨-, rfl⟩ := Plan.toMigration_eq_ok_iff.mp made
      intro s member
      refine Statement.closed_render fun sql fragment => ?_
      have rendered := Planner.fills_bootstrap s member sql fragment
      exact rendered.closed fun table e sql compiled => closed_compileSql bound compiled
    · obtain ⟨-, rfl⟩ := Plan.toMigration_eq_ok_iff.mp made
      intro s member
      refine Statement.closed_render fun sql fragment => ?_
      have rendered := Planner.fills_carryOut _ s member sql fragment
      exact rendered.closed fun table e sql compiled => closed_compileSql bound compiled
  exact ⟨closed, migration.scriptPieces_sql closed⟩

/-- A table whose names and default try to end the statement that they stand in. -/
def hostileTables : Snapshot where
  tables := [
    { name := "a\"; DROP TABLE b; --"
      fields := [
        { name := "it's", type := .other "text; --" },
        { name := "\"\n;", type := .text, default := some (.constant (.text "'; --\n")) }]
      access := { read := .expr (.compare .eq (.field "it's") (.var "auth.uid")) } }]

/-- None of the names and texts of a hostile table gets out of its quotes. -/
theorem script_falls_into_statements_hostile :
    ∃ migration, ({} : Synthesizer).bootstrap hostileTables .postgres = .ok migration ∧
      migration.statements.length = 10 ∧
      scriptPieces migration.sql =
        onNewLines (migration.statements.map Statement.render ++ [""]) := by
  have bound : ∀ binding ∈ ({} : Config).bindings, Closed binding.2 := by decide
  have made : ({} : Synthesizer).bootstrap hostileTables .postgres = .ok _ := rfl
  refine ⟨_, made, rfl, ?_⟩
  exact (script_falls_into_statements bound (.inl ⟨hostileTables, made⟩)).2

end SchemaDelta
