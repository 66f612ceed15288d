import SchemaDelta.Proofs.Paths

/-!
# What an expression reads

The SQL of an expression reads the columns and tables of its paths, and what the SQL of its
variables mentions. The same path is compiled to the same query under two snapshots if every foreign
key that it follows leads to the same field in both.
-/

namespace SchemaDelta

/-- What SQL can read: a table, or a column of one. -/
inductive Source where
  | table (name : String)
  | column (name : ColumnName)
deriving DecidableEq

/-- The table that is read. -/
def Source.owner : Source → String
  | table name => name
  | column name => name.table

/-- What a query reads: its columns, and the tables that it selects from. -/
def Query.sources : Query → List Source
  | column name => [.column name]
  | select value source left right =>
    value.sources ++ [.table source, .column left, .column right]

/-- What the SQL of a variable mentions, in an expression on a table. -/
abbrev Mentions := String → String → List Source

namespace Scope

variable (scope : Scope) (mentions : Mentions)

/-- What the SQL of a path reads. -/
def pathSources (path : String) : List Source :=
  match scope.schema.pathQuery scope.table (segments path).1 (segments path).2 with
  | some query => query.sources
  | none => []

mutual

/-- What the SQL of an expression reads. -/
def sources : Expr → List Source
  | .literal _ => []
  | .field path => scope.pathSources path
  | .var name =>
    match KeyedList.get? scope.bindings name with
    | some sql => mentions scope.table sql
    | none => []
  | .compare _ left right => sources left ++ sources right
  | .and args => sourcesOfArgs args
  | .or args => sourcesOfArgs args
  | .not arg => sources arg
  | .isNull arg => sources arg
  | .call _ args => sourcesOfArgs args

/-- What the SQL of the arguments reads. -/
def sourcesOfArgs : List Expr → List Source
  | [] => []
  | arg :: args => sources arg ++ sourcesOfArgs args

end

/-- What the predicate for a condition reads. -/
def conditionSources : Condition → List Source
  | .always _ => []
  | .expr e => scope.sources mentions e

/-- The SQL of a path is a query, and what the path reads is what the query reads. -/
theorem query_of_compileSql_field {scope : Scope} (valid : scope.schema.Valid) {path sql : String}
    (compiled : compileSql scope (.field path) = .ok sql) :
    ∃ query, scope.schema.pathQuery scope.table (segments path).1 (segments path).2 = some query ∧
      query.render = sql ∧ scope.pathSources path = query.sources := by
  rw [compileSql_field] at compiled
  obtain ⟨query, queried, rendered⟩ := path_eq_render valid compiled
  refine ⟨query, queried, rendered, ?_⟩
  rw [pathSources, queried]

end Scope

namespace Expr

mutual

/-- The paths in an expression. -/
def paths : Expr → List String
  | literal _ => []
  | field path => [path]
  | var _ => []
  | compare _ left right => left.paths ++ right.paths
  | and args => pathsOfArgs args
  | or args => pathsOfArgs args
  | not arg => arg.paths
  | isNull arg => arg.paths
  | call _ args => pathsOfArgs args

/-- The paths in all arguments. -/
def pathsOfArgs : List Expr → List String
  | [] => []
  | arg :: args => arg.paths ++ pathsOfArgs args

end

end Expr

/-- The paths in a condition. -/
def Condition.paths : Condition → List String
  | always _ => []
  | expr e => e.paths

namespace Snapshot

variable (before after : Snapshot)

/-- Every foreign key on the way leads to the same field in both snapshots. -/
def SameWay (table field : String) : List String → Prop
  | [] => True
  | next :: others =>
    ∃ key ∈ before.foreignKey? table field, ∃ key' ∈ after.foreignKey? table field,
      key.table = key'.table ∧ key.field = key'.field ∧ SameWay key.table next others

instance SameWay.decidable (table field : String) :
    (others : List String) → Decidable (SameWay before after table field others)
  | [] => inferInstanceAs (Decidable True)
  | next :: others =>
    have : ∀ key : ForeignKey, Decidable (SameWay before after key.table next others) :=
      fun key => decidable key.table next others
    inferInstanceAs (Decidable (∃ key ∈ before.foreignKey? table field,
      ∃ key' ∈ after.foreignKey? table field,
        key.table = key'.table ∧ key.field = key'.field ∧
          SameWay before after key.table next others))

/-- All paths from a table have the same way in both snapshots. -/
def SameWays (table : String) (paths : List String) : Prop :=
  ∀ path ∈ paths, before.SameWay after table (segments path).1 (segments path).2

instance (table : String) (paths : List String) : Decidable (before.SameWays after table paths) :=
  List.decidableBAll _ paths

variable {before after}

theorem sameWay_cons_iff {table field next : String} {others : List String} {key key' : ForeignKey}
    (first : before.foreignKey? table field = some key)
    (second : after.foreignKey? table field = some key') :
    before.SameWay after table field (next :: others) ↔
      key.table = key'.table ∧ key.field = key'.field ∧
        before.SameWay after key.table next others := by
  simp [SameWay, first, second]

/-- A path has one query under both snapshots exactly if it has the same way. -/
theorem pathQuery_eq_iff {table field : String} {others : List String} {p q : Query}
    (first : before.pathQuery table field others = some p)
    (second : after.pathQuery table field others = some q) :
    p = q ↔ before.SameWay after table field others := by
  induction others generalizing table field p q with
  | nil =>
    cases first
    cases second
    exact iff_of_true rfl trivial
  | cons next others ih =>
    obtain ⟨key, value, declared, inner, rfl⟩ := pathQuery_cons_eq_some_iff.mp first
    obtain ⟨key', value', declared', inner', rfl⟩ := pathQuery_cons_eq_some_iff.mp second
    rw [sameWay_cons_iff declared declared']
    simp only [Query.select.injEq, ColumnName.mk.injEq, and_true]
    constructor
    · rintro ⟨rfl, tables, -, fields⟩
      rw [← tables] at inner'
      exact ⟨tables, fields, (ih inner inner').mp rfl⟩
    · rintro ⟨tables, fields, way⟩
      rw [← tables] at inner'
      exact ⟨(ih inner inner').mpr way, tables, tables, fields⟩

theorem sameWays_append {table : String} {first second : List String} :
    before.SameWays after table (first ++ second) ↔
      before.SameWays after table first ∧ before.SameWays after table second :=
  List.forall_mem_append

end Snapshot

end SchemaDelta
