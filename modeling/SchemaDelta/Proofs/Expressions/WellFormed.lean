import SchemaDelta.Proofs.Expressions.Nodes

/-!
# Well-formed expressions

A node of an expression is well formed if its literal is a scalar, its path can be followed in the
schema, its variable is bound, or its function is called with as many arguments as it takes. Under a
snapshot without violations exactly the expressions with well-formed nodes compile, and any other
fails by its first node that is not.
-/

namespace SchemaDelta

namespace Snapshot

variable {schema : Snapshot}

/-- A path can be followed from a table: every segment is a field of the table that is reached, and
all but the last are foreign keys, each of which leads to the next table. -/
inductive Leads (schema : Snapshot) : Table → String → List String → Prop
  | here {table : Table} {field : Field} (declared : field ∈ table.fields) :
    Leads schema table field.name []
  | hop {table target : Table} {field : Field} {key : ForeignKey} {next : String}
    {others : List String} (declared : field ∈ table.fields) (refers : field.foreignKey = some key)
    (reached : target ∈ schema.tables) (named : target.name = key.table)
    (onwards : Leads schema target next others) : Leads schema table field.name (next :: others)

/-- A path cannot be followed from a table, and what is wrong with its first bad hop. -/
inductive Strays (schema : Snapshot) : Table → String → List String → CompileError → Prop
  | unknownField {table : Table} {segment : String} {others : List String}
    (absent : segment ∉ table.fields.map Field.name) :
    Strays schema table segment others (.unknownField table.name segment)
  | unknownRelation {table : Table} {field : Field} {next : String} {others : List String}
    (declared : field ∈ table.fields) (refersNowhere : field.foreignKey = none) :
    Strays schema table field.name (next :: others) (.unknownRelation table.name field.name)
  | hop {table target : Table} {field : Field} {key : ForeignKey} {next : String}
    {others : List String} {e : CompileError} (declared : field ∈ table.fields)
    (refers : field.foreignKey = some key) (reached : target ∈ schema.tables)
    (named : target.name = key.table) (onwards : Strays schema target next others e) :
    Strays schema table field.name (next :: others) e

/-- A path that cannot be followed ends at a table of the schema. -/
theorem Strays.exists_table {table : Table} {segment : String} {others : List String}
    {e : CompileError} (strays : schema.Strays table segment others e)
    (member : table ∈ schema.tables) :
    ∃ last ∈ schema.tableNames, ∃ field,
      e = .unknownField last field ∨ e = .unknownRelation last field := by
  induction strays with
  | unknownField _ => exact ⟨_, List.mem_map_of_mem member, _, .inl rfl⟩
  | unknownRelation _ _ => exact ⟨_, List.mem_map_of_mem member, _, .inr rfl⟩
  | hop _ _ reached _ _ ih => exact ih reached

/-- A path can be followed, or there is a first bad hop. -/
theorem Valid.leads_or_strays (valid : schema.Valid) {table : Table}
    (member : table ∈ schema.tables) (segment : String) (others : List String) :
    schema.Leads table segment others ∨ ∃ e, schema.Strays table segment others e := by
  induction others generalizing table segment with
  | nil =>
    by_cases known : segment ∈ table.fields.map Field.name
    · obtain ⟨field, declared, rfl⟩ := List.mem_map.mp known
      exact .inl (.here declared)
    · exact .inr ⟨_, .unknownField known⟩
  | cons next others ih =>
    by_cases known : segment ∈ table.fields.map Field.name
    · obtain ⟨field, declared, rfl⟩ := List.mem_map.mp known
      cases refers : field.foreignKey with
      | none => exact .inr ⟨_, .unknownRelation declared refers⟩
      | some key =>
        obtain ⟨target, found, -⟩ := valid.target_declared member declared refers
        obtain ⟨reached, named⟩ := valid.table?_eq_some_iff.mp found
        rcases ih reached next with leads | ⟨e, strays⟩
        · exact .inl (.hop declared refers reached named leads)
        · exact .inr ⟨e, .hop declared refers reached named strays⟩
    · exact .inr ⟨_, .unknownField known⟩

end Snapshot

namespace Scope

variable {scope : Scope}

section Paths

variable (valid : scope.schema.Valid) {table : Table} (member : table ∈ scope.schema.tables)

include valid member

theorem column_of_declared {field : Field} (declared : field ∈ table.fields) :
    ∃ sql, scope.column table.name field.name = .ok sql := by
  rw [column, valid.column?_eq, valid.field?_of_mem member declared]
  exact ⟨_, rfl⟩

theorem path_of_absent {segment : String} (absent : segment ∉ table.fields.map Field.name)
    (others : List String) :
    scope.path table.name segment others = .error (.unknownField table.name segment) := by
  have column : scope.column table.name segment = .error (.unknownField table.name segment) := by
    have found : scope.schema.table? table.name = some table :=
      valid.table?_eq_some_iff.mpr ⟨member, rfl⟩
    rw [column, valid.column?_eq, Snapshot.field?_of_table? found,
      Table.field?_eq_none_iff.mpr absent]
  cases others with
  | nil => exact column
  | cons next others => rw [path, column]

/-- A hop fails by what comes after it, if the field refers to another one. -/
theorem failure?_path_hop {field : Field} (declared : field ∈ table.fields) (next : String)
    (others : List String) :
    failure? (scope.path table.name field.name (next :: others)) =
      match field.foreignKey with
      | none => some (.unknownRelation table.name field.name)
      | some key => failure? (scope.path key.table next others) := by
  obtain ⟨sql, column⟩ := column_of_declared valid member declared
  have key : scope.schema.foreignKey? table.name field.name = field.foreignKey :=
    Snapshot.foreignKey?_of_field? (valid.field?_of_mem member declared)
  rw [path, column, valid.relation?_eq, key]
  cases field.foreignKey with
  | none => rfl
  | some key =>
    simp only [Option.map_some]
    cases scope.path key.table next others <;> rfl

end Paths

theorem failure?_path_of_strays (valid : scope.schema.Valid) {table : Table} {segment : String}
    {others : List String} {e : CompileError}
    (strays : scope.schema.Strays table segment others e) (member : table ∈ scope.schema.tables) :
    failure? (scope.path table.name segment others) = some e := by
  induction strays with
  | unknownField absent =>
    rw [path_of_absent valid member absent]
    rfl
  | unknownRelation declared refersNowhere =>
    rw [failure?_path_hop valid member declared, refersNowhere]
  | hop declared refers reached named _ ih =>
    rw [failure?_path_hop valid member declared, refers]
    simp only [← named]
    exact ih reached

theorem failure?_path_of_leads (valid : scope.schema.Valid) {table : Table} {segment : String}
    {others : List String} (leads : scope.schema.Leads table segment others)
    (member : table ∈ scope.schema.tables) :
    failure? (scope.path table.name segment others) = none := by
  induction leads with
  | here declared =>
    obtain ⟨sql, column⟩ := column_of_declared valid member declared
    rw [path, column]
    rfl
  | hop declared refers reached named _ ih =>
    rw [failure?_path_hop valid member declared, refers]
    simp only [← named]
    exact ih reached

/-! ## Nodes -/

/-- The node is well formed, whatever is below it. -/
def WellFormed (scope : Scope) : Expr → Prop
  | .literal value => ∃ constant : Constant, value = constant.toJson
  | .field path => ∃ table ∈ scope.schema.tables, table.name = scope.table ∧
      scope.schema.Leads table (segments path).1 (segments path).2
  | .var name => ∃ sql, (name, sql) ∈ scope.bindings
  | .call name args => ∃ function : SqlFunction,
      function.name = name ∧ function.arity.accepts args.length = true
  | _ => True

/-- The node is not well formed, and what is wrong with it. -/
inductive NodeFault (scope : Scope) : Expr → CompileError → Prop
  | literal {value : Json} (compound : ∀ constant : Constant, value ≠ constant.toJson) :
    NodeFault scope (.literal value) (.unsupportedLiteral value.compact)
  | path {table : Table} {path : String} {e : CompileError} (member : table ∈ scope.schema.tables)
    (named : table.name = scope.table)
    (strays : scope.schema.Strays table (segments path).1 (segments path).2 e) :
    NodeFault scope (.field path) e
  | unbound {name : String} (unbound : ∀ sql, (name, sql) ∉ scope.bindings) :
    NodeFault scope (.var name) (.unboundVariable name)
  | unknownFunction {name : String} {args : List Expr}
    (unknown : ∀ function : SqlFunction, function.name ≠ name) :
    NodeFault scope (.call name args) (.unknownFunction name)
  | arity {function : SqlFunction} {args : List Expr}
    (refused : function.arity.accepts args.length = false) :
    NodeFault scope (.call function.name args)
      (.arity function.name function.arity args.length)

/-- An unknown field or relation is one of a table of the schema. -/
theorem NodeFault.table_mem {node : Expr} {e : CompileError} (faulty : scope.NodeFault node e)
    {table field : String}
    (named : e = .unknownField table field ∨ e = .unknownRelation table field) :
    table ∈ scope.schema.tableNames := by
  cases faulty with
  | path member _ strays =>
    obtain ⟨last, known, segment, ends⟩ := strays.exists_table member
    rcases ends with rfl | rfl <;> simp at named
    all_goals
      obtain ⟨rfl, -⟩ := named
      exact known
  | _ => simp at named

section Nodes

variable (valid : scope.schema.Valid)

include valid

theorem fault?_of_wellFormed {node : Expr} (sound : scope.WellFormed node) :
    scope.fault? node = none := by
  cases node with
  | literal value =>
    obtain ⟨constant, rfl⟩ := sound
    cases constant <;> rfl
  | field path =>
    obtain ⟨table, member, named, leads⟩ := sound
    rw [fault?, ← named]
    exact failure?_path_of_leads valid leads member
  | var name =>
    obtain ⟨sql, bound⟩ := sound
    rw [fault?]
    cases found : KeyedList.get? scope.bindings name with
    | some sql => rfl
    | none =>
      have unequal := List.lookup_eq_none_iff.mp found (name, sql) bound
      simp at unequal
  | call name args =>
    obtain ⟨function, rfl, accepted⟩ := sound
    simp only [fault?, SqlFunction.ofName?_name, accepted, if_true]
  | _ => rfl

theorem fault?_of_nodeFault {node : Expr} {e : CompileError} (faulty : scope.NodeFault node e) :
    scope.fault? node = some e := by
  cases faulty with
  | @literal value compound =>
    cases value with
    | null => exact absurd rfl (compound .null)
    | bool value => exact absurd rfl (compound (.bool value))
    | number value => exact absurd rfl (compound (.number value))
    | string value => exact absurd rfl (compound (.text value))
    | _ => rfl
  | path member named strays =>
    rw [fault?, ← named]
    exact failure?_path_of_strays valid strays member
  | @unbound name unbound =>
    rw [fault?]
    cases found : KeyedList.get? scope.bindings name with
    | none => rfl
    | some sql =>
      obtain ⟨before, after, bindings, -⟩ := List.lookup_eq_some_iff.mp found
      exact absurd (by simp [bindings]) (unbound sql)
  | @unknownFunction name args unknown =>
    rw [fault?]
    cases found : SqlFunction.ofName? name with
    | none => rfl
    | some function =>
      exact absurd (SqlFunction.name_of_ofName? found) (unknown function)
  | arity refused =>
    simp only [fault?, SqlFunction.ofName?_name, refused, Bool.false_eq_true, if_false]

/-- The table that an expression stands on is where its paths begin. -/
theorem wellFormed_or_nodeFault (present : scope.table ∈ scope.schema.tableNames) (node : Expr) :
    scope.WellFormed node ∨ ∃ e, scope.NodeFault node e := by
  cases node with
  | literal value =>
    cases value with
    | null => exact .inl ⟨.null, rfl⟩
    | bool value => exact .inl ⟨.bool value, rfl⟩
    | number value => exact .inl ⟨.number value, rfl⟩
    | string value => exact .inl ⟨.text value, rfl⟩
    | _ =>
      refine .inr ⟨_, .literal ?_⟩
      rintro (_ | _ | _ | _) same <;> cases same
  | field path =>
    obtain ⟨table, member, named⟩ := List.mem_map.mp present
    rcases valid.leads_or_strays member (segments path).1 (segments path).2 with
      leads | ⟨e, strays⟩
    · exact .inl ⟨table, member, named, leads⟩
    · exact .inr ⟨e, .path member named strays⟩
  | var name =>
    by_cases bound : ∃ sql, (name, sql) ∈ scope.bindings
    · exact .inl bound
    · exact .inr ⟨_, .unbound (not_exists.mp bound)⟩
  | call name args =>
    by_cases known : ∃ function : SqlFunction, function.name = name
    · obtain ⟨function, rfl⟩ := known
      cases accepted : function.arity.accepts args.length with
      | true => exact .inl ⟨function, rfl, accepted⟩
      | false => exact .inr ⟨_, .arity accepted⟩
    · exact .inr ⟨_, .unknownFunction (not_exists.mp known)⟩
  | _ => exact .inl trivial

theorem fault?_iff (present : scope.table ∈ scope.schema.tableNames) (node : Expr) :
    (scope.fault? node = none ↔ scope.WellFormed node) ∧
      ∀ e, scope.fault? node = some e ↔ scope.NodeFault node e :=
  found_iff_of_sound_or_fault (wellFormed_or_nodeFault valid present node)
    (fault?_of_wellFormed valid) fun _ => fault?_of_nodeFault valid

end Nodes

end Scope

/-- Under a snapshot without violations, and on one of its tables, the expressions that compile are
those with well-formed nodes. Any other fails by its first node that is not well formed, and if that
is a path it names a table of the snapshot. -/
theorem well_formed_expressions_compile {scope : Scope} (accepted : scope.schema.validate = .ok ())
    (present : scope.table ∈ scope.schema.tableNames) (e : Expr) :
    ((∃ sql, compileSql scope e = .ok sql) ↔ ∀ node ∈ e.nodes, scope.WellFormed node) ∧
    (∀ fault, compileSql scope e = .error fault ↔ ∃ before node after,
      e.nodes = before ++ node :: after ∧ (∀ other ∈ before, scope.WellFormed other) ∧
        ¬ scope.WellFormed node ∧ scope.NodeFault node fault) ∧
    ∀ table field, (compileSql scope e = .error (.unknownField table field) ∨
      compileSql scope e = .error (.unknownRelation table field)) →
        table ∈ scope.schema.tableNames := by
  have valid := Snapshot.Valid.ofValidate accepted
  have exact := Scope.fault?_iff valid present
  have first : ∀ fault, compileSql scope e = .error fault ↔ ∃ before node after,
      e.nodes = before ++ node :: after ∧ (∀ other ∈ before, scope.WellFormed other) ∧
        ¬ scope.WellFormed node ∧ scope.NodeFault node fault := by
    intro fault
    rw [← failure?_eq_some_iff, failure?_compileSql, List.findSome?_eq_some_iff]
    simp only [(exact _).1, (exact _).2]
    constructor
    · rintro ⟨before, node, after, nodes, faulty, sound⟩
      refine ⟨before, node, after, nodes, sound, ?_, faulty⟩
      rw [← (exact node).1, ((exact node).2 fault).mpr faulty]
      simp
    · rintro ⟨before, node, after, nodes, sound, -, faulty⟩
      exact ⟨before, node, after, nodes, faulty, sound⟩
  refine ⟨?_, first, ?_⟩
  · rw [← failure?_eq_none_iff, failure?_compileSql, List.findSome?_eq_none_iff]
    simp only [(exact _).1]
  · rintro table field (failed | failed)
    · obtain ⟨-, node, -, -, -, -, faulty⟩ := (first _).mp failed
      exact faulty.table_mem (.inl rfl)
    · obtain ⟨-, node, -, -, -, -, faulty⟩ := (first _).mp failed
      exact faulty.table_mem (.inr rfl)

/-- A condition with a path that ends at a field that is not there, in a call of a function that is
not there, beside a variable that is not bound. -/
def isMuddled : Expr :=
  .and [.not (.isNull (.field "owner_id.name")),
    .compare .lt (.call "FIRST" [.field "parent_id.owner_id.age"]) (.var "auth.uid")]

/-- The path is the first to fail, and the table that it ends at is named. -/
theorem well_formed_expressions_compile_nodes :
    onNodes.schema.validate = .ok () ∧ onNodes.table ∈ onNodes.schema.tableNames ∧
    compileSql onNodes isMuddled = .error (.unknownField "owners" "age") ∧
    (∃ before node after, isMuddled.nodes = before ++ node :: after ∧
      (∀ other ∈ before, onNodes.WellFormed other) ∧ ¬ onNodes.WellFormed node ∧
        onNodes.NodeFault node (.unknownField "owners" "age")) ∧
    (¬ ∀ node ∈ isMuddled.nodes, onNodes.WellFormed node) ∧
    "owners" ∈ onNodes.schema.tableNames := by
  have accepted : onNodes.schema.validate = .ok () := by decide
  have present : onNodes.table ∈ onNodes.schema.tableNames := by decide
  have failed : compileSql onNodes isMuddled = .error (.unknownField "owners" "age") := rfl
  obtain ⟨compiles, first, known⟩ := well_formed_expressions_compile accepted present isMuddled
  refine ⟨accepted, present, failed, (first _).mp failed, ?_, known _ _ (.inl failed)⟩
  intro sound
  obtain ⟨sql, compiled⟩ := compiles.mpr sound
  rw [failed] at compiled
  cases compiled

end SchemaDelta
