import SchemaDelta.Proofs.Expressions.Compiled
import SchemaDelta.Proofs.Paths.Query
import SchemaDelta.Proofs.Validity

/-!
# Paths and foreign keys

A path means the value that is found by following foreign keys from the current row. The selects
that it is compiled to find this value, as long as no foreign key on the way refers to the table
that declares it. Where one does, the inner table hides the row that the key is taken from: the
select then compares every row of the table with itself and does not depend on the current row any
more.
-/

namespace SchemaDelta

namespace Snapshot

variable (schema : Snapshot)

/-- The query that a path is compiled to. -/
def pathQuery (table field : String) : List String → Option Query
  | [] => some (.column ⟨table, field⟩)
  | next :: others => do
    let key ← schema.foreignKey? table field
    let value ← pathQuery key.table next others
    return .select value key.table ⟨key.table, key.field⟩ ⟨table, field⟩

/-- Whether a path follows a foreign key from a table to itself. -/
def SelfReferring (table field : String) : List String → Prop
  | [] => False
  | next :: others =>
    ∃ key ∈ schema.foreignKey? table field,
      key.table = table ∨ SelfReferring key.table next others

instance SelfReferring.decidable (table field : String) :
    (others : List String) → Decidable (schema.SelfReferring table field others)
  | [] => inferInstanceAs (Decidable False)
  | next :: others =>
    have : ∀ key : ForeignKey, Decidable (schema.SelfReferring key.table next others) :=
      fun key => decidable key.table next others
    inferInstanceAs (Decidable (∃ key ∈ schema.foreignKey? table field,
      key.table = table ∨ schema.SelfReferring key.table next others))

section Rows

variable {V : Type} [DecidableEq V]

/-- The value that a path leads to from a row: every segment but the last is a foreign key, and
leads to the row with its value in the field that it refers to. -/
def follow (content : Content V) (table : String) (row : Row V) (field : String) :
    List String → Option V
  | [] => row field
  | next :: others => do
    let key ← schema.foreignKey? table field
    let value ← row field
    let other ← (content key.table).find? (· key.field = some value)
    follow content key.table other next others

/-- No two rows have the same value in a field that a foreign key refers to. -/
def Keyed (content : Content V) : Prop :=
  ∀ relation ∈ schema.relations,
    ((content relation.toTable).filterMap (· relation.toField)).Nodup

/-- Every foreign key of a row leads to another row. -/
def Intact (content : Content V) : Prop :=
  ∀ relation ∈ schema.relations, ∀ row ∈ content relation.fromTable, ∀ value,
    row relation.fromField = some value →
      ∃ other ∈ content relation.toTable, other relation.toField = some value

end Rows

variable {schema}

theorem pathQuery_cons_eq_some_iff {table field next : String} {others : List String}
    {query : Query} :
    schema.pathQuery table field (next :: others) = some query ↔
      ∃ key value, schema.foreignKey? table field = some key ∧
        schema.pathQuery key.table next others = some value ∧
        query = .select value key.table ⟨key.table, key.field⟩ ⟨table, field⟩ := by
  constructor
  · intro made
    obtain ⟨key, declared, rest⟩ := Option.bind_eq_some_iff.mp made
    obtain ⟨value, inner, whole⟩ := Option.bind_eq_some_iff.mp rest
    cases whole
    exact ⟨key, value, declared, inner, rfl⟩
  · rintro ⟨key, value, declared, inner, rfl⟩
    simp [pathQuery, declared, inner]

theorem relation_of_foreignKey? {table field : String} {key : ForeignKey}
    (declared : schema.foreignKey? table field = some key) :
    (⟨table, field, key.table, key.field⟩ : Relation) ∈ schema.relations := by
  obtain ⟨declaration, found, declares⟩ := Option.bind_eq_some_iff.mp declared
  obtain ⟨owner, foundOwner, foundField⟩ := Option.bind_eq_some_iff.mp found
  simp only [relations, Table.relations, List.mem_flatMap, List.mem_filterMap]
  refine ⟨owner, mem_of_table? foundOwner, declaration, Table.mem_of_field? foundField, ?_⟩
  rw [declares, Option.map_some, name_of_table? foundOwner, Table.name_of_field? foundField]

/-- In a valid snapshot the relation of a field is its foreign key. -/
theorem Valid.foreignKey?_of_relation? (valid : schema.Valid) {table field : String}
    {relation : Relation} (found : schema.relation? table field = some relation) :
    ∃ key, schema.foreignKey? table field = some key ∧
      relation = ⟨table, field, key.table, key.field⟩ := by
  have named := List.find?_some found
  simp only [Bool.and_eq_true, beq_iff_eq] at named
  obtain ⟨owner, foundOwner, related⟩ := List.mem_flatMap.mp (List.mem_of_find?_eq_some found)
  obtain ⟨declaration, foundField, made⟩ := List.mem_filterMap.mp related
  obtain ⟨key, declares, rfl⟩ := Option.map_eq_some_iff.mp made
  rcases named with ⟨rfl, rfl⟩
  refine ⟨key, ?_, rfl⟩
  rw [foreignKey?, valid.table?_eq_some_iff.mpr ⟨foundOwner, rfl⟩, Option.bind_some,
    (valid.field?_eq_some_iff foundOwner).mpr ⟨foundField, rfl⟩, Option.bind_some, declares]

/-- In a valid snapshot every view of it has the same relation for a field. -/
theorem Valid.relation?_eq (valid : schema.Valid) (table field : String) :
    schema.relation? table field =
      (schema.foreignKey? table field).map fun key => ⟨table, field, key.table, key.field⟩ := by
  cases declared : schema.foreignKey? table field with
  | none =>
    cases found : schema.relation? table field with
    | none => rfl
    | some relation =>
      obtain ⟨key, declares, -⟩ := valid.foreignKey?_of_relation? found
      rw [declared] at declares
      cases declares
  | some key =>
    have related := relation_of_foreignKey? declared
    have present : (schema.relation? table field).isSome := by
      rw [relation?, List.find?_isSome]
      exact ⟨_, related, by simp⟩
    obtain ⟨relation, found⟩ := Option.isSome_iff_exists.mp present
    obtain ⟨key', declares, rfl⟩ := valid.foreignKey?_of_relation? found
    rw [declared] at declares
    cases declares
    exact found

end Snapshot

theorem Scope.subselect_eq_selectText (relation : Relation) (value column : String) :
    subselect relation value column =
      Query.selectText value (Sql.identifier relation.toTable)
        (ColumnName.render ⟨relation.toTable, relation.toField⟩) column := by
  unfold subselect Query.selectText ColumnName.render
  simp only [String.append_assoc]

theorem Scope.column_of_ok {scope : Scope} {table field sql : String}
    (compiled : scope.column table field = .ok sql) : sql = ColumnName.render ⟨table, field⟩ := by
  unfold column at compiled
  split at compiled <;> cases compiled
  rfl

theorem Scope.path_eq_render {scope : Scope} (valid : scope.schema.Valid) {table field sql : String}
    {others : List String} (compiled : scope.path table field others = .ok sql) :
    ∃ query, scope.schema.pathQuery table field others = some query ∧ query.render = sql := by
  induction others generalizing table field sql with
  | nil => exact ⟨.column ⟨table, field⟩, rfl, (column_of_ok compiled).symm⟩
  | cons next others ih =>
    obtain ⟨column, relation, value, here, found, inner, rfl⟩ := path_cons_eq_ok_iff.mp compiled
    obtain ⟨key, declared, rfl⟩ := valid.foreignKey?_of_relation? found
    obtain ⟨query, made, rendered⟩ := ih inner
    refine ⟨_, Snapshot.pathQuery_cons_eq_some_iff.mpr ⟨key, query, declared, made, rfl⟩, ?_⟩
    rw [subselect_eq_selectText, Query.render, rendered, column_of_ok here]

section Hop

variable {V : Type}

theorem Frames.resolve_cons_self (table field : String) (row : Row V) (outer : Frames V) :
    resolve ((table, row) :: outer) ⟨table, field⟩ = some (row field) := by
  simp [resolve]

/-- The column that a foreign key is taken from belongs to the row before, or to the row looked at
if both are of one table. -/
theorem Frames.resolve_hop (table source field : String) (other row : Row V) (outer : Frames V) :
    resolve ((source, other) :: (table, row) :: outer) ⟨table, field⟩ =
      some ((if source = table then other else row) field) := by
  by_cases same : source = table
  · simp [resolve, same]
  · have apart : (table == source) = false := by simpa using Ne.symm same
    simp [resolve, List.lookup_cons, apart, same]

variable [DecidableEq V] {schema : Snapshot}
  {several : List (Option (Option V)) → Option (Option V)} {content : Content V}

theorem Query.eval_hop (value : Query) (table field : String) (key : ForeignKey) (row : Row V)
    (outer : Frames V) :
    (select value key.table ⟨key.table, key.field⟩ ⟨table, field⟩).eval several content
        ((table, row) :: outer) =
      scalar several
        ((content key.table).filter fun other =>
          equal (other key.field) ((if key.table = table then other else row) field))
        fun other => value.eval several content ((key.table, other) :: (table, row) :: outer) := by
  rw [eval, if_pos (by simp)]
  simp only [holds, Frames.resolve_cons_self, Frames.resolve_hop]

/-- The innermost row is all that the query of a path depends on. -/
theorem Snapshot.eval_pathQuery {table field : String} {others : List String} {query : Query}
    (made : schema.pathQuery table field others = some query) (row : Row V) (outer : Frames V) :
    query.eval several content ((table, row) :: outer) =
      query.eval several content [(table, row)] := by
  induction others generalizing table field query row outer with
  | nil =>
    cases made
    rw [Query.eval, Query.eval, Frames.resolve_cons_self, Frames.resolve_cons_self]
  | cons next others ih =>
    obtain ⟨key, value, -, inner, rfl⟩ := pathQuery_cons_eq_some_iff.mp made
    rw [Query.eval_hop, Query.eval_hop]
    simp only [ih inner]

/-- Without a foreign key from a table to itself, the query of a path finds the value that the path
leads to. -/
theorem Snapshot.eval_eq_follow {table field : String} {others : List String} {query : Query}
    (made : schema.pathQuery table field others = some query)
    (direct : ¬ schema.SelfReferring table field others) (keyed : schema.Keyed content)
    (row : Row V) :
    query.eval several content [(table, row)] =
      some (schema.follow content table row field others) := by
  induction others generalizing table field query row with
  | nil =>
    cases made
    rw [Query.eval, Frames.resolve_cons_self, follow]
  | cons next others ih =>
    obtain ⟨key, value, declared, inner, rfl⟩ := pathQuery_cons_eq_some_iff.mp made
    have apart : key.table ≠ table := fun same => direct ⟨key, declared, .inl same⟩
    have directInside : ¬ schema.SelfReferring key.table next others := fun inside =>
      direct ⟨key, declared, .inr inside⟩
    have distinct := keyed _ (relation_of_foreignKey? declared)
    rw [Query.eval_hop]
    simp only [if_neg apart]
    cases known : row field with
    | none =>
      simp [Query.scalar, follow, declared, known]
    | some reference =>
      rw [Query.filter_equal_of_nodup distinct]
      cases found : (content key.table).find? (· key.field = some reference) with
      | none => simp [Query.scalar, follow, declared, known, found]
      | some other =>
        simp only [Option.toList_some, Query.scalar]
        rw [eval_pathQuery inner, ih inner directInside]
        simp [follow, declared, known, found]

end Hop

section Capture

variable {V : Type} {schema : Snapshot}

/-- A row with the same value in every field. -/
def Row.uniform (v : V) : Row V := fun _ => some v

/-- Two rows in every table, each with one value in all its fields. -/
def Content.uniform (x y : V) : Content V := fun _ => [Row.uniform x, Row.uniform y]

theorem Snapshot.keyed_uniform {x y : V} (different : x ≠ y) :
    schema.Keyed (Content.uniform x y) := by
  intro relation _
  simp [Content.uniform, Row.uniform, different]

theorem Snapshot.intact_uniform (x y : V) : schema.Intact (Content.uniform x y) := by
  intro relation _ row member value known
  refine ⟨row, member, ?_⟩
  obtain rfl | rfl : row = Row.uniform x ∨ row = Row.uniform y := by
    simpa [Content.uniform] using member
  · exact known
  · exact known

variable [DecidableEq V]

theorem Snapshot.find?_uniform {x y v : V} (given : v = x ∨ v = y) (table field : String) :
    (Content.uniform x y table).find? (· field = some v) = some (Row.uniform v) := by
  by_cases same : v = x
  · subst same
    simp [Content.uniform, Row.uniform]
  · obtain rfl := given.resolve_left same
    simp [Content.uniform, Row.uniform, Ne.symm same]

/-- The foreign keys of a uniform row lead to the row with the same value. -/
theorem Snapshot.follow_uniform {x y v : V} (given : v = x ∨ v = y) {table field : String}
    {others : List String} {query : Query}
    (made : schema.pathQuery table field others = some query) :
    schema.follow (Content.uniform x y) table (Row.uniform v) field others = some v := by
  induction others generalizing table field query with
  | nil => rfl
  | cons next others ih =>
    obtain ⟨key, value, declared, inner, rfl⟩ := pathQuery_cons_eq_some_iff.mp made
    simp only [follow, declared, Option.bind_eq_bind, Option.bind_some]
    have known : Row.uniform v field = some v := rfl
    rw [known, Option.bind_some, find?_uniform given, Option.bind_some, ih inner]

/-- A path over a foreign key from a table to itself loses the row it starts from. -/
theorem Snapshot.eval_uniform {x y : V} (different : x ≠ y)
    {several : List (Option (Option V)) → Option (Option V)} {table field : String}
    {others : List String} {query : Query}
    (made : schema.pathQuery table field others = some query)
    (captured : schema.SelfReferring table field others) :
    ∃ found, ∀ v, v = x ∨ v = y →
      query.eval several (Content.uniform x y) [(table, Row.uniform v)] = found := by
  induction others generalizing table field query with
  | nil => cases captured
  | cons next others ih =>
    obtain ⟨key, value, declared, inner, rfl⟩ := pathQuery_cons_eq_some_iff.mp made
    simp only [Query.eval_hop, eval_pathQuery inner]
    rcases captured with ⟨key', declared', again⟩
    obtain rfl : key = key' := Option.some.inj (declared.symm.trans declared')
    by_cases same : key.table = table
    · -- the rows are compared with themselves, whatever the current row is
      simp only [if_pos same]
      exact ⟨_, fun _ _ => rfl⟩
    · obtain ⟨found, inside⟩ := ih inner (again.resolve_left same)
      refine ⟨found, fun v given => ?_⟩
      have distinct : ((Content.uniform x y key.table).filterMap (· key.field)).Nodup := by
        simp [Content.uniform, Row.uniform, different]
      have known : Row.uniform v field = some v := rfl
      simp only [if_neg same, known]
      rw [Query.filter_equal_of_nodup distinct, find?_uniform given]
      exact inside v given

/-- The query of a path over a foreign key from a table to itself finds a wrong value for one of two
rows. -/
theorem Snapshot.exists_eval_ne_follow {x y : V} (different : x ≠ y) {table field : String}
    {others : List String} {query : Query}
    (made : schema.pathQuery table field others = some query)
    (captured : schema.SelfReferring table field others)
    (several : List (Option (Option V)) → Option (Option V)) :
    ∃ row ∈ Content.uniform x y table,
      query.eval several (Content.uniform x y) [(table, row)] ≠
        some (schema.follow (Content.uniform x y) table row field others) := by
  obtain ⟨found, constant⟩ := eval_uniform different made captured
  by_cases first : found = some (some x)
  · refine ⟨Row.uniform y, by simp [Content.uniform], ?_⟩
    rw [constant y (.inr rfl), follow_uniform (.inr rfl) made, first]
    simpa using different
  · refine ⟨Row.uniform x, by simp [Content.uniform], ?_⟩
    rw [constant x (.inl rfl), follow_uniform (.inl rfl) made]
    exact first

end Capture

/-- The segments of a path, the first one and the others. -/
def segments (path : String) : String × List String :=
  (String.ofList (pathSegments path.toList).1, (pathSegments path.toList).2.map String.ofList)

theorem compileSql_field (scope : Scope) (path : String) :
    compileSql scope (.field path) =
      scope.path scope.table (segments path).1 (segments path).2 := by
  rw [compileSql]
  rfl

/-- A path is its segments with dots in between. -/
theorem pathSegments_intercalate (path : List Char) :
    ['.'].intercalate ((pathSegments path).1 :: (pathSegments path).2) = path := by
  induction path with
  | nil => rfl
  | cons c path ih =>
    by_cases dot : c = '.'
    · simp only [pathSegments, dot, if_true, List.intercalate_cons_cons, ih]
      rfl
    · simp only [pathSegments, dot, if_false]
      cases others : (pathSegments path).2 with
      | nil =>
        rw [others] at ih
        simpa using ih
      | cons next others =>
        rw [others, List.intercalate_cons_cons] at ih
        rw [List.intercalate_cons_cons, List.append_assoc, List.cons_append, ← List.append_assoc,
          ih]

theorem dot_not_mem_pathSegments (path : List Char) :
    ∀ segment ∈ (pathSegments path).1 :: (pathSegments path).2, '.' ∉ segment := by
  induction path with
  | nil => simp [pathSegments]
  | cons c path ih =>
    by_cases dot : c = '.'
    · simpa [pathSegments, dot] using ih
    · simp only [pathSegments, dot, if_false, List.forall_mem_cons] at ih ⊢
      refine ⟨?_, ih.2⟩
      simpa [Ne.symm dot] using ih.1

namespace Scope

variable (scope : Scope)

/-- The value that a path leads to from a row of the table of the scope. -/
def follow {V : Type} [DecidableEq V] (content : Content V) (row : Row V) (path : String) :
    Option V :=
  scope.schema.follow content scope.table row (segments path).1 (segments path).2

/-- Whether a path follows a foreign key from a table to itself. -/
def SelfReferring (path : String) : Prop :=
  scope.schema.SelfReferring scope.table (segments path).1 (segments path).2

instance SelfReferring.decidable (path : String) : Decidable (scope.SelfReferring path) :=
  inferInstanceAs (Decidable (scope.schema.SelfReferring _ _ _))

end Scope

/-- The SQL of a path is one query. From every row it finds the value that the path leads to, in
every database in which foreign keys refer to fields without repetitions, unless the path follows a
foreign key from a table to itself. Then it fails, even in a database with all the rows that are
referred to. -/
theorem compiled_path_follows_keys {scope : Scope} {path sql : String}
    (accepted : scope.schema.validate = .ok ())
    (compiled : compileSql scope (.field path) = .ok sql) :
    ∃ query : Query, (∀ other : Query, other.render = sql ↔ other = query) ∧
      (¬ scope.SelfReferring path →
        ∀ {V : Type} [DecidableEq V] (several : List (Option (Option V)) → Option (Option V))
          (content : Content V) (row : Row V), scope.schema.Keyed content →
          query.eval several content [(scope.table, row)] = some (scope.follow content row path)) ∧
      (scope.SelfReferring path → ∀ {V : Type} [DecidableEq V] (x y : V), x ≠ y →
        ∃ content : Content V, scope.schema.Keyed content ∧ scope.schema.Intact content ∧
          ∀ several, ∃ row ∈ content scope.table,
            query.eval several content [(scope.table, row)] ≠
              some (scope.follow content row path)) := by
  rw [compileSql_field] at compiled
  obtain ⟨query, made, rfl⟩ := Scope.path_eq_render (.ofValidate accepted) compiled
  refine ⟨query, fun other => Query.render_injective.eq_iff, ?_, ?_⟩
  · intro direct V _ several content row keyed
    exact Snapshot.eval_eq_follow made direct keyed row
  · intro captured V _ x y different
    exact ⟨Content.uniform x y, Snapshot.keyed_uniform different, Snapshot.intact_uniform x y,
      Snapshot.exists_eval_ne_follow different made captured⟩

/-- Nodes of a tree with their owners. -/
def ownedNodes : Snapshot where
  tables := [
    { name := "owners"
      fields := [
        { name := "id", type := .uuid, nullable := false, primaryKey := true },
        { name := "name", type := .text }] },
    { name := "nodes"
      fields := [
        { name := "id", type := .uuid, nullable := false, primaryKey := true },
        { name := "name", type := .text },
        { name := "parent_id"
          type := .uuid
          foreignKey := some { table := "nodes", field := "id" } },
        { name := "owner_id"
          type := .uuid
          foreignKey := some { table := "owners", field := "id" } }] }]

/-- An expression stands on a node. -/
def onNodes : Scope where
  dialect := .postgres
  table := "nodes"
  schema := ownedNodes
  bindings := []

/-- The name of the owner of a node is found. -/
theorem compiled_path_follows_keys_owner :
    ∃ (sql : String) (query : Query),
      compileSql onNodes (.field "owner_id.name") = .ok sql ∧ query.render = sql ∧
      ¬ onNodes.SelfReferring "owner_id.name" ∧
      ∀ several (content : Content Nat) row, onNodes.schema.Keyed content →
        query.eval several content [("nodes", row)] =
          some (onNodes.follow content row "owner_id.name") := by
  have direct : ¬ onNodes.SelfReferring "owner_id.name" := by decide
  obtain ⟨query, unique, found, -⟩ := compiled_path_follows_keys
    (by decide : onNodes.schema.validate = .ok ())
    (rfl : compileSql onNodes (.field "owner_id.name") = .ok _)
  exact ⟨_, query, rfl, (unique query).mpr rfl, direct, found direct⟩

/-- The root of a tree. -/
def rootNode : Row Nat
  | "id" => some 1
  | "name" => some 10
  | _ => none

/-- A node below the root. -/
def leafNode : Row Nat
  | "id" => some 2
  | "name" => some 20
  | "parent_id" => some 1
  | _ => none

/-- A tree with two nodes. -/
def smallTree : Content Nat
  | "nodes" => [rootNode, leafNode]
  | _ => []

/-- The name of the parent of a node. -/
def parentName : Query :=
  .select (.column ⟨"nodes", "name"⟩) "nodes" ⟨"nodes", "id"⟩ ⟨"nodes", "parent_id"⟩

/-- The name of the parent of a node is not found: no node is its own parent. -/
theorem compiled_parent_is_null :
    onNodes.schema.validate = .ok () ∧
    compileSql onNodes (.field "parent_id.name") = .ok parentName.render ∧
    onNodes.schema.Keyed smallTree ∧ onNodes.schema.Intact smallTree ∧
    leafNode ∈ smallTree onNodes.table ∧
    onNodes.follow smallTree leafNode "parent_id.name" = some 10 ∧
    ∀ several, parentName.eval several smallTree [(onNodes.table, leafNode)] = some none := by
  refine ⟨by decide, rfl, ?_, ?_, ?_, rfl, fun _ => rfl⟩
  · unfold Snapshot.Keyed
    decide
  · intro relation member row inside value known
    have related : onNodes.schema.relations =
        [⟨"nodes", "parent_id", "nodes", "id"⟩, ⟨"nodes", "owner_id", "owners", "id"⟩] := rfl
    obtain rfl | rfl : relation = _ ∨ relation = _ := by simpa [related] using member
    · obtain rfl | rfl : row = rootNode ∨ row = leafNode := by simpa [smallTree] using inside
      · cases known
      · exact ⟨rootNode, List.mem_cons_self, known⟩
    · obtain rfl | rfl : row = rootNode ∨ row = leafNode := by simpa [smallTree] using inside
      · cases known
      · cases known
  · exact List.mem_cons_of_mem _ List.mem_cons_self

end SchemaDelta
