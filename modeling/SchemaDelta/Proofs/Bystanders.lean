import SchemaDelta.Proofs.Expressions.Agreement
import SchemaDelta.Proofs.Minimality
import SchemaDelta.Proofs.Requests

/-!
# Tables and variables that have no part in a migration

A table that stands unchanged in both snapshots is not recorded by their diff. The paths on the
other tables never lead to it, because foreign keys of an accepted snapshot stay among its tables.
So the migration does not change when such a table is put into both snapshots, and neither does it
when variables are bound that are in no expression that is compiled.
-/

namespace SchemaDelta

/-! ## A snapshot with one more table -/

/-- The snapshot with a table put in before the table at a position, or at the end. -/
def Snapshot.withTable (snapshot : Snapshot) (position : Nat) (table : Table) : Snapshot where
  tables := snapshot.tables.take position ++ table :: snapshot.tables.drop position

namespace Snapshot

variable {snapshot : Snapshot} {position : Nat} {table : Table} {name : String}

theorem withTable_perm :
    (snapshot.withTable position table).tables.Perm (table :: snapshot.tables) := by
  refine List.perm_middle.trans (.cons _ ?_)
  rw [List.take_append_drop]

theorem mem_withTable : table ∈ (snapshot.withTable position table).tables :=
  withTable_perm.symm.subset List.mem_cons_self

theorem filterMap_withTable {β : Type} {f : Table → Option β} (none : f table = none) :
    (snapshot.withTable position table).tables.filterMap f = snapshot.tables.filterMap f := by
  rw [withTable, List.filterMap_append, List.filterMap_cons_none none, ← List.filterMap_append,
    List.take_append_drop]

theorem filter_withTable {p : Table → Bool} (out : p table = false) :
    (snapshot.withTable position table).tables.filter p = snapshot.tables.filter p := by
  rw [← List.filterMap_eq_filter, filterMap_withTable (by simp [Option.guard, out])]

/-- The last table of another name is the same. -/
theorem lastTable?_withTable (other : name ≠ table.name) :
    (snapshot.withTable position table).lastTable? name = snapshot.lastTable? name := by
  have out : (table.name == name) = false := beq_false_of_ne other.symm
  rw [lastTable?, lastTable?, ← List.head?_filter, ← List.head?_filter, List.filter_reverse,
    List.filter_reverse, filter_withTable out]

/-- A table of a new name is the only one of its name. -/
theorem lastTable?_withTable_self (new : table.name ∉ snapshot.tableNames) :
    (snapshot.withTable position table).lastTable? table.name = some table := by
  have others : snapshot.tables.filter (·.name == table.name) = [] := by
    rw [List.filter_eq_nil_iff]
    intro t member
    rw [beq_iff_eq]
    exact fun same => new (same ▸ List.mem_map_of_mem member)
  have only : (snapshot.withTable position table).tables.filter (·.name == table.name) =
      [table] := by
    have single : (table :: snapshot.tables).filter (·.name == table.name) = [table] := by
      rw [List.filter_cons_of_pos (by simp), others]
    exact List.perm_singleton.mp (single ▸ withTable_perm.filter _)
  rw [lastTable?, ← List.head?_filter, List.filter_reverse, only]
  rfl

/-- The first table of another name is the same. -/
theorem table?_withTable (other : name ≠ table.name) :
    (snapshot.withTable position table).table? name = snapshot.table? name := by
  have out : (table.name == name) = false := beq_false_of_ne other.symm
  rw [table?, table?, ← List.head?_filter, ← List.head?_filter, filter_withTable out]

/-- The first relation from another table is the same. -/
theorem relation?_withTable (other : name ≠ table.name) (field : String) :
    (snapshot.withTable position table).relation? name field = snapshot.relation? name field := by
  have out : table.relations.find? (fun relation =>
      relation.fromTable == name && relation.fromField == field) = none := by
    rw [List.find?_eq_none]
    intro relation member
    obtain ⟨field', -, declared⟩ := List.mem_filterMap.mp member
    obtain ⟨key, -, rfl⟩ := Option.map_eq_some_iff.mp declared
    simp [other.symm]
  conv_rhs => rw [relation?, relations, ← List.take_append_drop position snapshot.tables]
  simp only [relation?, relations, withTable, List.flatMap_append, List.flatMap_cons,
    List.find?_append, out, Option.none_or]

/-- The columns of another table are the same. -/
theorem column?_withTable (other : name ≠ table.name) (field : String) :
    (snapshot.withTable position table).column? name field = snapshot.column? name field := by
  rw [column?, column?, lastTable?_withTable other]

end Snapshot

/-! ## Diffs -/

section Diffs

variable {before after : Snapshot} {i j : Nat} {table : Table}

/-- A table that stands unchanged in both snapshots is not recorded. -/
theorem Diff.between_withTable (distinct : (table.fields.map Field.name).Nodup)
    (newBefore : table.name ∉ before.tableNames) (newAfter : table.name ∉ after.tableNames) :
    between (before.withTable i table) (after.withTable j table) = between before after := by
  have known : (before.withTable i table).lastTable? table.name = some table :=
    Snapshot.lastTable?_withTable_self newBefore
  have known' : (after.withTable j table).lastTable? table.name = some table :=
    Snapshot.lastTable?_withTable_self newAfter
  have others : ∀ t ∈ after.tables,
      (before.withTable i table).lastTable? t.name = before.lastTable? t.name :=
    fun t member => Snapshot.lastTable?_withTable fun same =>
      newAfter (same ▸ List.mem_map_of_mem member)
  have others' : ∀ t ∈ before.tables,
      (after.withTable j table).lastTable? t.name = after.lastTable? t.name :=
    fun t member => Snapshot.lastTable?_withTable fun same =>
      newBefore (same ▸ List.mem_map_of_mem member)
  have unmodified : TableModification.between? table table = none := by
    rw [TableModification.between?_eq_none_iff,
      TableModification.isEmpty_between_iff distinct distinct rfl]
    exact .refl table
  have sameRules : AccessChange.between? table.name table.access table.access = none :=
    (AccessChange.between?_eq_none_iff_equivalent table.name).mpr (.refl _)
  unfold between
  rw [Snapshot.filter_withTable (by simp [known]), Snapshot.filter_withTable (by simp [known']),
    Snapshot.filterMap_withTable (by simp [known, unmodified]),
    Snapshot.filterMap_withTable (by simp [known, sameRules])]
  congr 1
  · exact List.filter_congr fun t member => by rw [others t member]
  · exact List.filter_congr fun t member => by rw [others' t member]
  · exact List.filterMap_congr fun t member => by rw [others t member]
  · exact List.filterMap_congr fun t member => by rw [others t member]

end Diffs

/-! ## Paths -/

section Paths

variable {scope : Scope} {position : Nat} {bystander : Table}

/-- From the tables of a snapshot a path stays among them, so it does not meet a further table. -/
theorem Scope.path_withTable (valid : scope.schema.Valid)
    (new : bystander.name ∉ scope.schema.tableNames) (segments : List String) :
    ∀ {table : String} (field : String), table ≠ bystander.name →
      { scope with schema := scope.schema.withTable position bystander }.path table field segments =
        scope.path table field segments := by
  induction segments with
  | nil =>
    intro table field other
    simp only [path, column, Snapshot.column?_withTable other]
  | cons next segments ih =>
    intro table field other
    simp only [path, column, Snapshot.column?_withTable other, Snapshot.relation?_withTable other]
    cases found : scope.schema.relation? table field with
    | none => rfl
    | some relation =>
      -- the foreign key leads to a table of the snapshot
      have target : relation.toTable ≠ bystander.name := by
        intro same
        obtain ⟨anchor, member, named, -⟩ :=
          valid.anchored relation (List.mem_of_find?_eq_some found)
        exact new (same ▸ named ▸ List.mem_map_of_mem member)
      simp only [ih next target]

/-- Expressions on the tables of a snapshot have the same SQL when there is a further table. -/
theorem compileSql_withTable (valid : scope.schema.Valid)
    (new : bystander.name ∉ scope.schema.tableNames) (other : scope.table ≠ bystander.name)
    (e : Expr) :
    compileSql { scope with schema := scope.schema.withTable position bystander } e =
      compileSql scope e := by
  refine compileSql_eq_of_agrees e ⟨rfl, fun path _ => ?_, fun _ _ => rfl⟩
  simp only [compileSql]
  exact Scope.path_withTable valid new _ _ other

end Paths

/-! ## Variables -/

namespace Config

/-- Binds several variables, one after the other. -/
def bindAll (config : Config) (additions : List (String × String)) : Config :=
  additions.foldl (fun config addition => config.bind addition.1 addition.2) config

theorem dropCascade_bindAll (config : Config) (additions : List (String × String)) :
    (config.bindAll additions).dropCascade = config.dropCascade := by
  induction additions generalizing config with
  | nil => rfl
  | cons addition additions ih => exact ih (config.bind addition.1 addition.2)

theorem get?_bindAll {additions : List (String × String)} {name : String}
    (other : ∀ addition ∈ additions, addition.1 ≠ name) (config : Config) :
    KeyedList.get? (config.bindAll additions).bindings name =
      KeyedList.get? config.bindings name := by
  induction additions generalizing config with
  | nil => rfl
  | cons addition additions ih =>
    obtain ⟨head, tail⟩ := List.forall_mem_cons.mp other
    refine (ih tail (config.bind addition.1 addition.2)).trans ?_
    rw [Config.bind, KeyedList.get?_insert, if_neg head.symm]

end Config

/-! ## Migrations -/

theorem DefaultValue.table_of_mem_requests {value : DefaultValue} {table : String}
    {request : Request} (member : request ∈ value.requests table) : request.table = table := by
  cases value with
  | constant value => cases member
  | computed e => rw [List.mem_singleton.mp member]

theorem Field.table_of_mem_requests {field : Field} {table : String} {request : Request}
    (member : request ∈ field.requests table) : request.table = table := by
  unfold Field.requests at member
  split at member
  · cases member
  · exact DefaultValue.table_of_mem_requests member

theorem FieldModification.table_of_mem_requests {m : FieldModification} {dialect : Dialect}
    {table : String} {request : Request} (member : request ∈ m.requests dialect table) :
    request.table = table := by
  unfold FieldModification.requests at member
  split at member
  · cases member
  · split at member
    · exact DefaultValue.table_of_mem_requests member
    · cases member

theorem AccessChange.table_of_mem_requests {change : AccessChange} {dialect : Dialect}
    {request : Request} (member : request ∈ change.requests dialect) :
    request.table = change.table := by
  unfold AccessChange.requests at member
  split at member
  · obtain ⟨rule, -, member⟩ := List.mem_flatMap.mp member
    cases after : rule.2.after with
    | always allowed =>
      rw [after] at member
      cases member
    | expr e =>
      rw [after] at member
      rw [List.mem_singleton.mp member]
  · cases member

/-- What is compiled for a diff stands on tables of the new snapshot. -/
theorem Diff.table_of_mem_requests {before after : Snapshot} {dialect : Dialect} {request : Request}
    (member : request ∈ (between before after).requests dialect) :
    request.table ∈ after.tableNames := by
  rcases List.mem_append.mp member with member | ofAccess
  · rcases List.mem_append.mp member with ofAdded | ofModified
    · obtain ⟨table, added, member⟩ := List.mem_flatMap.mp ofAdded
      obtain ⟨field, -, member⟩ := List.mem_flatMap.mp member
      rw [Field.table_of_mem_requests member]
      exact List.mem_map_of_mem (mem_added.mp added).1
    · obtain ⟨m, modified, member⟩ := List.mem_flatMap.mp ofModified
      have named : m.table ∈ after.tableNames :=
        modified_sublist.subset (List.mem_map_of_mem modified)
      rcases List.mem_append.mp member with member | member
      · obtain ⟨field, -, member⟩ := List.mem_flatMap.mp member
        rwa [Field.table_of_mem_requests member]
      · obtain ⟨change, -, member⟩ := List.mem_flatMap.mp member
        rwa [FieldModification.table_of_mem_requests member]
  · obtain ⟨change, recorded, member⟩ := List.mem_flatMap.mp ofAccess
    rw [AccessChange.table_of_mem_requests member]
    exact access_sublist.subset (List.mem_map_of_mem recorded)

namespace Synthesizer

variable {before after : Snapshot} {dialect : Dialect} {config : Config}

theorem migrate_withTable {table : Table} {i j : Nat} (valid : after.Valid)
    (distinct : (table.fields.map Field.name).Nodup) (newBefore : table.name ∉ before.tableNames)
    (newAfter : table.name ∉ after.tableNames) :
    ({ config } : Synthesizer).migrate (before.withTable i table) (after.withTable j table)
        dialect =
      ({ config } : Synthesizer).migrate before after dialect := by
  have other : ∀ name ∈ after.tableNames, name ≠ table.name :=
    fun name member same => newAfter (same ▸ member)
  unfold migrate synthesize synthesisPlan
  rw [Diff.between_withTable distinct newBefore newAfter]
  congr 1
  symm
  refine (Planner.planRests_carryOut ?alike ?declared).same ?agree
  case alike => exact ⟨rfl, rfl⟩
  case declared =>
    intro m modified
    have named : m.table ∈ after.tableNames :=
      Diff.modified_sublist.subset (List.mem_map_of_mem modified)
    exact (Snapshot.table?_withTable (other m.table named)).symm
  case agree =>
    refine Planner.agrees_of_forall fun request member => ?_
    have named := Diff.table_of_mem_requests member
    let scope := Planner.scope { config, dialect, target := after } request.table
    have same : compileSql { scope with schema := after.withTable j table } request.expr =
        compileSql scope request.expr := compileSql_withTable valid newAfter (other _ named) _
    exact same.symm

theorem migrate_bindAll {additions : List (String × String)}
    (unused : ∀ request ∈ ({ config, dialect, target := after } : Planner).compiled
        ((Diff.between before after).requests dialect),
      ∀ addition ∈ additions, addition.1 ∉ request.expr.vars) :
    ({ config := config.bindAll additions } : Synthesizer).migrate before after dialect =
      ({ config } : Synthesizer).migrate before after dialect := by
  unfold migrate synthesize synthesisPlan
  congr 1
  symm
  refine (Planner.planRests_carryOut ?alike ?declared).same ?agree
  case alike => exact ⟨rfl, (config.dropCascade_bindAll additions).symm⟩
  case declared => exact fun _ _ => rfl
  case agree =>
    intro request member
    refine compileSql_eq_of_bindings request.expr rfl rfl rfl fun name occurs => ?_
    have other : ∀ addition ∈ additions, addition.1 ≠ name :=
      fun addition added named => unused request member addition added (named ▸ occurs)
    exact (Config.get?_bindAll other config).symm

end Synthesizer

/-- A migration by the usual compiler does not depend on a table that stands unchanged in both
snapshots, wherever it stands, and not on variables that are in no expression that is compiled. -/
theorem bystanders_leave_no_trace (before after : Snapshot) (dialect : Dialect) (config : Config) :
    (∀ (table : Table) (i j : Nat),
      after.validate = .ok () → (after.withTable j table).validate = .ok () →
      table.name ∉ before.tableNames → table.name ∉ after.tableNames →
      ({ config } : Synthesizer).migrate (before.withTable i table) (after.withTable j table)
          dialect =
        ({ config } : Synthesizer).migrate before after dialect) ∧
    ∀ additions : List (String × String),
      (∀ request ∈ ({ config, dialect, target := after } : Planner).compiled
          ((Diff.between before after).requests dialect),
        ∀ addition ∈ additions, addition.1 ∉ request.expr.vars) →
      ({ config := config.bindAll additions } : Synthesizer).migrate before after dialect =
        ({ config } : Synthesizer).migrate before after dialect := by
  refine ⟨fun table i j accepted enlarged newBefore newAfter => ?_, fun additions unused => ?_⟩
  · have valid := Snapshot.Valid.ofValidate enlarged
    have distinct := valid.fieldsDistinct table Snapshot.mem_withTable
    exact Synthesizer.migrate_withTable (.ofValidate accepted) distinct newBefore newAfter
  · exact Synthesizer.migrate_bindAll unused

/-- Items that are read only by the owner of their shop. -/
def guardedShopItems : Snapshot where
  tables := [
    { name := "shops"
      fields := [
        { name := "id", type := .uuid, nullable := false },
        { name := "owner"
          type := .text
          default := some (.computed (.call "lower" [.var "auth.uid"])) }] },
    { name := "items"
      fields := [
        { name := "shop"
          type := .uuid
          foreignKey := some { table := "shops", field := "id" } },
        { name := "id", type := .uuid, nullable := false, primaryKey := true }]
      access := { read := .expr (.compare .eq (.field "shop.owner") (.var "auth.uid")) } }]

/-- Sales of items, with a rule that has no SQL. -/
def itemSales : Table where
  name := "sales"
  fields := [
    { name := "item", type := .uuid, foreignKey := some { table := "items", field := "id" } },
    { name := "at", type := .datetime, default := some (.computed (.call "now" [])) }]
  access := { read := .expr (.compare .eq (.field "item.shop.owner") (.var "sales.reader")) }

/-- The sales stand before everything in the old snapshot, and between the shops and the items in
the new one. The variable of their rule does not matter either, whether it is bound or not. -/
theorem bystanders_leave_no_trace_sales :
    guardedShopItems.validate = .ok () ∧
    (guardedShopItems.withTable 1 itemSales).validate = .ok () ∧
    ({} : Synthesizer).migrate (shopItems.withTable 0 itemSales)
        (guardedShopItems.withTable 1 itemSales) .postgres =
      ({} : Synthesizer).migrate shopItems guardedShopItems .postgres ∧
    ({ config := ({} : Config).bindAll [("sales.reader", "'none'"), ("auth.role", "'guest'")] } :
        Synthesizer).migrate shopItems guardedShopItems .postgres =
      ({} : Synthesizer).migrate shopItems guardedShopItems .postgres ∧
    ∃ m, ({} : Synthesizer).migrate shopItems guardedShopItems .postgres = .ok m := by
  have accepted : guardedShopItems.validate = .ok () := by decide
  have enlarged : (guardedShopItems.withTable 1 itemSales).validate = .ok () := by decide
  obtain ⟨tables, bindings⟩ := bystanders_leave_no_trace shopItems guardedShopItems .postgres {}
  exact ⟨accepted, enlarged, tables itemSales 0 1 accepted enlarged (by decide) (by decide),
    bindings _ (by decide), _, rfl⟩

end SchemaDelta
