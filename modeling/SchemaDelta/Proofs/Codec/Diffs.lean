import SchemaDelta.Diff.Codec
import SchemaDelta.Proofs.Codec.Readable
import SchemaDelta.Proofs.Diff
import SchemaDelta.Proofs.Json.Printed

/-!
# Printed diffs

A printed diff tells everything about the diff of snapshots that were read, down to the values in
expressions, but for one thing: in the change of a default it has `null` both for no default and for
the default that is `NULL`. So two diffs are printed alike exactly if they are the same up to that.
-/

namespace SchemaDelta

open Json

/-! ## What is printed -/

/-- A default as it is printed in a change, where none is not told from `NULL`. -/
def DefaultValue.asPrinted (value : Option DefaultValue) : DefaultValue :=
  value.getD (.constant .null)

namespace Change

/-- The change between what two values are taken for. -/
def map {α β : Type} (f : α → β) (change : Change α) : Change β := ⟨f change.before, f change.after⟩

/-- Both values of a change are of a kind. -/
def Both {α : Type} (kind : α → Prop) (change : Change α) : Prop :=
  kind change.before ∧ kind change.after

end Change

namespace FieldModification

/-- A modification with the change of the default as it is printed. -/
def asPrinted (m : FieldModification) : FieldModification :=
  { m with default := m.default.map (Change.map fun value => some (DefaultValue.asPrinted value)) }

/-- The values in a modification were read. -/
structure Parts (m : FieldModification) : Prop where
  type : ∀ change ∈ m.type, change.Both (Readable FieldType.ofJson?)
  default : ∀ change ∈ m.default,
    change.Both fun value => ∀ x ∈ value, Readable DefaultValue.ofJson? x
  foreignKey : ∀ change ∈ m.foreignKey,
    change.Both fun value => ∀ x ∈ value, Readable ForeignKey.ofJson? x

end FieldModification

namespace TableModification

/-- A modification of a table with the changes of defaults as they are printed. -/
def asPrinted (m : TableModification) : TableModification :=
  { m with fieldsModified := m.fieldsModified.map FieldModification.asPrinted }

/-- The fields in a modification of a table were read. -/
structure Parts (m : TableModification) : Prop where
  fieldsAdded : ∀ field ∈ m.fieldsAdded, Readable Field.ofJson? field
  fieldsRemoved : ∀ field ∈ m.fieldsRemoved, Readable Field.ofJson? field
  fieldsModified : ∀ m' ∈ m.fieldsModified, m'.Parts

end TableModification

/-- The rules in a change were read. -/
def AccessChange.Parts (change : AccessChange) : Prop :=
  ∀ operation, ∀ rule ∈ change.get operation, rule.Both (Readable Condition.ofJson?)

namespace Diff

/-- A diff with the changes of defaults as they are printed. -/
def asPrinted (diff : Diff) : Diff :=
  { diff with modified := diff.modified.map TableModification.asPrinted }

/-- The tables and rules in a diff were read. -/
structure Parts (diff : Diff) : Prop where
  added : ∀ table ∈ diff.added, Readable Table.ofJson? table
  removed : ∀ table ∈ diff.removed, Readable Table.ofJson? table
  modified : ∀ m ∈ diff.modified, m.Parts
  access : ∀ change ∈ diff.access, change.Parts

end Diff

/-! ## Where the parts come from -/

theorem Change.both_of_between {α : Type} [BEq α] (kind : α → Prop) {before after : α}
    (kindBefore : kind before) (kindAfter : kind after) :
    ∀ change ∈ between before after, change.Both kind := by
  rintro change made
  obtain ⟨-, rfl⟩ := between_eq_some_iff.mp made
  exact ⟨kindBefore, kindAfter⟩

theorem FieldModification.parts_between {before after : Field} (partsBefore : before.Parts)
    (partsAfter : after.Parts) : (between before after).Parts where
  type := Change.both_of_between (Readable _) partsBefore.type partsAfter.type
  default := Change.both_of_between (fun value => ∀ x ∈ value, Readable _ x)
    partsBefore.default partsAfter.default
  foreignKey := Change.both_of_between (fun value => ∀ x ∈ value, Readable _ x)
    partsBefore.foreignKey partsAfter.foreignKey

theorem TableModification.parts_between {before after : Table} (partsBefore : before.Parts)
    (partsAfter : after.Parts) : (between before after).Parts where
  fieldsAdded := fun field member => partsAfter.fields field (List.mem_of_mem_filter member)
  fieldsRemoved := fun field member => partsBefore.fields field (List.mem_of_mem_filter member)
  fieldsModified := by
    intro m member
    obtain ⟨field, declared, made⟩ := List.mem_filterMap.mp member
    obtain ⟨old, known, made⟩ := Option.bind_eq_some_iff.mp made
    obtain ⟨-, rfl⟩ := FieldModification.between?_eq_some_iff.mp made
    have declaredOld : old ∈ before.fields := List.mem_reverse.mp (List.mem_of_find?_eq_some known)
    exact FieldModification.parts_between
      (Field.parts_of_readable (partsBefore.fields old declaredOld))
      (Field.parts_of_readable (partsAfter.fields field declared))

theorem AccessChange.parts_between {table : String} {before after : AccessControl}
    (partsBefore : before.Parts) (partsAfter : after.Parts) :
    (between table before after).Parts := by
  intro operation
  cases operation with
  | read => exact Change.both_of_between _ (partsBefore .read) (partsAfter .read)
  | create => exact Change.both_of_between _ (partsBefore .create) (partsAfter .create)
  | update => exact Change.both_of_between _ (partsBefore .update) (partsAfter .update)
  | delete => exact Change.both_of_between _ (partsBefore .delete) (partsAfter .delete)

theorem AccessChange.parts_ofNewTable {table : Table} (parts : table.access.Parts) :
    (ofNewTable table).Parts := by
  intro operation rule recorded
  have rules := parts operation
  cases operation <;> cases recorded <;> exact ⟨Condition.readable_permissive, rules⟩

theorem Diff.parts_between {before after : Snapshot}
    (readBefore : Readable Snapshot.ofJson? before) (readAfter : Readable Snapshot.ofJson? after) :
    (between before after).Parts where
  added := fun table member =>
    Snapshot.tables_readable readAfter table (List.mem_of_mem_filter member)
  removed := fun table member =>
    Snapshot.tables_readable readBefore table (List.mem_of_mem_filter member)
  modified := by
    intro m member
    obtain ⟨table, declared, made⟩ := List.mem_filterMap.mp member
    obtain ⟨old, known, made⟩ := Option.bind_eq_some_iff.mp made
    obtain ⟨-, rfl⟩ := TableModification.between?_eq_some_iff.mp made
    have declaredOld : old ∈ before.tables := List.mem_reverse.mp (List.mem_of_find?_eq_some known)
    exact TableModification.parts_between
      (Table.parts_of_readable (Snapshot.tables_readable readBefore old declaredOld))
      (Table.parts_of_readable (Snapshot.tables_readable readAfter table declared))
  access := by
    intro change member
    obtain ⟨table, declared, made⟩ := List.mem_filterMap.mp member
    have parts := (Table.parts_of_readable (Snapshot.tables_readable readAfter table declared)).access
    cases known : before.lastTable? table.name with
    | none =>
      rw [known] at made
      obtain rfl := Option.some.inj made
      exact AccessChange.parts_ofNewTable parts
    | some old =>
      rw [known] at made
      obtain ⟨-, rfl⟩ := AccessChange.between?_eq_some_iff.mp made
      have declaredOld : old ∈ before.tables :=
        List.mem_reverse.mp (List.mem_of_find?_eq_some known)
      exact AccessChange.parts_between
        (Table.parts_of_readable (Snapshot.tables_readable readBefore old declaredOld)).access parts

/-! ## Changes -/

namespace Change

variable {α β : Type} {kind : α → Prop}

theorem map_injOn {f : α → β} (apart : Set.InjOn f {x | kind x}) :
    Set.InjOn (map f) {change | change.Both kind} := by
  rintro ⟨before, after⟩ ⟨kindBefore, kindAfter⟩ ⟨before', after'⟩ ⟨kindBefore', kindAfter'⟩ same
  obtain ⟨sameBefore, sameAfter⟩ := Change.mk.inj same
  obtain rfl : before = before' := apart kindBefore kindBefore' sameBefore
  obtain rfl : after = after' := apart kindAfter kindAfter' sameAfter
  rfl

theorem toJson_injOn {write : α → Json} (apart : Set.InjOn write {x | kind x}) :
    Set.InjOn (toJson write) {change | change.Both kind} := by
  intro change kinds change' kinds' same
  simp only [toJson, Json.object.injEq, List.cons.injEq, Prod.mk.injEq, true_and, and_true] at same
  exact map_injOn apart kinds kinds' (by rw [map, map, same.1, same.2])

end Change

theorem ForeignKey.toJson_ne_null (key : ForeignKey) : key.toJson ≠ .null := nofun

namespace DefaultValue

theorem toJson_asPrinted (value : Option DefaultValue) :
    (asPrinted value).toJson = (value.map toJson).getD .null := by
  cases value <;> rfl

theorem readable_asPrinted {value : Option DefaultValue}
    (each : ∀ x ∈ value, Readable ofJson? x) : Readable ofJson? (asPrinted value) := by
  cases value with
  | none => exact ⟨.null, rfl⟩
  | some x => exact each x rfl

end DefaultValue

/-! ## Modifications -/

namespace FieldModification

theorem toJson_asPrinted (m : FieldModification) : m.asPrinted.toJson = m.toJson := by
  have default : Json.optionalMember (Change.optionToJson DefaultValue.toJson) "default"
      m.asPrinted.default =
        Json.optionalMember (Change.optionToJson DefaultValue.toJson) "default" m.default := by
    unfold asPrinted
    cases m.default with
    | none => rfl
    | some change =>
      obtain ⟨before, after⟩ := change
      cases before <;> cases after <;> rfl
  unfold toJson
  rw [default]
  rfl

/-- The members of a printed modification tell its parts. -/
theorem parts_of_toJson_eq {m n : FieldModification} (same : m.toJson = n.toJson) :
    m.name = n.name ∧
    m.type.map (Change.toJson FieldType.toJson) = n.type.map (Change.toJson FieldType.toJson) ∧
    m.nullable.map (Change.toJson Json.bool) = n.nullable.map (Change.toJson Json.bool) ∧
    m.primaryKey.map (Change.toJson Json.bool) = n.primaryKey.map (Change.toJson Json.bool) ∧
    m.default.map (Change.optionToJson DefaultValue.toJson) =
      n.default.map (Change.optionToJson DefaultValue.toJson) ∧
    m.foreignKey.map (Change.optionToJson ForeignKey.toJson) =
      n.foreignKey.map (Change.optionToJson ForeignKey.toJson) := by
  have members (name : String) := congrArg (List.lookup name) (Json.object.inj same)
  have name := members "name"
  have type := members "type"
  have nullable := members "nullable"
  have primaryKey := members "primary_key"
  have default := members "default"
  have foreignKey := members "foreign_key"
  simp only [List.lookup_append, List.lookup_cons, List.lookup_nil, lookup_optionalMember,
    lookup_optionalMember_of_ne, ne_eq, String.reduceEq, not_false_eq_true, beq_self_eq_true,
    String.reduceBEq, Option.none_or, Option.or_none, Option.some.injEq,
    Json.string.injEq] at name type nullable primaryKey default foreignKey
  exact ⟨name, type, nullable, primaryKey, default, foreignKey⟩

theorem bool_injOn : Set.InjOn Json.bool {_value | True} := fun _ _ _ _ same => Json.bool.inj same

/-- A printed change of a default tells both defaults as they are printed. -/
theorem asPrinted_eq_of_optionToJson_eq {change change' : Change (Option DefaultValue)}
    (parts : change.Both fun value => ∀ x ∈ value, Readable DefaultValue.ofJson? x)
    (parts' : change'.Both fun value => ∀ x ∈ value, Readable DefaultValue.ofJson? x)
    (same : change.optionToJson DefaultValue.toJson = change'.optionToJson DefaultValue.toJson) :
    change.map (fun value => some (DefaultValue.asPrinted value)) =
      change'.map fun value => some (DefaultValue.asPrinted value) := by
  have written (change : Change (Option DefaultValue)) : change.optionToJson DefaultValue.toJson =
      (change.map DefaultValue.asPrinted).toJson DefaultValue.toJson := by
    rw [Change.optionToJson, Change.toJson, ← DefaultValue.toJson_asPrinted,
      ← DefaultValue.toJson_asPrinted]
    rfl
  rw [written, written] at same
  have values := Change.toJson_injOn DefaultValue.restores.injOn
    ⟨DefaultValue.readable_asPrinted parts.1, DefaultValue.readable_asPrinted parts.2⟩
    ⟨DefaultValue.readable_asPrinted parts'.1, DefaultValue.readable_asPrinted parts'.2⟩ same
  exact congrArg (Change.map some) values

/-- A printed modification tells all but whether a default in a change is missing. -/
theorem asPrinted_eq_of_toJson_eq {m n : FieldModification} (partsM : m.Parts) (partsN : n.Parts)
    (same : m.toJson = n.toJson) : m.asPrinted = n.asPrinted := by
  obtain ⟨name, type, nullable, primaryKey, default, foreignKey⟩ := parts_of_toJson_eq same
  have sameType : m.type = n.type :=
    option_eq_of_map_eq (Change.toJson_injOn FieldType.restores.injOn) partsM.type partsN.type type
  have sameNullable : m.nullable = n.nullable :=
    option_eq_of_map_eq (Change.toJson_injOn bool_injOn) (fun _ _ => ⟨trivial, trivial⟩)
      (fun _ _ => ⟨trivial, trivial⟩) nullable
  have samePrimaryKey : m.primaryKey = n.primaryKey :=
    option_eq_of_map_eq (Change.toJson_injOn bool_injOn) (fun _ _ => ⟨trivial, trivial⟩)
      (fun _ _ => ⟨trivial, trivial⟩) primaryKey
  have sameDefault := option_map_eq_of_map_eq
    (Change.map fun value => some (DefaultValue.asPrinted value))
    (fun _ _ => asPrinted_eq_of_optionToJson_eq) partsM.default partsN.default default
  have sameForeignKey : m.foreignKey = n.foreignKey :=
    option_eq_of_map_eq
      (Change.toJson_injOn (orNull_injOn ForeignKey.restores.injOn ForeignKey.toJson_ne_null))
      partsM.foreignKey partsN.foreignKey foreignKey
  unfold asPrinted
  rw [name, sameType, sameNullable, samePrimaryKey, sameDefault, sameForeignKey]

end FieldModification

/-! ## Tables and rules -/

namespace TableModification

theorem toJson_asPrinted (m : TableModification) : m.asPrinted.toJson = m.toJson := by
  have fields : FieldModification.toJson ∘ FieldModification.asPrinted =
      FieldModification.toJson := funext FieldModification.toJson_asPrinted
  unfold toJson asPrinted
  rw [List.map_map, fields]

theorem asPrinted_eq_of_toJson_eq {m n : TableModification} (partsM : m.Parts) (partsN : n.Parts)
    (same : m.toJson = n.toJson) : m.asPrinted = n.asPrinted := by
  simp only [toJson, Json.object.injEq, List.cons.injEq, Prod.mk.injEq, true_and, and_true,
    Json.string.injEq, Json.array.injEq, Json.bool.injEq] at same
  obtain ⟨table, added, removed, modified, access⟩ := same
  have sameAdded : m.fieldsAdded = n.fieldsAdded :=
    list_eq_of_map_eq Field.restores.injOn partsM.fieldsAdded partsN.fieldsAdded added
  have sameRemoved : m.fieldsRemoved = n.fieldsRemoved :=
    list_eq_of_map_eq Field.restores.injOn partsM.fieldsRemoved partsN.fieldsRemoved removed
  have sameModified := map_eq_of_map_eq FieldModification.asPrinted
    (fun _ _ => FieldModification.asPrinted_eq_of_toJson_eq) partsM.fieldsModified
    partsN.fieldsModified modified
  unfold asPrinted
  rw [table, sameAdded, sameRemoved, sameModified, access]

end TableModification

namespace AccessChange

theorem members_eq (change : AccessChange) :
    (change.changes.map fun (operation, c) => (operation.name, c.toJson Condition.toJson)) =
      Json.optionalMember (Change.toJson Condition.toJson) "read" change.read ++
      Json.optionalMember (Change.toJson Condition.toJson) "create" change.create ++
      Json.optionalMember (Change.toJson Condition.toJson) "update" change.update ++
      Json.optionalMember (Change.toJson Condition.toJson) "delete" change.delete := by
  obtain ⟨table, read, create, update, delete⟩ := change
  cases read <;> cases create <;> cases update <;> cases delete <;> rfl

theorem toJson_injOn : Set.InjOn toJson {change | change.Parts} := by
  intro change parts change' parts' same
  rw [toJson, toJson, members_eq, members_eq] at same
  obtain ⟨tables, rules⟩ := List.cons.inj (Json.object.inj same)
  have table : change.table = change'.table := Json.string.inj (Prod.mk.inj tables).2
  have members (name : String) := congrArg (List.lookup name) rules
  have rule (operation : Operation)
      (written : (change.get operation).map (Change.toJson Condition.toJson) =
        (change'.get operation).map (Change.toJson Condition.toJson)) :
      change.get operation = change'.get operation :=
    option_eq_of_map_eq (Change.toJson_injOn Condition.restores.injOn) (parts operation)
      (parts' operation) written
  have read := members "read"
  have create := members "create"
  have update := members "update"
  have delete := members "delete"
  simp only [List.lookup_append, lookup_optionalMember, lookup_optionalMember_of_ne, ne_eq,
    String.reduceEq, not_false_eq_true, Option.none_or, Option.or_none]
    at read create update delete
  have sameRead := rule .read read
  have sameCreate := rule .create create
  have sameUpdate := rule .update update
  have sameDelete := rule .delete delete
  cases change
  cases change'
  congr

end AccessChange

/-! ## Diffs -/

namespace Diff

variable {diff diff' : Diff}

theorem toJson_asPrinted (diff : Diff) : diff.asPrinted.toJson = diff.toJson := by
  have tables : TableModification.toJson ∘ TableModification.asPrinted =
      TableModification.toJson := funext TableModification.toJson_asPrinted
  unfold toJson asPrinted
  rw [List.map_map, tables]

theorem asPrinted_eq_of_toJson_eq (parts : diff.Parts) (parts' : diff'.Parts)
    (same : diff.toJson = diff'.toJson) : diff.asPrinted = diff'.asPrinted := by
  simp only [toJson, AccessChange.listToJson, Json.object.injEq, List.cons.injEq, Prod.mk.injEq,
    true_and, and_true, Json.array.injEq] at same
  obtain ⟨⟨added, removed, modified⟩, access⟩ := same
  have sameAdded : diff.added = diff'.added :=
    list_eq_of_map_eq Table.restores.injOn parts.added parts'.added added
  have sameRemoved : diff.removed = diff'.removed :=
    list_eq_of_map_eq Table.restores.injOn parts.removed parts'.removed removed
  have sameModified := map_eq_of_map_eq TableModification.asPrinted
    (fun _ _ => TableModification.asPrinted_eq_of_toJson_eq) parts.modified parts'.modified modified
  have sameAccess : diff.access = diff'.access :=
    list_eq_of_map_eq AccessChange.toJson_injOn parts.access parts'.access access
  unfold asPrinted
  rw [sameAdded, sameRemoved, sameModified, sameAccess]

/-- Two diffs are printed alike exactly if they are the same as printed. -/
theorem pretty_eq_iff (parts : diff.Parts) (parts' : diff'.Parts) :
    diff.toJson.pretty = diff'.toJson.pretty ↔ diff.asPrinted = diff'.asPrinted := by
  constructor
  · intro same
    exact asPrinted_eq_of_toJson_eq parts parts' (Json.pretty_injective same)
  · intro same
    rw [← toJson_asPrinted diff, ← toJson_asPrinted diff', same]

end Diff

/-! ## Defaults that are `NULL` -/

/-- A default is not `NULL`: there is none, or another one. -/
def DefaultValue.NotNull (value : Option DefaultValue) : Prop := value ≠ some (.constant .null)

theorem DefaultValue.asPrinted_injOn : Set.InjOn asPrinted {value | NotNull value} := by
  intro value notNull value' notNull' same
  cases value with
  | none =>
    cases value' with
    | none => rfl
    | some x => exact absurd (congrArg some same.symm) notNull'
  | some x =>
    cases value' with
    | none => exact absurd (congrArg some same) notNull
    | some y => exact congrArg some same

/-- No change of a default is from or to `NULL`. -/
def FieldModification.NotNull (m : FieldModification) : Prop :=
  ∀ change ∈ m.default, change.Both DefaultValue.NotNull

/-- No default of the table changes from or to `NULL`. -/
def TableModification.NotNull (m : TableModification) : Prop := ∀ m' ∈ m.fieldsModified, m'.NotNull

/-- No default changes from or to `NULL`. -/
def Diff.NotNull (diff : Diff) : Prop := ∀ m ∈ diff.modified, m.NotNull

theorem FieldModification.asPrinted_injOn : Set.InjOn asPrinted {m | m.NotNull} := by
  rintro ⟨name, type, nullable, primaryKey, default, foreignKey⟩ notNull
    ⟨name', type', nullable', primaryKey', default', foreignKey'⟩ notNull' same
  obtain ⟨rfl, rfl, rfl, rfl, sameDefault, rfl⟩ := FieldModification.mk.inj same
  have apart : Set.InjOn (fun value => some (DefaultValue.asPrinted value))
      {value | DefaultValue.NotNull value} :=
    (Option.some_injective _).comp_injOn DefaultValue.asPrinted_injOn
  obtain rfl : default = default' :=
    option_eq_of_map_eq (Change.map_injOn apart) notNull notNull' sameDefault
  rfl

theorem TableModification.asPrinted_injOn : Set.InjOn asPrinted {m | m.NotNull} := by
  rintro ⟨table, added, removed, modified, access⟩ notNull
    ⟨table', added', removed', modified', access'⟩ notNull' same
  obtain ⟨rfl, rfl, rfl, sameModified, rfl⟩ := TableModification.mk.inj same
  obtain rfl : modified = modified' :=
    list_eq_of_map_eq FieldModification.asPrinted_injOn notNull notNull' sameModified
  rfl

theorem Diff.asPrinted_injOn : Set.InjOn asPrinted {diff | diff.NotNull} := by
  rintro ⟨added, removed, modified, access⟩ notNull
    ⟨added', removed', modified', access'⟩ notNull' same
  obtain ⟨rfl, rfl, sameModified, rfl⟩ := Diff.mk.inj same
  obtain rfl : modified = modified' :=
    list_eq_of_map_eq TableModification.asPrinted_injOn notNull notNull' sameModified
  rfl

/-- The diffs of snapshots that were read are printed alike exactly if they are the same but for
defaults that are missing in one and `NULL` in the other. So they are the same if no change of a
default is from or to `NULL`. -/
theorem diffs_printed_alike_differ_in_null_defaults {before after before' after' : Snapshot}
    (readBefore : Readable Snapshot.ofJson? before) (readAfter : Readable Snapshot.ofJson? after)
    (readBefore' : Readable Snapshot.ofJson? before')
    (readAfter' : Readable Snapshot.ofJson? after') :
    ((Diff.between before after).toJson.pretty = (Diff.between before' after').toJson.pretty ↔
      (Diff.between before after).asPrinted = (Diff.between before' after').asPrinted) ∧
    ((Diff.between before after).NotNull → (Diff.between before' after').NotNull →
      ((Diff.between before after).toJson.pretty = (Diff.between before' after').toJson.pretty ↔
        Diff.between before after = Diff.between before' after')) := by
  have printed := Diff.pretty_eq_iff (Diff.parts_between readBefore readAfter)
    (Diff.parts_between readBefore' readAfter')
  refine ⟨printed, fun notNull notNull' => ?_⟩
  rw [printed]
  exact Diff.asPrinted_injOn.eq_iff notNull notNull'

/-- Notes with a text that has no default. -/
def undecidedNotes : Snapshot where
  tables := [{ name := "notes", fields := [{ name := "body", type := .text }] }]

/-- Notes with a text that is `NULL` by default. -/
def vacantNotes : Snapshot where
  tables := [
    { name := "notes"
      fields := [{ name := "body", type := .text, default := some (.constant .null) }] }]

/-- Notes with a text that is empty by default. -/
def blankNotes : Snapshot where
  tables := [
    { name := "notes"
      fields := [{ name := "body", type := .text, default := some (.constant (.text "")) }] }]

theorem undecidedNotes_readable : Readable Snapshot.ofJson? undecidedNotes :=
  ⟨undecidedNotes.toJson, rfl⟩

theorem blankNotes_readable : Readable Snapshot.ofJson? blankNotes := ⟨blankNotes.toJson, rfl⟩

/-- Whether each column whose default changes has one before. -/
def Diff.formerDefaults (diff : Diff) : List Bool :=
  diff.modified.flatMap fun m => m.fieldsModified.filterMap fun m' =>
    m'.default.map fun change => change.before.isSome

/-- An empty text that becomes the default is printed otherwise than one that ceases to be it. -/
theorem diffs_printed_alike_differ_in_null_defaults_notes :
    (Diff.between undecidedNotes blankNotes).toJson.pretty ≠
      (Diff.between blankNotes undecidedNotes).toJson.pretty := by
  have given : (Diff.between undecidedNotes blankNotes).NotNull :=
    List.forall_mem_singleton.mpr (List.forall_mem_singleton.mpr (by
      rintro change ⟨⟩
      exact ⟨nofun, nofun⟩))
  have taken : (Diff.between blankNotes undecidedNotes).NotNull :=
    List.forall_mem_singleton.mpr (List.forall_mem_singleton.mpr (by
      rintro change ⟨⟩
      exact ⟨nofun, nofun⟩))
  rw [ne_eq, (diffs_printed_alike_differ_in_null_defaults undecidedNotes_readable
    blankNotes_readable blankNotes_readable undecidedNotes_readable).2 given taken]
  intro same
  exact absurd (congrArg Diff.formerDefaults same) (by decide)

/-- A `NULL` that becomes the default is printed like one that ceases to be it. -/
theorem different_diffs_are_printed_alike :
    undecidedNotes.validate = .ok () ∧ vacantNotes.validate = .ok () ∧
    Snapshot.ofJson? undecidedNotes.toJson = some undecidedNotes ∧
    Snapshot.ofJson? vacantNotes.toJson = some vacantNotes ∧
    (Diff.between undecidedNotes vacantNotes).toJson.pretty =
      (Diff.between vacantNotes undecidedNotes).toJson.pretty ∧
    Diff.between undecidedNotes vacantNotes ≠ Diff.between vacantNotes undecidedNotes := by
  refine ⟨by decide, by decide, rfl, rfl, congrArg Json.pretty rfl, fun same => ?_⟩
  exact absurd (congrArg Diff.formerDefaults same) (by decide)

end SchemaDelta
