import Mathlib.Data.Set.Function
import SchemaDelta.Proofs.Codec.Snapshots

/-!
# Parts that were read

Every part of a snapshot that was read was itself read, or stands for a missing one. A writer whose
values are read back writes different ones differently, so it tells parts that were read apart, also
those of lists and of parts that may be missing.
-/

namespace SchemaDelta

namespace Json

/-- Something is what some value is read as. -/
def Readable {α : Type} (read : Json → Option α) (x : α) : Prop := ∃ value, read value = some x

section Writers

variable {α β γ : Type} {kind : α → Prop} {write : α → γ}

/-- Different things that were read are written differently. -/
theorem Restores.injOn {read : Json → Option α} {write : α → Json}
    (restores : Restores read write) : Set.InjOn write {x | Readable read x} := by
  rintro x ⟨value, readX⟩ y ⟨value', readY⟩ same
  have restored := restores value x readX
  rw [same, restores value' y readY] at restored
  exact (Option.some.inj restored).symm

/-- What the values that are written for the items of a list tell about them. -/
theorem map_eq_of_map_eq (what : α → β) {xs ys : List α}
    (tells : ∀ ⦃x y⦄, kind x → kind y → write x = write y → what x = what y)
    (eachX : ∀ x ∈ xs, kind x) (eachY : ∀ y ∈ ys, kind y) (same : xs.map write = ys.map write) :
    xs.map what = ys.map what := by
  induction xs generalizing ys with
  | nil =>
    obtain rfl := List.map_eq_nil_iff.mp same.symm
    rfl
  | cons x xs ih =>
    cases ys with
    | nil => cases same
    | cons y ys =>
      obtain ⟨kindX, othersX⟩ := List.forall_mem_cons.mp eachX
      obtain ⟨kindY, othersY⟩ := List.forall_mem_cons.mp eachY
      obtain ⟨first, others⟩ := List.cons.inj same
      rw [List.map_cons, List.map_cons, tells kindX kindY first, ih othersX othersY others]

theorem list_eq_of_map_eq (apart : Set.InjOn write {x | kind x}) {xs ys : List α}
    (eachX : ∀ x ∈ xs, kind x) (eachY : ∀ y ∈ ys, kind y) (same : xs.map write = ys.map write) :
    xs = ys := by
  have items := map_eq_of_map_eq id (fun _ _ kindX kindY => apart kindX kindY)
    eachX eachY same
  rwa [List.map_id, List.map_id] at items

/-- What the value that is written for something that may be missing tells about it. -/
theorem option_map_eq_of_map_eq (what : α → β) {x? y? : Option α}
    (tells : ∀ ⦃x y⦄, kind x → kind y → write x = write y → what x = what y)
    (eachX : ∀ x ∈ x?, kind x) (eachY : ∀ y ∈ y?, kind y) (same : x?.map write = y?.map write) :
    x?.map what = y?.map what := by
  cases x? with
  | none =>
    obtain rfl := Option.map_eq_none_iff.mp same.symm
    rfl
  | some x =>
    cases y? with
    | none => cases same
    | some y => exact congrArg some (tells (eachX x rfl) (eachY y rfl) (Option.some.inj same))

theorem option_eq_of_map_eq (apart : Set.InjOn write {x | kind x}) {x? y? : Option α}
    (eachX : ∀ x ∈ x?, kind x) (eachY : ∀ y ∈ y?, kind y) (same : x?.map write = y?.map write) :
    x? = y? := by
  have item := option_map_eq_of_map_eq id (fun _ _ kindX kindY => apart kindX kindY)
    eachX eachY same
  simpa using item

/-- Nothing is told apart from something that is not written as null. -/
theorem orNull_injOn {write : α → Json} (apart : Set.InjOn write {x | kind x})
    (present : ∀ x, write x ≠ .null) :
    Set.InjOn (fun x? : Option α => (x?.map write).getD .null) {x? | ∀ x ∈ x?, kind x} := by
  intro x? eachX y? eachY same
  cases x? with
  | none =>
    cases y? with
    | none => rfl
    | some y => exact absurd same.symm (present y)
  | some x =>
    cases y? with
    | none => exact absurd same (present x)
    | some y => rw [apart (eachX x rfl) (eachY y rfl) same]

end Writers

/-! ## Readers of parts -/

section Readers

variable {α : Type} {read : Json → Option α} {fields : List (String × Json)} {name : String}

theorem readable_of_listOf? {value : Json} {xs : List α} (made : listOf? read value = some xs) :
    ∀ x ∈ xs, Readable read x := by
  intro x member
  obtain ⟨items, -, made⟩ := Option.bind_eq_some_iff.mp made
  obtain ⟨item, -, made⟩ := exists_left_of_forall₂ (mapM_eq_some_iff.mp made) member
  exact ⟨item, made⟩

theorem readable_of_fieldOr? {missing : Option α} {x : α}
    (made : fieldOr? missing read fields name = some x)
    (usual : ∀ x, missing = some x → Readable read x) : Readable read x :=
  (fieldOr?_eq_some made).elim (usual x) id

/-- A part that must be given. -/
theorem readable_of_required {x : α} (made : fieldOr? none read fields name = some x) :
    Readable read x := by
  obtain missing | readable := fieldOr?_eq_some made
  · cases missing
  · exact readable

/-- The items of a list that must be given. -/
theorem readable_of_required_list {xs : List α}
    (made : fieldOr? none (listOf? read) fields name = some xs) : ∀ x ∈ xs, Readable read x := by
  obtain ⟨value, listed⟩ := readable_of_required made
  exact readable_of_listOf? listed

/-- A part that may be missing. -/
theorem readable_of_fieldOr?_option {read' : Json → Option (Option α)} {x? : Option α}
    (made : fieldOr? (some none) read' fields name = some x?)
    (given : ∀ value x, read' value = some (some x) → Readable read x) :
    ∀ x ∈ x?, Readable read x := by
  rintro x rfl
  obtain missing | ⟨value, made⟩ := fieldOr?_eq_some made
  · cases missing
  · exact given value x made

theorem readable_of_optional? {value : Json} {x : α} (made : optional? read value = some (some x)) :
    Readable read x := by
  unfold optional? at made
  split at made
  · cases made
  · obtain ⟨y, made, same⟩ := Option.map_eq_some_iff.mp made
    cases same
    exact ⟨_, made⟩

end Readers

end Json

open Json

/-! ## Snapshots -/

/-- The parts of a field were read. -/
structure Field.Parts (field : Field) : Prop where
  type : Readable FieldType.ofJson? field.type
  default : ∀ value ∈ field.default, Readable DefaultValue.ofJson? value
  foreignKey : ∀ key ∈ field.foreignKey, Readable ForeignKey.ofJson? key

theorem Field.parts_of_readable {field : Field} (readable : Readable ofJson? field) :
    field.Parts := by
  obtain ⟨value, made⟩ := readable
  simp only [ofJson?, Option.bind_eq_bind, Option.bind_eq_some_iff] at made
  obtain ⟨fields, -, name, -, type, madeType, nullable, -, primaryKey, -, default, madeDefault,
    foreignKey, madeKey, made⟩ := made
  cases made
  refine ⟨readable_of_required madeType, ?default, ?foreignKey⟩
  case default =>
    refine readable_of_fieldOr?_option madeDefault fun value x made => ?_
    obtain ⟨y, made, same⟩ := Option.map_eq_some_iff.mp made
    cases same
    exact ⟨value, made⟩
  case foreignKey =>
    exact readable_of_fieldOr?_option madeKey fun value x => readable_of_optional?

theorem Condition.readable_permissive : Readable ofJson? permissive := ⟨.bool true, rfl⟩

/-- The rules of a table were read, or say what missing ones do. -/
def AccessControl.Parts (access : AccessControl) : Prop :=
  ∀ operation, Readable Condition.ofJson? (access.get operation)

theorem AccessControl.parts_of_readable {access : AccessControl}
    (readable : Readable ofJson? access) : access.Parts := by
  obtain ⟨value, made⟩ := readable
  simp only [ofJson?, Option.bind_eq_bind, Option.bind_eq_some_iff] at made
  obtain ⟨fields, -, read, madeRead, create, madeCreate, update, madeUpdate, delete, madeDelete,
    made⟩ := made
  cases made
  have rule : ∀ {name condition}, fieldOr? (some .permissive) Condition.ofJson? fields name =
      some condition → Readable Condition.ofJson? condition :=
    fun made => readable_of_fieldOr? made (by rintro _ ⟨⟩; exact Condition.readable_permissive)
  intro operation
  cases operation with
  | read => exact rule madeRead
  | create => exact rule madeCreate
  | update => exact rule madeUpdate
  | delete => exact rule madeDelete

/-- The parts of a table were read. -/
structure Table.Parts (table : Table) : Prop where
  fields : ∀ field ∈ table.fields, Readable Field.ofJson? field
  access : table.access.Parts

theorem Table.parts_of_readable {table : Table} (readable : Readable ofJson? table) :
    table.Parts := by
  obtain ⟨value, made⟩ := readable
  simp only [ofJson?, Option.bind_eq_bind, Option.bind_eq_some_iff] at made
  obtain ⟨given, -, name, -, fields, madeFields, access, madeAccess, made⟩ := made
  cases made
  refine ⟨readable_of_required_list madeFields, ?_⟩
  obtain missing | readable := fieldOr?_eq_some madeAccess
  · obtain rfl := Option.some.inj missing
    intro operation
    cases operation <;> exact Condition.readable_permissive
  · exact AccessControl.parts_of_readable readable

theorem Snapshot.tables_readable {snapshot : Snapshot} (readable : Readable ofJson? snapshot) :
    ∀ table ∈ snapshot.tables, Readable Table.ofJson? table := by
  obtain ⟨value, made⟩ := readable
  simp only [ofJson?, Option.bind_eq_bind, Option.bind_eq_some_iff] at made
  obtain ⟨fields, -, tables, madeTables, made⟩ := made
  cases made
  exact readable_of_required_list madeTables

end SchemaDelta
