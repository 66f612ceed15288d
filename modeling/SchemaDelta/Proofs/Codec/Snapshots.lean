import SchemaDelta.Proofs.Codec.Expressions
import SchemaDelta.Schema.Codec

/-!
# Snapshots are read back as they were written

Whatever a reader has made of some value, the writer of its kind turns into a value that the reader
makes the same of. This holds of the parts of a snapshot one after the other, from names and flags
up to the snapshot. It does not hold of everything that can be written, such as a type that is not
known but is called like a known one: there is no value that it is read from.
-/

namespace SchemaDelta

namespace Json

/-- Whatever can be read is read back when it is written. -/
def Restores {α : Type} (read : Json → Option α) (write : α → Json) : Prop :=
  ∀ value x, read value = some x → read (write x) = some x

section Parts

variable {α : Type} {read : Json → Option α} {write : α → Json} {name : String}

theorem restores_listOf? (restores : Restores read write) :
    Restores (listOf? read) fun xs => .array (xs.map write) := by
  intro value xs made
  obtain ⟨items, -, made⟩ := Option.bind_eq_some_iff.mp made
  have restored : (xs.map write).mapM read = some xs := by
    rw [mapM_eq_some_iff, List.forall₂_map_left_iff, List.forall₂_same]
    intro x member
    obtain ⟨item, -, made⟩ := exists_left_of_forall₂ (mapM_eq_some_iff.mp made) member
    exact restores item x made
  exact restored

/-- What is not written as null is read back as an optional part. -/
theorem optional?_write (restores : Restores read write) (present : ∀ x, write x ≠ .null)
    {value : Json} {x : α} (made : optional? read value = some (some x)) :
    optional? read (write x) = some (some x) := by
  have restored : read (write x) = some x := by
    unfold optional? at made
    split at made
    · cases made
    · obtain ⟨y, made, same⟩ := Option.map_eq_some_iff.mp made
      cases same
      exact restores _ _ made
  unfold optional?
  split
  · exact absurd ‹_› (present x)
  · rw [restored, Option.map_some]

end Parts

section Fields

variable {α : Type} {read : Json → Option α} {write : α → Json} {missing : Option α}
  {name : String} {fields members : List (String × Json)}

/-- A field of a record is missing, or it was read from some value. -/
theorem fieldOr?_eq_some {x : α} (made : fieldOr? missing read fields name = some x) :
    missing = some x ∨ ∃ value, read value = some x := by
  unfold fieldOr? at made
  split at made
  · exact .inr ⟨_, made⟩
  · exact .inl made

/-- What a field of a record gives is read back when it is written. -/
theorem restored_of_fieldOr? (restores : Restores read write) {x : α}
    (made : fieldOr? missing read fields name = some x)
    (usual : ∀ x, missing = some x → read (write x) = some x) : read (write x) = some x := by
  obtain missing | ⟨value, made⟩ := fieldOr?_eq_some made
  · exact usual x missing
  · exact restores value x made

theorem fieldOr?_of_lookup {value : Json} (given : members.lookup name = some value) :
    fieldOr? missing read members name = read value := by
  rw [fieldOr?, given]

/-- A field that is written unless it has no value is read back. -/
theorem fieldOr?_optionalMember {read : Json → Option (Option α)}
    (restores : ∀ value x, read value = some (some x) → read (write x) = some (some x))
    {x? : Option α} (made : fieldOr? (some none) read fields name = some x?)
    (given : members.lookup name = x?.map write) :
    fieldOr? (some none) read members name = some x? := by
  cases x? with
  | none => rw [fieldOr?, given, Option.map_none]
  | some x =>
    obtain missing | ⟨value, made⟩ := fieldOr?_eq_some made
    · cases missing
    · rw [fieldOr?_of_lookup given]
      exact restores value x made

@[simp] theorem lookup_optionalMember (x? : Option α) :
    (optionalMember write name x?).lookup name = x?.map write := by
  cases x? with
  | none => rfl
  | some x => simp [optionalMember]

theorem lookup_optionalMember_of_ne {other : String} (different : name ≠ other) (x? : Option α) :
    (optionalMember write other x?).lookup name = none := by
  cases x? with
  | none => rfl
  | some x => rw [optionalMember, List.lookup_cons, beq_false_of_ne different, List.lookup_nil]

theorem keys_optionalMember (x? : Option α) :
    ((optionalMember write name x?).map Prod.fst).Sublist [name] := by
  cases x? with
  | none => exact List.nil_sublist _
  | some x => exact List.Sublist.refl _

/-- A record whose last two fields are written unless they have no value: its members are given, and
among them are those two. -/
theorem record?_optionalMembers {β : Type} (names : List String) {first : List (String × Json)}
    {last last' : String} {write : α → Json} {write' : β → Json} (x? : Option α) (y? : Option β)
    (keys : first.map Prod.fst ++ [last, last'] = names) (distinct : names.Nodup) {members}
    (written : first ++ optionalMember write last x? ++ optionalMember write' last' y? = members) :
    (object members).record? names = some members ∧
      members.lookup last = x?.map write ∧ members.lookup last' = y?.map write' := by
  have inOrder : (members.map Prod.fst).Sublist names := by
    rw [← written, ← keys, List.map_append, List.map_append, List.append_assoc]
    exact (List.Sublist.refl _).append ((keys_optionalMember x?).append (keys_optionalMember y?))
  have given : (object members).record? names = some members :=
    Record.ofMembers?_eq_some inOrder.subset (distinct.sublist inOrder)
  rw [← keys, List.nodup_append] at distinct
  obtain ⟨-, pair, apart⟩ := distinct
  have different : last ≠ last' := by simpa using pair
  have absent : ∀ name ∈ [last, last'], first.lookup name = none := fun name member =>
    List.lookup_eq_none_iff.mpr fun field inside => bne_iff_ne.mpr fun same =>
      apart field.1 (List.mem_map_of_mem inside) name member same.symm
  refine ⟨given, ?_, ?_⟩
  · rw [← written, List.lookup_append, List.lookup_append, absent last (by simp),
      lookup_optionalMember, lookup_optionalMember_of_ne different]
    simp
  · rw [← written, List.lookup_append, List.lookup_append, absent last' (by simp),
      lookup_optionalMember, lookup_optionalMember_of_ne different.symm]
    simp

end Fields

end Json

open Json

/-! ## Fields -/

theorem FieldType.name_ofName (name : String) : (ofName name).name = name := by
  unfold ofName
  cases known : ofKnownName? name with
  | none => rfl
  | some type => simpa using List.find?_some known

theorem FieldType.restores : Restores ofJson? toJson := by
  intro value type made
  have named : ofName type.name = type := by
    unfold ofJson? at made
    split at made
    · cases made
      rw [name_ofName]
    · obtain ⟨name, -, known⟩ := Option.bind_eq_some_iff.mp made
      have same : type.name = name := by simpa using List.find?_some known
      rw [same, ofName, known, Option.getD_some]
  exact congrArg some named

/-- Not every type is read back: this one is never read. -/
example : FieldType.ofJson? (FieldType.toJson (.other "text")) = some .text := rfl

theorem ReferentialAction.restores : Restores ofJson? toJson := by
  rintro - action -
  cases action <;> rfl

theorem ForeignKey.restores : Restores ofJson? toJson := by
  intro value key made
  simp only [ofJson?, Option.bind_eq_bind, Option.bind_eq_some_iff] at made
  obtain ⟨fields, -, table, -, field, -, onDelete, madeDelete, onUpdate, madeUpdate, made⟩ := made
  cases made
  have action : ∀ value x, optional? ReferentialAction.ofJson? value = some (some x) →
      optional? ReferentialAction.ofJson? x.toJson = some (some x) :=
    fun _ _ => optional?_write ReferentialAction.restores fun _ => nofun
  obtain ⟨given, givenDelete, givenUpdate⟩ := record?_optionalMembers
    ["table", "field", "on_delete", "on_update"] onDelete onUpdate rfl (by decide)
    (rfl : [("table", string table), ("field", string field)] ++
      optionalMember ReferentialAction.toJson "on_delete" onDelete ++
      optionalMember ReferentialAction.toJson "on_update" onUpdate = _)
  simp only [ofJson?, toJson, given, Option.bind_eq_bind, Option.bind_some,
    fieldOr?_optionalMember action madeDelete givenDelete,
    fieldOr?_optionalMember action madeUpdate givenUpdate]
  rfl

theorem Constant.ofJson?_toJson (value : Constant) : ofJson? value.toJson = some value := by
  cases value <;> rfl

theorem Constant.ofJson?_expr (e : Expr) : ofJson? e.toJson = none := by cases e <;> rfl

theorem Expr.restores : Restores ofJson? toJson :=
  fun _ e made => ofJson?_toJson e (canonical_of_ofJson? made)

theorem DefaultValue.restores : Restores ofJson? toJson := by
  intro value default made
  unfold ofJson? at made
  split at made
  · cases made
    rw [toJson, ofJson?, Constant.ofJson?_toJson]
  · obtain ⟨e, parsed, rfl⟩ := Option.map_eq_some_iff.mp made
    rw [toJson, ofJson?, Constant.ofJson?_expr, Expr.restores value e parsed, Option.map_some]

theorem Field.restores : Restores ofJson? toJson := by
  intro value field made
  simp only [ofJson?, Option.bind_eq_bind, Option.bind_eq_some_iff] at made
  obtain ⟨fields, -, name, -, type, madeType, nullable, -, primaryKey, -, default, madeDefault,
    foreignKey, madeKey, made⟩ := made
  cases made
  have restoredType : FieldType.ofJson? type.toJson = some type :=
    restored_of_fieldOr? FieldType.restores madeType nofun
  have defaults : ∀ value x, (DefaultValue.ofJson? value).map some = some (some x) →
      (DefaultValue.ofJson? x.toJson).map some = some (some x) := by
    intro value x made
    obtain ⟨y, made, same⟩ := Option.map_eq_some_iff.mp made
    cases same
    rw [DefaultValue.restores value x made, Option.map_some]
  have keys : ∀ value x, optional? ForeignKey.ofJson? value = some (some x) →
      optional? ForeignKey.ofJson? x.toJson = some (some x) :=
    fun _ _ => optional?_write ForeignKey.restores fun _ => nofun
  obtain ⟨given, givenDefault, givenKey⟩ := record?_optionalMembers
    ["name", "type", "nullable", "primary_key", "default", "foreign_key"] default foreignKey rfl
    (by decide)
    (rfl : [("name", string name), ("type", type.toJson), ("nullable", bool nullable),
        ("primary_key", bool primaryKey)] ++
      optionalMember DefaultValue.toJson "default" default ++
      optionalMember ForeignKey.toJson "foreign_key" foreignKey = _)
  simp only [ofJson?, toJson, given, Option.bind_eq_bind, Option.bind_some,
    fieldOr?_optionalMember defaults madeDefault givenDefault,
    fieldOr?_optionalMember keys madeKey givenKey]
  simp [fieldOr?, List.lookup_cons, string?, bool?, restoredType]

/-! ## Rules -/

theorem Condition.restores : Restores ofJson? toJson := by
  intro value condition made
  unfold ofJson? at made
  split at made
  · cases made
    rfl
  · obtain ⟨e, parsed, rfl⟩ := Option.map_eq_some_iff.mp made
    rw [toJson]
    unfold ofJson?
    split
    · next same => cases e <;> cases same
    · rw [Expr.restores _ e parsed, Option.map_some]

theorem AccessControl.restores : Restores ofJson? toJson := by
  intro value access made
  simp only [ofJson?, Option.bind_eq_bind, Option.bind_eq_some_iff] at made
  obtain ⟨fields, -, read, madeRead, create, madeCreate, update, madeUpdate, delete, madeDelete,
    made⟩ := made
  cases made
  have rule : ∀ {name condition}, fieldOr? (some .permissive) Condition.ofJson? fields name =
      some condition → Condition.ofJson? condition.toJson = some condition :=
    fun made => restored_of_fieldOr? Condition.restores made (by rintro _ ⟨⟩; rfl)
  simp [ofJson?, toJson, Operation.all, Operation.name, get, record?, Record.ofMembers?, fieldOr?,
    List.lookup_cons, rule madeRead, rule madeCreate, rule madeUpdate, rule madeDelete]

/-! ## Tables -/

theorem Table.restores : Restores ofJson? toJson := by
  intro value table made
  simp only [ofJson?, Option.bind_eq_bind, Option.bind_eq_some_iff] at made
  obtain ⟨given, -, name, -, fields, madeFields, access, madeAccess, made⟩ := made
  cases made
  have restoredFields : listOf? Field.ofJson? (array (fields.map Field.toJson)) = some fields :=
    restored_of_fieldOr? (restores_listOf? Field.restores) madeFields nofun
  have restoredAccess : AccessControl.ofJson? access.toJson = some access :=
    restored_of_fieldOr? AccessControl.restores madeAccess (by rintro _ ⟨⟩; rfl)
  simp [ofJson?, toJson, record?, Record.ofMembers?, fieldOr?, List.lookup_cons, string?,
    restoredFields, restoredAccess]

/-- A snapshot that was read, from whatever spelling, is read back from what is written for it. -/
theorem snapshot_is_read_back (value : Json) (snapshot : Snapshot)
    (read : Snapshot.ofJson? value = some snapshot) :
    Snapshot.ofJson? snapshot.toJson = some snapshot := by
  simp only [Snapshot.ofJson?, Option.bind_eq_bind, Option.bind_eq_some_iff] at read
  obtain ⟨fields, -, tables, madeTables, made⟩ := read
  cases made
  have restored : listOf? Table.ofJson? (array (tables.map Table.toJson)) = some tables :=
    restored_of_fieldOr? (restores_listOf? Table.restores) madeTables nofun
  simp [Snapshot.ofJson?, Snapshot.toJson, record?, Record.ofMembers?, fieldOr?, restored]

/-- A snapshot in unusual spelling: arrays for records, keys for names, a number for a kind, a
repeated key in a literal, and parts that are missing, null or not known. -/
def strangeNotes : Json :=
  .array [.array [
    .object [("comment", .null), ("fields", .array [
        .array [.string "id", .object [("uuid", .null)], .bool false],
        .object [("type", .string "blob"), ("name", .string "body"), ("default", .null),
          ("foreign_key", .null)],
        .object [("name", .string "owner"), ("type", .string "text"),
          ("default", .object [("args", .array []), ("name", .string "uuid"),
            ("kind", .number (.integer 8))]),
          ("foreign_key", .array [.string "notes", .string "id", .object [("set_null", .null)]])]]),
      ("name", .string "notes"),
      ("access_control", .array [.array [.string "compare", .object [("ne", .object [])],
        .array [.string "field", .string "owner"],
        .object [("kind", .string "literal"), ("value", .object [("b", .null), ("a", .bool true),
          ("b", .bool false)])]]])]]]

/-- What is read from it. -/
def strangeNotesRead : Snapshot where
  tables := [
    { name := "notes"
      fields := [
        { name := "id", type := .uuid, nullable := false },
        { name := "body", type := .other "blob", default := some (.constant .null) },
        { name := "owner"
          type := .text
          default := some (.computed (.call "uuid" []))
          foreignKey := some { table := "notes", field := "id", onDelete := some .setNull } }]
      access := {
        read := .expr (.compare .ne (.field "owner")
          (.literal (.object [("a", .bool true), ("b", .bool false)]))) } }]

theorem snapshot_is_read_back_notes :
    Snapshot.ofJson? strangeNotes = some strangeNotesRead ∧
      Snapshot.ofJson? strangeNotesRead.toJson = some strangeNotesRead := by
  have read : Snapshot.ofJson? strangeNotes = some strangeNotesRead := by rfl
  exact ⟨read, snapshot_is_read_back strangeNotes strangeNotesRead read⟩

end SchemaDelta
