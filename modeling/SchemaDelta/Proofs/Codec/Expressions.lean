import SchemaDelta.Expr.Codec
import SchemaDelta.Proofs.Codec.Canonical
import SchemaDelta.Proofs.Lookup

/-!
# Expressions are read back as they were written

In an expression that was read every literal is canonical, since it is made so when it is read.
Writing such an expression gives a node for each of its nodes, with the fields of its kind, and
reading the nodes gives the expression again.
-/

namespace SchemaDelta

/-! ## Records -/

namespace Record

variable {α : Type} {fields : List String} {members given : List (String × α)}

/-- The fields that are given are members of the object. -/
theorem subset_of_ofMembers? (made : ofMembers? fields members = some given) : given ⊆ members := by
  induction members generalizing given with
  | nil =>
    cases made
    exact List.Subset.refl _
  | cons member members ih =>
    obtain ⟨key, value⟩ := member
    rw [ofMembers?] at made
    obtain ⟨rest, inside, made⟩ := Option.bind_eq_some_iff.mp made
    split at made
    · split at made
      · cases made
      · cases made
        exact List.cons_subset_cons _ (ih inside)
    · cases made
      exact List.subset_cons_of_subset _ (ih inside)

/-- The fields that are given by an array are its items. -/
theorem mem_of_ofItems? {items : List α} (made : ofItems? fields items = some given)
    {field : String × α} (member : field ∈ given) : field.2 ∈ items := by
  unfold ofItems? at made
  split at made
  · cases made
    exact (List.of_mem_zip member).2
  · cases made

/-- Members that are different fields are all given. -/
theorem ofMembers?_eq_some (known : members.map Prod.fst ⊆ fields)
    (distinct : (members.map Prod.fst).Nodup) : ofMembers? fields members = some members := by
  induction members with
  | nil => rfl
  | cons member members ih =>
    obtain ⟨key, value⟩ := member
    rw [List.map_cons, List.cons_subset] at known
    rw [List.map_cons, List.nodup_cons] at distinct
    have fresh : (members.lookup key).isSome = false := by
      rw [Option.isSome_eq_false_iff, Option.isNone_iff_eq_none, List.lookup_eq_none_iff]
      intro other inside
      have different : other.1 ≠ key := fun same =>
        distinct.1 (List.mem_map.mpr ⟨other, inside, same⟩)
      exact bne_iff_ne.mpr different.symm
    rw [ofMembers?, ih known.2 distinct.2, Option.bind_eq_bind, Option.bind_some,
      if_pos known.1, fresh]
    rfl

theorem mem_of_lookup {name : String} {value : α} (found : given.lookup name = some value) :
    (name, value) ∈ given := by
  obtain ⟨first, last, rfl, -⟩ := List.lookup_eq_some_iff.mp found
  exact List.mem_append_right _ List.mem_cons_self

end Record

namespace Expr

/-! ## Literals -/

mutual

/-- Every literal in the expression is canonical. -/
def Canonical : Expr → Prop
  | literal value => value.Canonical
  | field _ => True
  | var _ => True
  | compare _ left right => left.Canonical ∧ right.Canonical
  | and args => CanonicalArgs args
  | or args => CanonicalArgs args
  | not arg => arg.Canonical
  | isNull arg => arg.Canonical
  | call _ args => CanonicalArgs args

/-- Every literal in the arguments is canonical. -/
def CanonicalArgs : List Expr → Prop
  | [] => True
  | arg :: args => arg.Canonical ∧ CanonicalArgs args

end

theorem canonicalArgs_of_forall {args : List Expr} (each : ∀ arg ∈ args, arg.Canonical) :
    CanonicalArgs args := by
  induction args with
  | nil => trivial
  | cons arg args ih =>
    obtain ⟨head, tail⟩ := List.forall_mem_cons.mp each
    exact ⟨head, ih tail⟩

/-- What a value is as an expression, and as a list of them, is canonical. -/
structure Reading.Canonical (reading : Reading) : Prop where
  expr : ∀ e, reading.expr = some e → e.Canonical
  list : ∀ es, reading.list = some es → CanonicalArgs es

/-- A node with canonical fields is canonical. The value of a literal is made so. -/
theorem canonical_ofFields? {kind : Kind} {fields : List (String × Reading)} {e : Expr}
    (each : ∀ field ∈ fields, field.2.Canonical) (made : ofFields? kind fields = some e) :
    e.Canonical := by
  have given : ∀ {name reading}, fields.lookup name = some reading → reading.Canonical :=
    fun found => each _ (Record.mem_of_lookup found)
  cases kind <;> simp only [ofFields?, Option.bind_eq_bind, Option.bind_eq_some_iff,
    Option.pure_def, Option.some.injEq] at made
  case literal =>
    obtain ⟨value, -, rfl⟩ := made
    exact Json.canonical_canonical value.json
  case field =>
    obtain ⟨_, -, path, -, rfl⟩ := made
    trivial
  case var =>
    obtain ⟨_, -, name, -, rfl⟩ := made
    trivial
  case compare =>
    obtain ⟨_, -, _, -, op, -, left, foundLeft, l, readLeft, right, foundRight, r, readRight,
      rfl⟩ := made
    exact ⟨(given foundLeft).expr l readLeft, (given foundRight).expr r readRight⟩
  case and =>
    obtain ⟨args, found, es, read, rfl⟩ := made
    exact (given found).list es read
  case or =>
    obtain ⟨args, found, es, read, rfl⟩ := made
    exact (given found).list es read
  case not =>
    obtain ⟨arg, found, e, read, rfl⟩ := made
    exact (given found).expr e read
  case isNull =>
    obtain ⟨arg, found, e, read, rfl⟩ := made
    exact (given found).expr e read
  case call =>
    obtain ⟨_, -, name, -, made⟩ := made
    cases found : fields.lookup "args" with
    | none =>
      rw [found, Option.some.injEq] at made
      subst made
      trivial
    | some args =>
      rw [found] at made
      obtain ⟨es, read, made⟩ := Option.bind_eq_some_iff.mp made
      cases made
      exact (given found).list es read

theorem canonical_ofItems? {items : List Reading} {e : Expr}
    (each : ∀ item ∈ items, item.Canonical) (made : ofItems? items = some e) : e.Canonical := by
  cases items with
  | nil => cases made
  | cons first rest =>
    obtain ⟨kind, -, made⟩ := Option.bind_eq_some_iff.mp made
    obtain ⟨fields, given, made⟩ := Option.bind_eq_some_iff.mp made
    refine canonical_ofFields? (fun field member => ?_) made
    exact each _ (List.mem_cons_of_mem first (Record.mem_of_ofItems? given member))

theorem canonical_ofMembers? {members : List (String × Reading)} {e : Expr}
    (each : ∀ member ∈ members, member.2.Canonical) (made : ofMembers? members = some e) :
    e.Canonical := by
  unfold ofMembers? at made
  split at made
  · obtain ⟨kind, -, made⟩ := Option.bind_eq_some_iff.mp made
    obtain ⟨fields, given, made⟩ := Option.bind_eq_some_iff.mp made
    refine canonical_ofFields? (fun field member => ?_) made
    exact each _ (List.mem_of_mem_filter (Record.subset_of_ofMembers? given member))
  · cases made

theorem canonical_list {items : List Reading} {es : List Expr}
    (each : ∀ item ∈ items, item.Canonical) (made : items.mapM Reading.expr = some es) :
    CanonicalArgs es := by
  refine canonicalArgs_of_forall fun e member => ?_
  obtain ⟨item, inside, read⟩ := exists_left_of_forall₂ (mapM_eq_some_iff.mp made) member
  exact (each item inside).expr e read

mutual

/-- Whatever is read is canonical. -/
theorem canonical_reading : ∀ value : Json, (reading value).Canonical
  | .null => ⟨nofun, nofun⟩
  | .bool _ => ⟨nofun, nofun⟩
  | .number _ => ⟨nofun, nofun⟩
  | .string _ => ⟨nofun, nofun⟩
  | .array items => by
    rw [reading]
    have each := canonical_readingItems items
    exact ⟨fun _ => canonical_ofItems? each, fun _ => canonical_list each⟩
  | .object members => by
    rw [reading]
    exact ⟨fun _ => canonical_ofMembers? (canonical_readingMembers members), nofun⟩

theorem canonical_readingItems : ∀ items : List Json, ∀ item ∈ readingItems items, item.Canonical
  | [] => fun _ => nofun
  | item :: items => by
    rw [readingItems]
    exact List.forall_mem_cons.mpr ⟨canonical_reading item, canonical_readingItems items⟩

theorem canonical_readingMembers : ∀ members : List (String × Json),
    ∀ member ∈ readingMembers members, member.2.Canonical
  | [] => fun _ => nofun
  | (_, value) :: members => by
    rw [readingMembers]
    exact List.forall_mem_cons.mpr ⟨canonical_reading value, canonical_readingMembers members⟩

end

theorem canonical_of_ofJson? {value : Json} {e : Expr} (read : ofJson? value = some e) :
    e.Canonical :=
  (canonical_reading value).expr e read

/-! ## Nodes -/

theorem Kind.ofJson?_name (kind : Kind) : ofJson? (.string kind.name) = some kind := by
  cases kind <;> rfl

theorem Kind.fields_distinct (kind : Kind) : kind.fields.Nodup := by cases kind <;> decide

theorem Kind.kind_not_mem_fields (kind : Kind) : "kind" ∉ kind.fields := by cases kind <;> decide

theorem map_fst_readingMembers (members : List (String × Json)) :
    (readingMembers members).map Prod.fst = members.map Prod.fst := by
  induction members with
  | nil => rfl
  | cons member members ih => rw [readingMembers, List.map_cons, List.map_cons, ih]

@[simp] theorem json_reading (value : Json) : (reading value).json = value := by
  cases value <;> simp only [reading]

/-- A node with all fields of its kind is read by reading the fields. -/
theorem ofJson?_node {kind : Kind} {members : List (String × Json)}
    (complete : members.map Prod.fst = kind.fields) :
    ofJson? (node kind members) = ofFields? kind (readingMembers members) := by
  have keys : (readingMembers members).map Prod.fst = kind.fields :=
    (map_fst_readingMembers members).trans complete
  have others : ∀ member ∈ readingMembers members, (member.1 != "kind") = true :=
    fun member inside => bne_iff_ne.mpr fun same =>
      kind.kind_not_mem_fields (keys ▸ same ▸ List.mem_map_of_mem inside)
  have first : (("kind", reading (.string kind.name)) :: readingMembers members).filter
      (·.1 == "kind") = [("kind", reading (.string kind.name))] := by
    rw [List.filter_cons_of_pos rfl, List.filter_eq_nil_iff.mpr]
    exact fun member inside same => bne_iff_ne.mp (others member inside) (beq_iff_eq.mp same)
  have rest : (("kind", reading (.string kind.name)) :: readingMembers members).filter
      (·.1 != "kind") = readingMembers members := by
    rw [List.filter_cons_of_neg (by simp), List.filter_eq_self.mpr others]
  have given : Record.ofMembers? kind.fields (readingMembers members) =
      some (readingMembers members) :=
    Record.ofMembers?_eq_some (keys ▸ List.Subset.refl _) (keys ▸ kind.fields_distinct)
  rw [ofJson?, node, reading, readingMembers]
  simp only [ofMembers?, first, rest, json_reading, Kind.ofJson?_name, given, Option.bind_eq_bind,
    Option.bind_some]

theorem Comparison.ofName?_name (op : Comparison) : Comparison.ofName? op.name = some op := by
  cases op <;> rfl

mutual

/-- A canonical expression is read back as it was written. -/
theorem ofJson?_toJson : ∀ e : Expr, e.Canonical → ofJson? e.toJson = some e
  | literal value, canonical => by
    have same : value.canonical = value := canonical
    rw [toJson, ofJson?_node rfl]
    simp [readingMembers, ofFields?, same]
  | field path, _ => by
    rw [toJson, ofJson?_node rfl]
    simp [readingMembers, ofFields?, Json.string?]
  | var name, _ => by
    rw [toJson, ofJson?_node rfl]
    simp [readingMembers, ofFields?, Json.string?]
  | compare op left right, canonical => by
    have readLeft : (reading left.toJson).expr = some left := ofJson?_toJson left canonical.1
    have readRight : (reading right.toJson).expr = some right := ofJson?_toJson right canonical.2
    rw [toJson, ofJson?_node rfl]
    simp [readingMembers, ofFields?, Json.name?, List.lookup_cons, Comparison.ofName?_name,
      readLeft, readRight]
  | and args, canonical => by
    have readArgs := list_toJsonList args canonical
    rw [toJson, ofJson?_node rfl]
    simp [readingMembers, ofFields?, readArgs]
  | or args, canonical => by
    have readArgs := list_toJsonList args canonical
    rw [toJson, ofJson?_node rfl]
    simp [readingMembers, ofFields?, readArgs]
  | not arg, canonical => by
    have readArg : (reading arg.toJson).expr = some arg := ofJson?_toJson arg canonical
    rw [toJson, ofJson?_node rfl]
    simp [readingMembers, ofFields?, readArg]
  | isNull arg, canonical => by
    have readArg : (reading arg.toJson).expr = some arg := ofJson?_toJson arg canonical
    rw [toJson, ofJson?_node rfl]
    simp [readingMembers, ofFields?, readArg]
  | call name args, canonical => by
    have readArgs := list_toJsonList args canonical
    rw [toJson, ofJson?_node rfl]
    simp [readingMembers, ofFields?, List.lookup_cons, Json.string?, readArgs]

theorem list_toJsonList : ∀ es : List Expr, CanonicalArgs es →
    (reading (.array (toJsonList es))).list = some es
  | [], _ => by simp [toJsonList, reading, readingItems]
  | e :: es, canonical => by
    have readFirst : (reading e.toJson).expr = some e := ofJson?_toJson e canonical.1
    have readOthers := list_toJsonList es canonical.2
    simp only [reading] at readOthers
    simp [toJsonList, reading, readingItems, readFirst, readOthers]

end

end Expr

end SchemaDelta
