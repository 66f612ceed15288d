import SchemaDelta.Proofs.Script.Operands
import SchemaDelta.Statement

/-!
# The places of operands in statements

Compiled expressions are taken over into statements at two places: behind `DEFAULT`, and in the
parentheses of a policy. An operand is a word of its own at either place, and the words around it
are what they are around any other operand.
-/

namespace SchemaDelta

/-- The definitions in the parentheses of a new table, each on a line of its own. -/
def onLines : List String → List String
  | [] => ["\n    \n"]
  | [last] => ["\n    " ++ last ++ "\n"]
  | first :: others => ("\n    " ++ first) :: onLines others

/-- The head of a table definition and the items in its parentheses. -/
def tableItems? (text : String) : Option (String × List String) :=
  (group? text).map fun (head, body) => (head, sqlItems body)

/-- The words by which a policy restricts an operation to a predicate. -/
def policyWords (predicate : String) : Operation → List String
  | .read => ["FOR", "SELECT", "USING", predicate]
  | .create => ["FOR", "INSERT", "WITH", "CHECK", predicate]
  | .update => ["FOR", "UPDATE", "USING", predicate, "WITH", "CHECK", predicate]
  | .delete => ["FOR", "DELETE", "USING", predicate]

/-- The text is one operand as the predicate of a policy: the parentheses around it are a word, in
which it is the only one. -/
structure IsPredicate (predicate : String) : Prop where
  enclosed : construct? ("(" ++ predicate ++ ")") = some ("", [predicate])
  policy : ∀ table operation, sqlWords (Sql.createPolicy table operation predicate) =
    ["CREATE", "POLICY", Sql.identifier (Sql.policyName table operation), "ON",
      Sql.identifier table] ++ policyWords ("(" ++ predicate ++ ")") operation

/-- The text is one operand as a default: it is a word of a column definition, which is one item
wherever it stands in a table definition, and it is the last word where a column gets it as its new
default. -/
structure IsDefault (default : String) : Prop where
  definition : ∀ name type key references,
    sqlWords (Sql.columnDefinition name type key (some default) references) =
      sqlWords (Sql.columnDefinition name type key none none) ++ "DEFAULT" :: default ::
        references.toList.flatMap fun key => sqlWords (Sql.referencesClause key)
  addition : ∀ table name type key references,
    sqlWords (Sql.addColumn table
        (Sql.columnDefinition name type key (some default) references)) =
      ["ALTER", "TABLE", Sql.identifier table, "ADD", "COLUMN"] ++
        sqlWords (Sql.columnDefinition name type key (some default) references)
  item : ∀ name type key references,
    ListItem (Sql.columnDefinition name type key (some default) references)
  table : ∀ table name type key references before after,
    (∀ definition ∈ before ++ after, ListItem definition) →
    tableItems? (Sql.createTable table
        (before ++ Sql.columnDefinition name type key (some default) references :: after)) =
      some ("CREATE TABLE " ++ Sql.identifier table ++ " ",
        onLines (before ++ Sql.columnDefinition name type key (some default) references :: after))
  change : ∀ table column, sqlWords (Sql.setDefault table column default) =
    ["ALTER", "TABLE", Sql.identifier table, "ALTER", "COLUMN", Sql.identifier column, "SET",
      "DEFAULT", default]

variable {a : String}

theorem uncut_identifier {marks : Char → Bool} (others : marks '"' = false) (name : String) :
    Uncut marks (Sql.identifier name) := .enclose .double name others

theorem operand_identifier (name : String) : Operand (Sql.identifier name) :=
  uncut_identifier rfl name

theorem isSeparator_of_isParenthesis {c : Char} (parenthesis : isParenthesis c = true) :
    isSeparator c = false := by
  rcases (by simpa [isParenthesis] using parenthesis : c = '(' ∨ c = ')') with rfl | rfl <;> decide

theorem operand_enclosed (inside : Balanced a) : Operand ("(" ++ a ++ ")") :=
  Uncut.enclosed inside fun _ => isSeparator_of_isParenthesis

/-- A balanced text in parentheses is nothing but the words in it. -/
theorem construct?_parentheses (inside : Balanced a) :
    construct? ("(" ++ a ++ ")") = some ("", sqlWords a) := by
  have bare := construct?_enclosed (by decide : Uncut isParenthesis "") inside
  rwa [String.empty_append] at bare

/-- The predicate of a policy, in its parentheses, is one word, and changes no other. -/
theorem sqlWords_createPolicy (operand : Operand a) (table : String) (operation : Operation) :
    sqlWords (Sql.createPolicy table operation a) =
      ["CREATE", "POLICY", Sql.identifier (Sql.policyName table operation), "ON",
        Sql.identifier table] ++ policyWords ("(" ++ a ++ ")") operation := by
  have enclosed := operand_enclosed operand.balanced
  have text : Sql.createPolicy table operation a = " ".intercalate
      (["CREATE", "POLICY", Sql.identifier (Sql.policyName table operation), "ON",
        Sql.identifier table] ++ policyWords ("(" ++ a ++ ")") operation) := by
    rw [← String.toList_inj]
    unfold Sql.createPolicy Sql.policyClause policyWords
    cases operation <;>
      simp only [List.cons_append, List.nil_append, String.intercalate_cons_cons,
        String.intercalate_singleton, String.toList_append, List.append_assoc] <;> rfl
  rw [text, List.cons_append, sqlWords_unwords]
  unfold policyWords
  cases operation <;>
    simp only [List.cons_append, List.nil_append, List.forall_mem_cons, operand_identifier,
      enclosed, true_and] <;> decide

theorem IsPredicate.ofOperand (operand : Operand a) : IsPredicate a where
  enclosed := by rw [construct?_parentheses operand.balanced, sqlWords_of_operand operand]
  policy := sqlWords_createPolicy operand

/-- An operand is one item of any list that it stands in. -/
theorem Uncut.listItem (operand : Operand a) : ListItem a where
  balanced := operand.balanced
  single := by
    intro letter member
    have single := operand.single letter member
    rw [SqlLetter.isMark, Bool.and_eq_false_iff] at single ⊢
    refine single.imp_right fun separator => ?_
    simp only [isSeparator, Bool.or_eq_false_iff] at separator
    exact separator.1.2

theorem balanced_identifier (name : String) : Balanced (Sql.identifier name) :=
  (operand_identifier name).balanced

theorem listItem_referencesClause (key : ForeignKey) :
    ListItem (Sql.referencesClause key) := by
  have blank : ListItem " " := by decide
  have action {event : String} (named : ListItem event) (action : Option ReferentialAction) :
      ListItem (Sql.actionClause event action) := by
    cases action with
    | none => exact (by decide : ListItem "")
    | some action =>
      have done : ListItem action.sql := by cases action <;> decide
      exact (((by decide : ListItem " ON ").append named).append blank).append done
  have text : Sql.referencesClause key = "REFERENCES " ++ Sql.identifier key.table ++ " " ++
      ("(" ++ Sql.identifier key.field ++ ")") ++ Sql.actionClause "DELETE" key.onDelete ++
      Sql.actionClause "UPDATE" key.onUpdate := by
    rw [← String.toList_inj]
    unfold Sql.referencesClause
    simp only [String.toList_append, List.append_assoc]
    rfl
  have field := (operand_enclosed (balanced_identifier key.field)).listItem
  have front := (by decide : ListItem "REFERENCES ").append (uncut_identifier rfl key.table)
  have named := (front.append blank).append field
  rw [text]
  exact (named.append (action (by decide) key.onDelete)).append (action (by decide) key.onUpdate)

/-- A column definition is one item if its default is one operand. -/
theorem listItem_columnDefinition {default : Option String}
    (operands : ∀ sql ∈ default, Operand sql) (name : String) (type : NativeType)
    (key : KeyClause) (references : Option ForeignKey) :
    ListItem (Sql.columnDefinition name type key default references) := by
  have typed : ListItem type.name := by cases type <;> decide
  have clause : ListItem (Sql.keyClause key) := by cases key <;> decide
  have named : ListItem (Sql.identifier name) := uncut_identifier rfl name
  have blank : ListItem " " := by decide
  refine Uncut.append (Uncut.append (((named.append blank).append typed).append clause) ?default)
    ?references
  case default =>
    cases default with
    | none => exact (by decide : ListItem "")
    | some sql => exact (by decide : ListItem " DEFAULT ").append (operands sql rfl).listItem
  case references =>
    cases references with
    | none => exact (by decide : ListItem "")
    | some key => exact blank.append (listItem_referencesClause key)

theorem sqlItems_lines {definitions : List String}
    (items : ∀ definition ∈ definitions, ListItem definition) :
    sqlItems ("\n    " ++ ",\n    ".intercalate definitions ++ "\n") = onLines definitions := by
  have indent : ListItem "\n    " := by decide
  induction definitions with
  | nil => rfl
  | cons first others ih =>
    obtain ⟨head, tail⟩ := List.forall_mem_cons.mp items
    have line : ListItem ("\n    " ++ first) := indent.append head
    cases others with
    | nil =>
      rw [String.intercalate_singleton]
      exact (line.append (by decide : ListItem "\n")).cut_eq
    | cons second others =>
      have text : "\n    " ++ ",\n    ".intercalate (first :: second :: others) ++ "\n" =
          "\n    " ++ first ++ "," ++
            ("\n    " ++ ",\n    ".intercalate (second :: others) ++ "\n") := by
        rw [String.intercalate_cons_cons, ← String.toList_inj]
        simp only [String.toList_append, List.append_assoc]
        rfl
      have comma : sqlLetters "," = [⟨',', false, 0⟩] := rfl
      rw [text, sqlItems, cut_append comma rfl (by decide) line.balanced, line.cut_eq]
      exact congrArg _ (ih tail)

/-- A table definition falls into the definitions that it is made of. -/
theorem tableItems?_createTable (table : String) {definitions : List String}
    (items : ∀ definition ∈ definitions, ListItem definition) :
    tableItems? (Sql.createTable table definitions) =
      some ("CREATE TABLE " ++ Sql.identifier table ++ " ", onLines definitions) := by
  have head : Uncut isParenthesis ("CREATE TABLE " ++ Sql.identifier table ++ " ") :=
    ((by decide : Uncut isParenthesis "CREATE TABLE ").append (uncut_identifier rfl table)).append
      (by decide)
  have inside : Balanced ("\n    " ++ ",\n    ".intercalate definitions ++ "\n") :=
    ((by decide : Balanced "\n    ").append (.intercalate (by decide) fun definition member =>
      (items definition member).balanced)).append (by decide)
  have text : Sql.createTable table definitions =
      "CREATE TABLE " ++ Sql.identifier table ++ " " ++
        ("(" ++ ("\n    " ++ ",\n    ".intercalate definitions ++ "\n") ++ ")") := by
    rw [← String.toList_inj]
    unfold Sql.createTable
    simp only [String.toList_append, List.append_assoc]
    rfl
  rw [text, tableItems?, group?_enclosed head inside, Option.map_some]
  simp only [sqlItems_lines items]

/-- A default is one word of a column definition, and changes no other. -/
theorem sqlWords_columnDefinition (operand : Operand a) (name : String) (type : NativeType)
    (key : KeyClause) (references : Option ForeignKey) :
    sqlWords (Sql.columnDefinition name type key (some a) references) =
      sqlWords (Sql.columnDefinition name type key none none) ++ "DEFAULT" :: a ::
        references.toList.flatMap fun key => sqlWords (Sql.referencesClause key) := by
  have front : Balanced (Sql.columnDefinition name type key none none) :=
    (listItem_columnDefinition (by simp) name type key none).balanced
  have declared : Balanced ("DEFAULT" ++ " " ++ a) :=
    (by decide : Balanced ("DEFAULT" ++ " ")).append operand.balanced
  have default : sqlWords ("DEFAULT" ++ " " ++ a) = ["DEFAULT", a] := by
    rw [sqlWords_append (by decide), sqlWords_of_operand operand]
    rfl
  cases references with
  | none =>
    have text : Sql.columnDefinition name type key (some a) none =
        Sql.columnDefinition name type key none none ++ " " ++ ("DEFAULT" ++ " " ++ a) := by
      rw [← String.toList_inj]
      unfold Sql.columnDefinition
      simp only [String.append_empty, String.toList_append, List.append_assoc]
      rfl
    rw [text, sqlWords_append front, default]
    rfl
  | some target =>
    have text : Sql.columnDefinition name type key (some a) (some target) =
        Sql.columnDefinition name type key none none ++ " " ++
          ("DEFAULT" ++ " " ++ a ++ " " ++ Sql.referencesClause target) := by
      rw [← String.toList_inj]
      unfold Sql.columnDefinition
      simp only [String.append_empty, String.toList_append, List.append_assoc]
      rfl
    rw [text, sqlWords_append front, sqlWords_append declared, default]
    simp

theorem sqlWords_setDefault (operand : Operand a) (table column : String) :
    sqlWords (Sql.setDefault table column a) =
      ["ALTER", "TABLE", Sql.identifier table, "ALTER", "COLUMN", Sql.identifier column, "SET",
        "DEFAULT", a] := by
  have text : Sql.setDefault table column a = " ".intercalate ["ALTER", "TABLE",
      Sql.identifier table, "ALTER", "COLUMN", Sql.identifier column, "SET", "DEFAULT", a] := by
    rw [← String.toList_inj]
    unfold Sql.setDefault Sql.alterColumn Sql.alterTable
    simp only [String.intercalate_cons_cons, String.intercalate_singleton, String.toList_append,
      List.append_assoc]
    rfl
  rw [text, sqlWords_unwords]
  simp only [List.forall_mem_cons, operand_identifier, operand, true_and]
  decide

/-- A new column is added by the words of its definition. -/
theorem sqlWords_addColumn (table definition : String) :
    sqlWords (Sql.addColumn table definition) =
      ["ALTER", "TABLE", Sql.identifier table, "ADD", "COLUMN"] ++ sqlWords definition := by
  have words : ∀ word ∈ ["ALTER", "TABLE", Sql.identifier table, "ADD", "COLUMN"],
      Operand word := by
    simp only [List.forall_mem_cons, operand_identifier, true_and]
    decide
  have front : Balanced (" ".intercalate
      ["ALTER", "TABLE", Sql.identifier table, "ADD", "COLUMN"]) :=
    .intercalate (by decide) fun word member => (words word member).balanced
  have text : Sql.addColumn table definition = " ".intercalate
      ["ALTER", "TABLE", Sql.identifier table, "ADD", "COLUMN"] ++ " " ++ definition := by
    rw [← String.toList_inj]
    unfold Sql.addColumn Sql.alterTable
    simp only [String.intercalate_cons_cons, String.intercalate_singleton, String.toList_append,
      List.append_assoc]
    rfl
  rw [text, sqlWords_append front, sqlWords_unwords words]

theorem IsDefault.ofOperand (operand : Operand a) : IsDefault a := by
  have item := listItem_columnDefinition (fun sql member => Option.some.inj member ▸ operand)
  refine ⟨sqlWords_columnDefinition operand, ?addition, item, ?table, sqlWords_setDefault operand⟩
  case addition =>
    intro table name type key references
    exact sqlWords_addColumn table _
  case table =>
    intro table name type key references before after others
    apply tableItems?_createTable
    rw [List.forall_mem_append] at others ⊢
    exact ⟨others.1, List.forall_mem_cons.mpr ⟨item name type key references, others.2⟩⟩

end SchemaDelta
