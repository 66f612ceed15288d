import SchemaDelta.Proofs.Quoting

/-!
# Nested selects

The SQL of a path is a column, or a select of one value from the rows of a table that satisfy an
equation between columns. Its text determines it. A column belongs to the row of the innermost table
of its name: every select puts the row it looks at in front of those around it.
-/

namespace SchemaDelta

/-- A column with the name of its table. -/
structure ColumnName where
  table : String
  field : String
deriving DecidableEq

namespace ColumnName

/-- The SQL of the name. -/
def render (column : ColumnName) : String :=
  Sql.identifier column.table ++ "." ++ Sql.identifier column.field

theorem render_append_inj {c d : ColumnName} {s t : List Char} (endsS : s.head? ≠ some '"')
    (endsT : t.head? ≠ some '"') (same : c.render.toList ++ s = d.render.toList ++ t) :
    c = d ∧ s = t := by
  rcases c with ⟨table, field⟩
  rcases d with ⟨table', field'⟩
  simp only [render, String.toList_append, List.append_assoc] at same
  obtain ⟨rfl, afterTable⟩ := Sql.identifier_append_inj (by simp) (by simp) same
  have afterDot := List.append_cancel_left afterTable
  obtain ⟨rfl, afterField⟩ := Sql.identifier_append_inj endsS endsT afterDot
  exact ⟨rfl, afterField⟩

end ColumnName

/-- A column, or the select of a value from the rows of a table where two columns are equal. -/
inductive Query where
  | column (name : ColumnName)
  | select (value : Query) (source : String) (left right : ColumnName)
deriving DecidableEq

namespace Query

/-- The SQL of a select, given the SQL of its parts. -/
def selectText (value source left right : String) : String :=
  "(SELECT " ++ value ++ " FROM " ++ source ++ " WHERE " ++ left ++ " = " ++ right ++ ")"

theorem toList_selectText (value source left right : String) :
    (selectText value source left right).toList =
      "(SELECT ".toList ++ (value.toList ++ (" FROM ".toList ++ (source.toList ++
        (" WHERE ".toList ++ (left.toList ++ (" = ".toList ++
          (right.toList ++ ")".toList))))))) := by
  unfold selectText
  simp only [String.toList_append, List.append_assoc]

/-- The SQL of a query. -/
def render : Query → String
  | column name => name.render
  | select value source left right =>
    selectText value.render (Sql.identifier source) left.render right.render

theorem head?_render_column (name : ColumnName) (rest : List Char) :
    ((column name).render.toList ++ rest).head? = some '"' := by
  simp only [render, ColumnName.render, Sql.identifier, Quoted.enclose, String.toList_append,
    String.toList_ofList, List.cons_append, List.head?_cons]

theorem head?_render_select (value : Query) (source : String) (left right : ColumnName)
    (rest : List Char) :
    ((select value source left right).render.toList ++ rest).head? = some '(' := by
  simp only [render, toList_selectText, List.append_assoc]
  rfl

theorem render_append_inj {p q : Query} {s t : List Char} (endsS : s.head? ≠ some '"')
    (endsT : t.head? ≠ some '"') (same : p.render.toList ++ s = q.render.toList ++ t) :
    p = q ∧ s = t := by
  induction p generalizing q s t with
  | column name =>
    cases q with
    | column name' =>
      obtain ⟨rfl, rest⟩ := ColumnName.render_append_inj endsS endsT same
      exact ⟨rfl, rest⟩
    | select value source left right =>
      have heads := congrArg List.head? same
      rw [head?_render_column, head?_render_select] at heads
      cases heads
  | select value source left right ih =>
    cases q with
    | column name =>
      have heads := congrArg List.head? same
      rw [head?_render_column, head?_render_select] at heads
      cases heads
    | select value' source' left' right' =>
      simp only [render, toList_selectText, List.append_assoc] at same
      have inside := List.append_cancel_left same
      obtain ⟨rfl, afterValue⟩ := ih (by simp) (by simp) inside
      have atSource := List.append_cancel_left afterValue
      obtain ⟨rfl, afterSource⟩ := Sql.identifier_append_inj (by simp) (by simp) atSource
      have atLeft := List.append_cancel_left afterSource
      obtain ⟨rfl, afterLeft⟩ := ColumnName.render_append_inj (by simp) (by simp) atLeft
      have atRight := List.append_cancel_left afterLeft
      obtain ⟨rfl, afterRight⟩ := ColumnName.render_append_inj (by simp) (by simp) atRight
      exact ⟨rfl, List.append_cancel_left afterRight⟩

/-- Two queries with the same text are the same. -/
theorem render_injective : Function.Injective render := by
  intro p q same
  have letters : p.render.toList ++ [] = q.render.toList ++ [] := by rw [same]
  exact (render_append_inj (by simp) (by simp) letters).1

end Query

/-- A row with the values of its fields, of which some may be null. -/
abbrev Row (V : Type) := String → Option V

/-- The rows of tables. -/
abbrev Content (V : Type) := String → List (Row V)

/-- The rows around a query with the names of their tables, the innermost first. -/
abbrev Frames (V : Type) := List (String × Row V)

namespace Frames

variable {V : Type}

/-- The value of a column in the row of the innermost table of its name. -/
def resolve (frames : Frames V) (column : ColumnName) : Option (Option V) :=
  (frames.lookup column.table).map (· column.field)

end Frames

namespace Query

variable {V : Type}

/-- The value of a select, given the rows it selects and the value of each. Without a row it is
null; what several rows give depends on the database. -/
def scalar (several : List (Option (Option V)) → Option (Option V)) (rows : List (Row V))
    (value : Row V → Option (Option V)) : Option (Option V) :=
  match rows with
  | [] => some none
  | [row] => value row
  | rows => several (rows.map value)

variable [DecidableEq V]

/-- Equality of values in SQL: nothing equals null. -/
def equal : Option V → Option V → Bool
  | some x, some y => x == y
  | _, _ => false

/-- Whether two columns are equal. -/
def holds (frames : Frames V) (left right : ColumnName) : Bool :=
  match frames.resolve left, frames.resolve right with
  | some x, some y => equal x y
  | _, _ => false

/-- The value of a query, unless it mentions a table that is not around it. -/
def eval (several : List (Option (Option V)) → Option (Option V)) (content : Content V) :
    Frames V → Query → Option (Option V)
  | frames, column name => frames.resolve name
  | frames, select value source left right =>
    let scope := source :: frames.map Prod.fst
    if left.table ∈ scope ∧ right.table ∈ scope then
      scalar several
        ((content source).filter fun row => holds ((source, row) :: frames) left right)
        fun row => eval several content ((source, row) :: frames) value
    else none

@[simp]
theorem equal_none (x : Option V) : equal x none = false := by
  cases x <;> rfl

theorem equal_some (x : Option V) (v : V) : equal x (some v) = decide (x = some v) := by
  cases x with
  | none => rfl
  | some u =>
    by_cases same : u = v <;> simp [equal, same]

/-- At most one row has a value in a field without repetitions. -/
theorem filter_equal_of_nodup {rows : List (Row V)} {field : String}
    (distinct : (rows.filterMap (· field)).Nodup) (v : V) :
    rows.filter (fun row => equal (row field) (some v)) =
      (rows.find? (· field = some v)).toList := by
  induction rows with
  | nil => rfl
  | cons row rows ih =>
    cases value : row field with
    | none =>
      simp only [List.filterMap_cons, value] at distinct
      simp [equal_some, value, ← ih distinct]
    | some u =>
      simp only [List.filterMap_cons, value, List.nodup_cons] at distinct
      by_cases same : u = v
      · subst same
        have others : rows.filter (fun row => equal (row field) (some u)) = [] := by
          refine List.filter_eq_nil_iff.mpr fun other member equals => distinct.1 ?_
          exact List.mem_filterMap.mpr ⟨other, member, by simpa [equal_some] using equals⟩
        simp [equal_some, value] at others ⊢
        exact others
      · simp [equal_some, value, same, ← ih distinct.2]

end Query

end SchemaDelta
