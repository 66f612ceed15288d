import SchemaDelta.Proofs.Rows
import SchemaDelta.Proofs.Settlement.Rebuild

/-!
# Values that are carried over

A table sees only the statements of a script that are about it, and of these a column sees only the
ones that touch it. So a script carries the value of a column over as the few statements that touch
the column do, one part after the other.
-/

namespace SchemaDelta

namespace Statement

/-- The statements of a script that are about a table. -/
def about (table : String) (script : List Statement) : List Statement :=
  script.filter (·.alteredTable? == some table)

theorem about_eq_self {table : String} {script : List Statement}
    (each : ∀ s ∈ script, s.alteredTable? = some table) : about table script = script :=
  List.filter_eq_self.mpr fun s member => by simp [each s member]

/-- The statement changes values in a column of this name. -/
def Touches (name : String) : Statement → Prop
  | addColumn _ column => column.name = name
  | dropColumn _ column => column = name
  | renameColumn _ column newName => column = name ∨ newName = name
  | copyCast _ _ target _ => target = name
  | alterColumnType _ column _ => column = name
  | _ => False

end Statement

variable {V : Type} {engine : Engine V} {table name : String} {script : List Statement}

namespace StoredRow

variable {row result : StoredRow V} {s : Statement}

/-- A statement leaves a row the row that it is, and it leaves alone what it does not touch. -/
theorem alter_spec (altered : row.alter engine s = some result) :
    result.id = row.id ∧ ∀ name, ¬ s.Touches name → result.values name = row.values name := by
  cases s with
  | addColumn table column =>
    simp only [alter, Option.ite_none_right_eq_some, Option.some.injEq] at altered
    obtain ⟨-, rfl⟩ := altered
    exact ⟨rfl, fun name other => Function.update_of_ne (Ne.symm other) ..⟩
  | dropColumn table column =>
    simp only [alter, Option.ite_none_right_eq_some, Option.some.injEq] at altered
    obtain ⟨-, rfl⟩ := altered
    exact ⟨rfl, fun name other => Function.update_of_ne (Ne.symm other) ..⟩
  | renameColumn table column newName =>
    simp only [alter, Option.ite_none_right_eq_some, Option.some.injEq] at altered
    obtain ⟨-, rfl⟩ := altered
    refine ⟨rfl, fun name other => ?_⟩
    obtain ⟨source, target⟩ := not_or.mp other
    simp [Ne.symm source, Ne.symm target]
  | copyCast table source target type =>
    obtain ⟨value, -, altered⟩ := Option.bind_eq_some_iff.mp altered
    simp only [Option.ite_none_right_eq_some, Option.some.injEq] at altered
    obtain ⟨-, rfl⟩ := altered
    exact ⟨rfl, fun name other => Function.update_of_ne (Ne.symm other) ..⟩
  | alterColumnType table column type =>
    obtain ⟨value, -, altered⟩ := Option.bind_eq_some_iff.mp altered
    cases altered
    exact ⟨rfl, fun name other => Function.update_of_ne (Ne.symm other) ..⟩
  | _ =>
    cases altered
    exact ⟨rfl, fun _ _ => rfl⟩

theorem id_of_run (ran : row.run engine script = some result) : result.id = row.id := by
  induction script generalizing row with
  | nil =>
    obtain rfl : row = result := by simpa [run] using ran
    rfl
  | cons s script ih =>
    obtain ⟨next, altered, ran⟩ := Option.bind_eq_some_iff.mp ran
    rw [ih ran, (alter_spec altered).1]

theorem run_append (row : StoredRow V) (first second : List Statement) :
    row.run engine (first ++ second) = (row.run engine first).bind (run engine · second) :=
  List.foldlM_append ..

end StoredRow

theorem forall₂_trans {α β γ : Type} {R : α → β → Prop} {S : β → γ → Prop} {T : α → γ → Prop}
    (step : ∀ {a b c}, R a b → S b c → T a c) {xs : List α} {ys : List β} {zs : List γ}
    (first : List.Forall₂ R xs ys) (second : List.Forall₂ S ys zs) : List.Forall₂ T xs zs := by
  induction first generalizing zs with
  | nil =>
    cases second
    exact .nil
  | cons head _ ih =>
    cases second with
    | cons head' tail => exact .cons (step head head') (ih tail)

/-- What becomes of the rows of a table that is neither created nor dropped. -/
theorem Contents.run_about {contents final : Contents V} {rows : List (StoredRow V)}
    (spared : ∀ s ∈ script, s.Spares table) (ran : contents.run engine script = some final)
    (found : contents table = some rows) :
    ∃ results, final table = some results ∧ List.Forall₂
      (fun row result => row.run engine (Statement.about table script) = some result)
      rows results := by
  induction script generalizing contents rows with
  | nil =>
    obtain rfl : contents = final := by simpa [run] using ran
    exact ⟨rows, found, List.forall₂_same.mpr fun row _ => rfl⟩
  | cons s script ih =>
    obtain ⟨head, tail⟩ := List.forall_mem_cons.mp spared
    obtain ⟨next, executed, ran⟩ := Option.bind_eq_some_iff.mp ran
    by_cases on : s.alteredTable? = some table
    · obtain ⟨rows', altered, found', each, rfl⟩ := execute_of_alteredTable? on executed
      obtain rfl : rows' = rows := Option.some.inj (found'.symm.trans found)
      obtain ⟨results, held, rest⟩ := ih tail ran (Function.update_self ..)
      refine ⟨results, held, ?_⟩
      have whole : Statement.about table (s :: script) = s :: Statement.about table script :=
        List.filter_cons_of_pos (by simpa using on)
      rw [whole]
      exact forall₂_trans (fun first second => by
        rw [StoredRow.run, List.foldlM_cons, first]
        exact second) (mapM_eq_some_iff.mp each) rest
    · have kept := (execute_of_ne executed on head).trans found
      obtain ⟨results, held, rest⟩ := ih tail ran kept
      refine ⟨results, held, ?_⟩
      have without : Statement.about table (s :: script) = Statement.about table script :=
        List.filter_cons_of_neg (by simpa using on)
      rwa [without]

/-- Whatever a script does to a row of a table, it leaves in a column the value from before, changed
in one way. -/
def Carries (engine : Engine V) (table name : String) (change : V → V) (script : List Statement) :
    Prop :=
  ∀ row result : StoredRow V, row.run engine (Statement.about table script) = some result →
    ∀ value, row.values name = some value → result.values name = some (change value)

section Carries

variable {change change' : V → V} {first second : List Statement}

theorem carries_of_untouched
    (other : ∀ s ∈ script, s.alteredTable? = some table → ¬ s.Touches name) :
    Carries engine table name id script := by
  intro row result ran value held
  induction script generalizing row with
  | nil =>
    obtain rfl : row = result := by simpa [Statement.about, StoredRow.run] using ran
    exact held
  | cons s script ih =>
    obtain ⟨head, tail⟩ := List.forall_mem_cons.mp other
    by_cases on : s.alteredTable? = some table
    · rw [Statement.about, List.filter_cons_of_pos (by simpa using on)] at ran
      obtain ⟨next, altered, ran⟩ := Option.bind_eq_some_iff.mp ran
      exact ih tail next ran (((StoredRow.alter_spec altered).2 name (head on)).trans held)
    · rw [Statement.about, List.filter_cons_of_neg (by simpa using on)] at ran
      exact ih tail row ran held

theorem Carries.append (carried : Carries engine table name change first)
    (carried' : Carries engine table name change' second) :
    Carries engine table name (change' ∘ change) (first ++ second) := by
  intro row result ran value held
  rw [Statement.about, List.filter_append, StoredRow.run_append] at ran
  obtain ⟨next, before, after⟩ := Option.bind_eq_some_iff.mp ran
  exact carried' next result after _ (carried row next before value held)

theorem Carries.append_untouched (carried : Carries engine table name change first)
    (rest : Carries engine table name id second) :
    Carries engine table name change (first ++ second) :=
  carried.append rest

theorem Carries.untouched_append (rest : Carries engine table name id first)
    (carried : Carries engine table name change second) :
    Carries engine table name change (first ++ second) :=
  rest.append carried

/-- Of the parts of a script one at most is about the column, and the others leave it alone. -/
theorem carries_flatMap {ι : Type} {key : ι → String} (own : String) {part : ι → List Statement}
    {items : List ι} (distinct : (items.map key).Nodup)
    (others : ∀ item ∈ items, key item ≠ own → Carries engine table name id (part item))
    (here : ∀ item ∈ items, key item = own → Carries engine table name change (part item))
    (absent : own ∉ items.map key → change = id) :
    Carries engine table name change (items.flatMap part) := by
  induction items generalizing change with
  | nil =>
    obtain rfl := absent (by simp)
    exact carries_of_untouched (by simp)
  | cons item items ih =>
    obtain ⟨different, distinct⟩ := List.nodup_cons.mp distinct
    obtain ⟨head, others⟩ := List.forall_mem_cons.mp others
    obtain ⟨first, here⟩ := List.forall_mem_cons.mp here
    rw [List.flatMap_cons]
    by_cases same : key item = own
    · have rest : Carries engine table name id (items.flatMap part) := by
        refine ih distinct others (fun other member same' => ?_) fun _ => rfl
        exact absurd (List.mem_map_of_mem member) (same' ▸ same ▸ different)
      exact (first same).append_untouched rest
    · have rest := ih distinct others here fun missing => absent (by simp [Ne.symm same, missing])
      exact (head same).untouched_append rest

/-- A column whose type is changed has the values from before, cast to the type. -/
theorem carries_alterColumnType (table name : String) (type : NativeType) :
    Carries engine table name (engine.cast type) [.alterColumnType table name type] := by
  intro row result ran value held
  rw [Statement.about_eq_self (by simp [Statement.alteredTable?])] at ran
  obtain ⟨altered, first, ran⟩ := Option.bind_eq_some_iff.mp ran
  cases ran
  obtain ⟨value', held', first⟩ := Option.bind_eq_some_iff.mp first
  cases first
  obtain rfl : value' = value := Option.some.inj (held'.symm.trans held)
  simp

/-- A rebuilt column has the values from before, cast to its type. -/
theorem carries_rebuild {column : Column} {type : NativeType} (other : column.name ≠ name) :
    Carries engine table name (engine.cast type) [
      .addColumn table column,
      .copyCast table name column.name type,
      .dropColumn table name,
      .renameColumn table column.name name] := by
  intro row result ran value held
  rw [Statement.about_eq_self (by simp [Statement.alteredTable?])] at ran
  obtain ⟨added, first, ran⟩ := Option.bind_eq_some_iff.mp ran
  obtain ⟨copied, second, ran⟩ := Option.bind_eq_some_iff.mp ran
  obtain ⟨dropped, third, ran⟩ := Option.bind_eq_some_iff.mp ran
  obtain ⟨renamed, fourth, ran⟩ := Option.bind_eq_some_iff.mp ran
  cases ran
  simp only [StoredRow.alter, Option.ite_none_right_eq_some, Option.some.injEq] at first
  obtain ⟨-, rfl⟩ := first
  -- the value is copied under the temporary name, which then becomes that of the column
  have copiedValue : copied.values column.name = some (engine.cast type value) := by
    simp [StoredRow.alter, Function.update_of_ne (Ne.symm other), held] at second
    simp [← second]
  simp only [StoredRow.alter, Option.ite_none_right_eq_some, Option.some.injEq] at third fourth
  obtain ⟨-, rfl⟩ := third
  obtain ⟨-, rfl⟩ := fourth
  simp [other, copiedValue]

end Carries

end SchemaDelta
