import SchemaDelta.Proofs.Policies.Recorded
import SchemaDelta.Proofs.Settlement.Table

/-!
# The order of a migration

Where columns are altered in place, every statement of a migration is due at one moment. A moment is
a list of numbers, compared from the left: the phase of the migration, the position of the table,
then the part of the work on the table, the position of the field, and the step of the work on the
field. The statements of a migration come strictly in the order of their moments, so of two of them
the one that is due earlier is executed earlier.
-/

namespace SchemaDelta

namespace Snapshot

variable (snapshot : Snapshot)

/-- The position of a table in a snapshot. -/
def tablePosition (table : String) : Nat := snapshot.tableNames.idxOf table

/-- The position of a field in its table. -/
def fieldPosition (table name : String) : Nat :=
  match snapshot.table? table with
  | some declared => (declared.fields.map Field.name).idxOf name
  | none => 0

variable {snapshot} {table : String} {declared : Table}

theorem fieldPosition_of_table? (found : snapshot.table? table = some declared) (name : String) :
    snapshot.fieldPosition table name = (declared.fields.map Field.name).idxOf name := by
  rw [fieldPosition, found]

theorem tablePosition_inj (declared : (snapshot.table? table).isSome) {other : String} :
    snapshot.tablePosition table = snapshot.tablePosition other ↔ table = other :=
  List.idxOf_inj (table?_isSome_iff.mp declared)

theorem fieldPosition_inj {name : String} (declared : (snapshot.field? table name).isSome)
    {other : String} :
    snapshot.fieldPosition table name = snapshot.fieldPosition table other ↔ name = other := by
  obtain ⟨field, found⟩ := Option.isSome_iff_exists.mp declared
  obtain ⟨owner, foundTable, found⟩ := Option.bind_eq_some_iff.mp found
  rw [fieldPosition_of_table? foundTable, fieldPosition_of_table? foundTable]
  exact List.idxOf_inj (Table.field?_isSome_iff.mp (by simp [found]))

end Snapshot

/-- A moment of a migration. -/
abbrev Moment := List Nat

namespace Moment

/-- The first number that differs decides. -/
def Before (a b : Moment) : Prop := List.Lex (· < ·) a b

@[simp] theorem not_before_nil (a : Moment) : ¬ a.Before [] := List.not_lex_nil

@[simp] theorem before_cons {i j : Nat} {a b : Moment} :
    Before (i :: a) (j :: b) ↔ i < j ∨ i = j ∧ a.Before b := List.cons_lex_cons_iff

theorem before_irrefl (a : Moment) : ¬ a.Before a := List.lex_irrefl Nat.lt_irrefl a

theorem before_asymm {a b : Moment} (less : a.Before b) : ¬ b.Before a :=
  List.lex_asymm (fun {_ _} => Nat.lt_asymm) less

theorem before_trans {a b c : Moment} (first : a.Before b) (second : b.Before c) : a.Before c :=
  List.lex_trans (fun {_ _ _} => Nat.lt_trans) first second

/-- Moments with a common beginning are compared by the number after it. -/
theorem before_of_prefix {start a b : Moment} {i j : Nat} (first : start ++ [i] <+: a)
    (second : start ++ [j] <+: b) (less : i < j) : a.Before b := by
  obtain ⟨a', rfl⟩ := first
  obtain ⟨b', rfl⟩ := second
  induction start with
  | nil => simp [less]
  | cons k start ih => simpa using ih

end Moment

namespace Statement

variable (before after : Snapshot)

/-- The moment at which a statement of a migration is due: phase, position of the table, part of the
work on the table, position of the field, step of the work on the field. Constraints of new tables
are added after all tables were created; within a table, new columns come first, then the removed
ones, then the columns of both snapshots. -/
def moment : Statement → Moment
  | dropTable table _ => [0, before.tablePosition table, 0, 0, 0]
  | createTable table _ => [1, after.tablePosition table, 0, 0, 0]
  | addForeignKey table column _ =>
    if (before.table? table).isNone then
      [2, after.tablePosition table, 0, after.fieldPosition table column, 0]
    else if (before.field? table column).isNone then
      [3, after.tablePosition table, 0, after.fieldPosition table column, 1]
    else [3, after.tablePosition table, 2, after.fieldPosition table column, 4]
  | addColumn table column =>
    [3, after.tablePosition table, 0, after.fieldPosition table column.name, 0]
  | dropForeignKey table column =>
    if (after.field? table column).isNone then
      [3, after.tablePosition table, 1, before.fieldPosition table column, 0]
    else [3, after.tablePosition table, 2, after.fieldPosition table column, 3]
  | dropColumn table column =>
    [3, after.tablePosition table, 1, before.fieldPosition table column, 1]
  | alterColumnType table column _ =>
    [3, after.tablePosition table, 2, after.fieldPosition table column, 0]
  | alterNullable table column _ =>
    [3, after.tablePosition table, 2, after.fieldPosition table column, 1]
  | setDefault table column _ =>
    [3, after.tablePosition table, 2, after.fieldPosition table column, 2]
  | dropDefault table column =>
    [3, after.tablePosition table, 2, after.fieldPosition table column, 2]
  | enableRowSecurity table => [4, after.tablePosition table, 0, 0, 0]
  | dropPolicy table operation =>
    [4, after.tablePosition table, 1, Operation.all.idxOf operation, 0]
  | createPolicy table operation _ =>
    [4, after.tablePosition table, 2, Operation.all.idxOf operation, 0]
  | renameColumn _ _ _ => []
  | copyCast _ _ _ _ => []

/-- One statement is due before another. -/
def DueBefore (s t : Statement) : Prop := (s.moment before after).Before (t.moment before after)

/-- The moment of the statement begins with the given numbers. -/
def Within (start : Moment) (s : Statement) : Prop := start <+: s.moment before after

variable {before after}

/-- Of the statements of a script in order, those that are due before another one come before it. -/
theorem mem_earlier_iff {earlier later : List Statement} {s t : Statement}
    (ordered : (earlier ++ s :: later).Pairwise (DueBefore before after)) :
    t ∈ earlier ↔ t ∈ earlier ++ s :: later ∧ t.DueBefore before after s := by
  obtain ⟨-, rest, apart⟩ := List.pairwise_append.mp ordered
  obtain ⟨after', -⟩ := List.pairwise_cons.mp rest
  constructor
  · intro member
    exact ⟨List.mem_append_left _ member, apart t member s (by simp)⟩
  · rintro ⟨member, due⟩
    rcases List.mem_append.mp member with early | late
    · exact early
    rcases List.mem_cons.mp late with rfl | late
    · exact absurd due (Moment.before_irrefl _)
    · exact absurd due (Moment.before_asymm (after' t late))

end Statement

/-- A list of names in the order of another list has the positions in ascending order. -/
theorem pairwise_idxOf {ι κ : Type} [DecidableEq κ] {name : ι → κ} {items : List ι} {names : List κ}
    (distinct : names.Nodup) (ordered : (items.map name).Sublist names) :
    items.Pairwise fun x y => names.idxOf (name x) < names.idxOf (name y) := by
  have ascending : names.Pairwise fun a b => names.idxOf a < names.idxOf b := by
    rw [List.pairwise_iff_getElem]
    intro i j hi hj less
    rwa [distinct.idxOf_getElem i hi, distinct.idxOf_getElem j hj]
  have positions := ascending.sublist ordered
  rwa [List.pairwise_map] at positions

namespace Plan

variable {before after : Snapshot} {p q : Plan} {start : Moment} {first last k : Nat}

theorem pairwise_append {R : Statement → Statement → Prop} (left : p.statements.Pairwise R)
    (right : q.statements.Pairwise R) (apart : ∀ s ∈ p.statements, ∀ t ∈ q.statements, R s t) :
    (p ++ q).statements.Pairwise R := by
  cases failed : p.failure with
  | some error =>
    have same : p ++ q = p := by
      change Plan.append p q = p
      simp [Plan.append, failed]
    rw [same]
    exact left
  | none =>
    rw [statements_append failed, List.pairwise_append]
    exact ⟨left, right, apart⟩

/-- The statements come in the order of their moments, all of which begin with `start` and have a
number from `first` up to `last` after that. -/
structure Timed (before after : Snapshot) (start : Moment) (first last : Nat) (plan : Plan) :
    Prop where
  ordered : plan.statements.Pairwise (Statement.DueBefore before after)
  within : plan.All fun s =>
    ∃ i, first ≤ i ∧ i < last ∧ Statement.Within before after (start ++ [i]) s

theorem timed_of_eq_nil (none : p.statements = []) : p.Timed before after start first last where
  ordered := by simp [none]
  within := by simp [All, none]

theorem timed_congr (same : p.statements = q.statements)
    (timed : q.Timed before after start first last) : p.Timed before after start first last where
  ordered := by
    rw [same]
    exact timed.ordered
  within := by
    rw [All, same]
    exact timed.within

@[simp] theorem timed_nothing : nothing.Timed before after start first last := timed_of_eq_nil rfl

@[simp] theorem timed_fail (error : SchemaError) :
    (fail error).Timed before after start first last :=
  timed_of_eq_nil rfl

@[simp] theorem timed_warn (warning : Warning) :
    (warn warning).Timed before after start first last :=
  timed_of_eq_nil rfl

theorem timed_single {s : Statement} (within : s.Within before after (start ++ [k])) :
    (execute [s]).Timed before after start k (k + 1) where
  ordered := by simp
  within := all_execute.mpr (List.forall_mem_singleton.mpr
    ⟨k, Nat.le_refl k, Nat.lt_succ_self k, within⟩)

theorem Timed.all (timed : p.Timed before after (start ++ [k]) first last) :
    p.All (Statement.Within before after (start ++ [k])) := by
  intro s member
  obtain ⟨i, -, -, within⟩ := timed.within s member
  exact (List.prefix_append _ _).trans within

theorem Timed.widen {first' last' : Nat} (timed : p.Timed before after start first last)
    (lower : first' ≤ first) (upper : last ≤ last') :
    p.Timed before after start first' last' where
  ordered := timed.ordered
  within s member := by
    obtain ⟨i, more, less, within⟩ := timed.within s member
    exact ⟨i, Nat.le_trans lower more, Nat.lt_of_lt_of_le less upper, within⟩

theorem Timed.append (middle : Nat) (left : p.Timed before after start first middle)
    (right : q.Timed before after start middle last) (lower : first ≤ middle)
    (upper : middle ≤ last) : (p ++ q).Timed before after start first last where
  ordered := by
    refine pairwise_append left.ordered right.ordered fun s member t member' => ?_
    obtain ⟨i, -, less, within⟩ := left.within s member
    obtain ⟨j, more, -, within'⟩ := right.within t member'
    exact Moment.before_of_prefix within within' (Nat.lt_of_lt_of_le less more)
  within := all_append (left.widen (Nat.le_refl first) upper).within
    (right.widen lower (Nat.le_refl last)).within

/-- Plans for items are joined in order if the items stand in the order of their positions. -/
theorem timed_sequence {ι : Type} {items : List ι} {plan : ι → Plan} (start : Moment)
    (position : ι → Nat) (first last : Nat)
    (ordered : items.Pairwise fun x y => position x < position y)
    (each : ∀ item ∈ items,
      (plan item).Timed before after (start ++ [k] ++ [position item]) first last) :
    (sequence (items.map plan)).Timed before after start k (k + 1) where
  ordered := by
    induction items with
    | nil => simp [sequence]
    | cons item items ih =>
      obtain ⟨earliest, ordered⟩ := List.pairwise_cons.mp ordered
      obtain ⟨head, each⟩ := List.forall_mem_cons.mp each
      refine pairwise_append head.ordered (ih ordered each) fun s member => ?_
      refine all_sequence (List.forall_mem_map.mpr fun other among t member' => ?_)
      exact Moment.before_of_prefix (head.all s member) ((each other among).all t member')
        (earliest other among)
  within := by
    refine all_sequence (List.forall_mem_map.mpr fun item among s member => ?_)
    exact ⟨k, Nat.le_refl k, Nat.lt_succ_self k,
      (List.prefix_append _ _).trans ((each item among).all s member)⟩

theorem timed_ofResult {α : Type} {result : Except SchemaError α} {plan : α → Plan}
    (value : ∀ v, result = .ok v → (plan v).Timed before after start first last) :
    (ofResult result plan).Timed before after start first last := by
  cases result with
  | ok v => exact value v rfl
  | error e => exact timed_fail e

end Plan

end SchemaDelta
