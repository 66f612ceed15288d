import SchemaDelta.Proofs.Equality
import SchemaDelta.Proofs.Expressions.Compiled
import SchemaDelta.Proofs.Expressions.Sources

/-!
# When expressions have the same text

Two expressions that are equal for a diff have the same shape, so their texts can be compared part
by part, each together with what follows it. Under two snapshots the texts are the same exactly if
the expressions are identical, down to the sign of a zero, and all their paths have the same way in
both.
-/

namespace SchemaDelta

/-- Two texts are the same, in front of anything that does not begin with a quote, exactly under a
condition. -/
def Matches (P : Prop) (a b : String) : Prop :=
  ∀ s t : List Char, s.head? ≠ some '"' → t.head? ≠ some '"' →
    (a.toList ++ s = b.toList ++ t ↔ P ∧ s = t)

/-- The texts of two lists match one by one. -/
inductive MatchesAll : Prop → List String → List String → Prop
  | nil : MatchesAll True [] []
  | cons {P Q : Prop} {a b : String} {as bs : List String} (head : Matches P a b)
    (tail : MatchesAll Q as bs) : MatchesAll (P ∧ Q) (a :: as) (b :: bs)

/-- A separator that does not begin with a quote keeps names apart from what follows them. -/
def Separates (separator : String) : Prop := ∃ c cs, separator.toList = c :: cs ∧ c ≠ '"'

/-- All texts of a list but the first, each after a separator. -/
def laterTexts (separator : String) (texts : List String) : List Char :=
  texts.flatMap fun text => separator.toList ++ text.toList

section Matches

variable {P Q : Prop} {a b l l' r r' separator : String} {as bs : List String}

theorem Matches.congr (matching : Matches P a b) (same : P ↔ Q) : Matches Q a b := by
  intro s t endsS endsT
  rw [matching s t endsS endsT, same]

theorem matches_self (a : String) : Matches True a a := by
  intro s t _ _
  rw [List.append_cancel_left_eq, true_and]

/-- Without anything behind them. -/
theorem Matches.eq_iff (matching : Matches P a b) : a = b ↔ P := by
  have texts := matching [] [] (by simp) (by simp)
  rw [List.append_nil, List.append_nil, and_iff_left rfl] at texts
  rw [← String.toList_inj, texts]

/-- Equal texts around two that match change nothing. -/
theorem Matches.enclosed (matching : Matches P a b) (front : String) {c : Char} {cs : List Char}
    {back : String} (letters : back.toList = c :: cs) (other : c ≠ '"') :
    Matches P (front ++ a ++ back) (front ++ b ++ back) := by
  intro s t _ _
  simp only [String.toList_append, List.append_assoc, List.append_cancel_left_eq]
  rw [matching _ _ (by simpa [letters] using other) (by simpa [letters] using other),
    List.append_cancel_left_eq]

/-- Two comparisons are compared side by side. -/
theorem Matches.compare (left : Matches P l l') (right : Matches Q r r') (operator : String) :
    Matches (P ∧ Q) ("(" ++ l ++ " " ++ operator ++ " " ++ r ++ ")")
      ("(" ++ l' ++ " " ++ operator ++ " " ++ r' ++ ")") := by
  intro s t _ _
  simp only [String.toList_append, List.append_assoc, List.append_cancel_left_eq]
  rw [left _ _ (by simp) (by simp)]
  simp only [List.append_cancel_left_eq]
  rw [right _ _ (by simp) (by simp), List.append_cancel_left_eq, and_assoc]

theorem MatchesAll.congr (matching : MatchesAll P as bs) (same : P ↔ Q) : MatchesAll Q as bs :=
  propext same ▸ matching

theorem toList_intercalate_cons (separator first : String) (others : List String) :
    (separator.intercalate (first :: others)).toList =
      first.toList ++ laterTexts separator others := by
  unfold laterTexts
  induction others generalizing first with
  | nil => simp
  | cons second others ih =>
    rw [String.intercalate_cons_cons, String.toList_append, String.toList_append, ih second,
      List.flatMap_cons, List.append_assoc, List.append_assoc]

theorem head?_laterTexts (separates : Separates separator) (texts : List String) {s : List Char}
    (ends : s.head? ≠ some '"') : (laterTexts separator texts ++ s).head? ≠ some '"' := by
  obtain ⟨c, cs, begins, other⟩ := separates
  cases texts with
  | nil => exact ends
  | cons text texts => simpa [laterTexts, begins] using other

/-- Texts that match one by one also do so with separators in between. -/
theorem MatchesAll.later (separates : Separates separator) (matching : MatchesAll P as bs)
    {s t : List Char} (endsS : s.head? ≠ some '"') (endsT : t.head? ≠ some '"') :
    laterTexts separator as ++ s = laterTexts separator bs ++ t ↔ P ∧ s = t := by
  induction matching with
  | nil => simp [laterTexts]
  | @cons P Q a b as bs head tail ih =>
    have first := head (laterTexts separator as ++ s) (laterTexts separator bs ++ t)
      (head?_laterTexts separates as endsS) (head?_laterTexts separates bs endsT)
    rw [ih] at first
    simp only [laterTexts, List.flatMap_cons, List.append_assoc, List.append_cancel_left_eq]
      at first ⊢
    rw [first, and_assoc]

theorem MatchesAll.intercalate (separates : Separates separator) (matching : MatchesAll P as bs) :
    Matches P (separator.intercalate as) (separator.intercalate bs) := by
  cases matching with
  | nil => exact matches_self _
  | @cons P Q a b as bs head tail =>
    intro s t endsS endsT
    rw [toList_intercalate_cons, toList_intercalate_cons, List.append_assoc, List.append_assoc,
      head _ _ (head?_laterTexts separates as endsS) (head?_laterTexts separates bs endsT),
      tail.later separates endsS endsT, and_assoc]

end Matches

section Parts

variable {scope scope' : Scope} {P : Prop} {a b : String} {as bs : List String}

theorem Number.matches_text {m n : Number} (same : Number.beq m n = true) :
    Matches (m = n) m.text n.text := by
  intro s t _ _
  constructor
  · intro texts
    cases m with
    | integer i =>
      cases n with
      | decimal y => cases same
      | integer j =>
        obtain rfl : i = j := by simpa [Number.beq] using same
        exact ⟨rfl, List.append_cancel_left texts⟩
    | decimal x =>
      cases n with
      | integer j => cases same
      | decimal y =>
        rcases x with ⟨negative, code, finite⟩
        rcases y with ⟨negative', code', finite'⟩
        obtain ⟨rfl, signs⟩ : code = code' ∧ (negative = negative' ∨ code = 0) := by
          simpa [Number.beq, BEq.beq, Binary64.beq] using same
        by_cases sign : negative = negative'
        · subst sign
          exact ⟨rfl, List.append_cancel_left texts⟩
        · -- of the two zeros only one begins with a sign
          obtain rfl := signs.resolve_left sign
          cases negative <;> cases negative' <;>
            simp_all [Number.text, Binary64.text, Binary64.magnitudeText, Binary64.isZero]
  · rintro ⟨rfl, rfl⟩
    rfl

theorem Scope.matches_literal (dialects : scope.dialect = scope'.dialect) {v w : Json}
    (same : Json.beq v w = true) (first : scope.literal v = .ok a)
    (second : scope'.literal w = .ok b) : Matches (v = w) a b := by
  cases v <;> cases w <;> simp only [Json.beq, Bool.false_eq_true, beq_iff_eq] at same
  case null.null =>
    cases first
    cases second
    exact (matches_self "NULL").congr (by simp)
  case bool.bool x y =>
    cases first
    cases second
    subst same
    rw [dialects]
    exact (matches_self _).congr (by simp)
  case number.number m n =>
    cases first
    cases second
    exact (Number.matches_text same).congr (by simp)
  case string.string x y =>
    cases first
    cases second
    subst same
    exact (matches_self _).congr (by simp)
  all_goals cases first

theorem matches_field {before after : Snapshot} (validBefore : before.Valid)
    (validAfter : after.Valid) {dialect : Dialect} {table path : String}
    {bindings : List (String × String)}
    (first : compileSql ⟨dialect, table, before, bindings⟩ (.field path) = .ok a)
    (second : compileSql ⟨dialect, table, after, bindings⟩ (.field path) = .ok b) :
    Matches (before.SameWay after table (segments path).1 (segments path).2) a b := by
  intro s t endsS endsT
  obtain ⟨p, queried, rfl, -⟩ := Scope.query_of_compileSql_field validBefore first
  obtain ⟨q, queried', rfl, -⟩ := Scope.query_of_compileSql_field validAfter second
  rw [← Snapshot.pathQuery_eq_iff queried queried']
  constructor
  · exact Query.render_append_inj endsS endsT
  · rintro ⟨rfl, rfl⟩
    rfl

theorem Scope.matches_join (dialects : scope.dialect = scope'.dialect) {operator : String}
    (separates : Separates operator) (neutral : Bool) (matching : MatchesAll P as bs) :
    Matches P (scope.join operator neutral as) (scope'.join operator neutral bs) := by
  cases matching with
  | nil =>
    rw [join, join, dialects]
    exact matches_self _
  | cons head tail =>
    have joined := (MatchesAll.cons head tail).intercalate separates
    exact joined.enclosed "(" (rfl : ")".toList = [')']) (by decide)

theorem SqlFunction.matches_sql (function : SqlFunction) (dialect : Dialect)
    (accepted : function.arity.accepts as.length = true) (matching : MatchesAll P as bs) :
    Matches P (function.sql dialect as) (function.sql dialect bs) := by
  have bare : as.length = 0 → P := by
    intro none
    cases matching with
    | nil => trivial
    | cons => cases none
  have separates : Separates ", " := ⟨',', [' '], rfl, by decide⟩
  have applied : Matches P (function.name ++ "(" ++ ", ".intercalate as ++ ")")
      (function.name ++ "(" ++ ", ".intercalate bs ++ ")") :=
    (matching.intercalate separates).enclosed _ (rfl : ")".toList = [')']) (by decide)
  cases function
  case now | currentDate | uuid =>
    have holds := bare (by simpa [arity, Arity.accepts] using accepted)
    exact (matches_self _).congr (iff_of_true trivial holds)
  all_goals exact applied

theorem Scope.matches_call (dialects : scope.dialect = scope'.dialect) {name : String}
    (matching : MatchesAll P as bs) (first : scope.call name as = .ok a)
    (second : scope'.call name bs = .ok b) : Matches P a b := by
  unfold call at first second
  cases known : SqlFunction.ofName? name with
  | none =>
    rw [known] at first
    cases first
  | some function =>
    simp only [known] at first second
    split at first
    · split at second
      · cases first
        cases second
        rw [dialects]
        exact function.matches_sql scope'.dialect ‹_› matching
      · cases second
    · cases first

end Parts

section Expressions

variable {before after : Snapshot} {dialect : Dialect} {table : String}
  {bindings : List (String × String)}

mutual

/-- The SQL of an expression under two snapshots, of which the second may have one that is merely
equal for a diff. -/
theorem Expr.matches_compileSql (validBefore : before.Valid) (validAfter : after.Valid) :
    ∀ {d e : Expr} {a b : String}, Expr.beq d e = true →
    compileSql ⟨dialect, table, before, bindings⟩ d = .ok a →
    compileSql ⟨dialect, table, after, bindings⟩ e = .ok b →
    Matches (d = e ∧ before.SameWays after table d.paths) a b
  | .literal v, e, a, b, same, first, second => by
    cases e <;> simp only [Expr.beq, Bool.false_eq_true] at same
    rw [compileSql] at first second
    exact (Scope.matches_literal rfl same first second).congr
      (by simp [Expr.paths, Snapshot.SameWays])
  | .field path, e, a, b, same, first, second => by
    cases e <;> simp only [Expr.beq, Bool.false_eq_true, beq_iff_eq] at same
    subst same
    exact (matches_field validBefore validAfter first second).congr
      (by simp [Expr.paths, Snapshot.SameWays])
  | .var name, e, a, b, same, first, second => by
    cases e <;> simp only [Expr.beq, Bool.false_eq_true, beq_iff_eq] at same
    subst same
    rw [compileSql_var_eq_ok_iff] at first second
    obtain rfl : a = b := Option.some.inj (first.symm.trans second)
    exact (matches_self a).congr (by simp [Expr.paths, Snapshot.SameWays])
  | .compare op left right, e, a, b, same, first, second => by
    cases e <;> simp only [Expr.beq, Bool.and_eq_true, beq_iff_eq, Bool.false_eq_true] at same
    obtain ⟨⟨rfl, lefts⟩, rights⟩ := same
    obtain ⟨l, r, madeL, madeR, rfl⟩ := compileSql_compare_eq_ok_iff.mp first
    obtain ⟨l', r', madeL', madeR', rfl⟩ := compileSql_compare_eq_ok_iff.mp second
    have compared := (matches_compileSql validBefore validAfter lefts madeL madeL').compare
      (matches_compileSql validBefore validAfter rights madeR madeR') op.sql
    refine compared.congr ?_
    rw [Expr.compare.injEq, Expr.paths, Snapshot.sameWays_append]
    tauto
  | .and args, e, a, b, same, first, second => by
    cases e <;> simp only [Expr.beq, Bool.false_eq_true] at same
    obtain ⟨operands, made, rfl⟩ := compileSql_and_eq_ok_iff.mp first
    obtain ⟨operands', made', rfl⟩ := compileSql_and_eq_ok_iff.mp second
    have separates : Separates " AND " := ⟨' ', "AND ".toList, rfl, by decide⟩
    have operandsMatch := matchesAll_compileSql validBefore validAfter same made made'
    refine (Scope.matches_join rfl separates true operandsMatch).congr ?_
    rw [Expr.and.injEq, Expr.paths]
  | .or args, e, a, b, same, first, second => by
    cases e <;> simp only [Expr.beq, Bool.false_eq_true] at same
    obtain ⟨operands, made, rfl⟩ := compileSql_or_eq_ok_iff.mp first
    obtain ⟨operands', made', rfl⟩ := compileSql_or_eq_ok_iff.mp second
    have separates : Separates " OR " := ⟨' ', "OR ".toList, rfl, by decide⟩
    have operandsMatch := matchesAll_compileSql validBefore validAfter same made made'
    refine (Scope.matches_join rfl separates false operandsMatch).congr ?_
    rw [Expr.or.injEq, Expr.paths]
  | .not arg, e, a, b, same, first, second => by
    cases e <;> simp only [Expr.beq, Bool.false_eq_true] at same
    obtain ⟨operand, made, rfl⟩ := compileSql_not_eq_ok_iff.mp first
    obtain ⟨operand', made', rfl⟩ := compileSql_not_eq_ok_iff.mp second
    have negated := (matches_compileSql validBefore validAfter same made made').enclosed "(NOT "
      (rfl : ")".toList = [')']) (by decide)
    exact negated.congr (by rw [Expr.not.injEq, Expr.paths])
  | .isNull arg, e, a, b, same, first, second => by
    cases e <;> simp only [Expr.beq, Bool.false_eq_true] at same
    obtain ⟨operand, made, rfl⟩ := compileSql_isNull_eq_ok_iff.mp first
    obtain ⟨operand', made', rfl⟩ := compileSql_isNull_eq_ok_iff.mp second
    have tested := (matches_compileSql validBefore validAfter same made made').enclosed "("
      (rfl : " IS NULL)".toList = ' ' :: "IS NULL)".toList) (by decide)
    exact tested.congr (by rw [Expr.isNull.injEq, Expr.paths])
  | .call name args, e, a, b, same, first, second => by
    cases e <;> simp only [Expr.beq, Bool.and_eq_true, beq_iff_eq, Bool.false_eq_true] at same
    obtain ⟨rfl, same⟩ := same
    obtain ⟨operands, made, called⟩ := compileSql_call_eq_ok_iff.mp first
    obtain ⟨operands', made', called'⟩ := compileSql_call_eq_ok_iff.mp second
    have operandsMatch := matchesAll_compileSql validBefore validAfter same made made'
    refine (Scope.matches_call rfl operandsMatch called called').congr ?_
    simp [Expr.paths]

theorem Expr.matchesAll_compileSql (validBefore : before.Valid) (validAfter : after.Valid) :
    ∀ {ds es : List Expr} {as bs : List String}, Expr.beqArgs ds es = true →
    compileSqlList ⟨dialect, table, before, bindings⟩ ds = .ok as →
    compileSqlList ⟨dialect, table, after, bindings⟩ es = .ok bs →
    MatchesAll (ds = es ∧ before.SameWays after table (Expr.pathsOfArgs ds)) as bs
  | [], es, as, bs, same, first, second => by
    cases es <;> simp only [Expr.beqArgs, Bool.false_eq_true] at same
    cases first
    cases second
    exact MatchesAll.nil.congr (by simp [Expr.pathsOfArgs, Snapshot.SameWays])
  | d :: ds, es, as, bs, same, first, second => by
    cases es <;> simp only [Expr.beqArgs, Bool.and_eq_true, Bool.false_eq_true] at same
    obtain ⟨a, as, made, others, rfl⟩ := compileSqlList_cons_eq_ok_iff.mp first
    obtain ⟨b, bs, made', others', rfl⟩ := compileSqlList_cons_eq_ok_iff.mp second
    have both := MatchesAll.cons (matches_compileSql validBefore validAfter same.1 made made')
      (matchesAll_compileSql validBefore validAfter same.2 others others')
    refine both.congr ?_
    rw [List.cons.injEq, Expr.pathsOfArgs, Snapshot.sameWays_append]
    tauto

end

end Expressions

end SchemaDelta
