import SchemaDelta.Diff

/-!
# Equality of what diffs compare

Diffs compare values with the equality of the model, for which the two zeros of a decimal are the
same. It is reflexive on every kind of value, so nothing differs from itself, and it is symmetric,
so a change can be read backwards. Types, flags and foreign keys are compared by identity.
-/

namespace SchemaDelta

theorem Binary64.beq_refl (x : Binary64) : Binary64.beq x x = true := by
  simp [Binary64.beq]

theorem Number.beq_refl (n : Number) : Number.beq n n = true := by
  cases n with
  | integer n => simp [Number.beq]
  | decimal x => exact Binary64.beq_refl x

instance : ReflBEq Number := ⟨Number.beq_refl _⟩

mutual

theorem Json.beq_refl : ∀ value : Json, Json.beq value value = true
  | .null => by simp [Json.beq]
  | .bool _ => by simp [Json.beq]
  | .number _ => by simp [Json.beq]
  | .string _ => by simp [Json.beq]
  | .array items => by simpa [Json.beq] using Json.beqItems_refl items
  | .object members => by simpa [Json.beq] using Json.beqMembers_refl members

theorem Json.beqItems_refl : ∀ items : List Json, Json.beqItems items items = true
  | [] => by simp [Json.beqItems]
  | item :: items => by simp [Json.beqItems, Json.beq_refl item, Json.beqItems_refl items]

theorem Json.beqMembers_refl :
    ∀ members : List (String × Json), Json.beqMembers members members = true
  | [] => by simp [Json.beqMembers]
  | (_, value) :: members => by
    simp [Json.beqMembers, Json.beq_refl value, Json.beqMembers_refl members]

end

instance : ReflBEq Json := ⟨Json.beq_refl _⟩

mutual

theorem Expr.beq_refl : ∀ e : Expr, Expr.beq e e = true
  | .literal _ => by simp [Expr.beq]
  | .field _ => by simp [Expr.beq]
  | .var _ => by simp [Expr.beq]
  | .compare _ left right => by simp [Expr.beq, Expr.beq_refl left, Expr.beq_refl right]
  | .and args => by simpa [Expr.beq] using Expr.beqArgs_refl args
  | .or args => by simpa [Expr.beq] using Expr.beqArgs_refl args
  | .not arg => by simpa [Expr.beq] using Expr.beq_refl arg
  | .isNull arg => by simpa [Expr.beq] using Expr.beq_refl arg
  | .call _ args => by simp [Expr.beq, Expr.beqArgs_refl args]

theorem Expr.beqArgs_refl : ∀ args : List Expr, Expr.beqArgs args args = true
  | [] => by simp [Expr.beqArgs]
  | arg :: args => by simp [Expr.beqArgs, Expr.beq_refl arg, Expr.beqArgs_refl args]

end

theorem Constant.beq_refl (c : Constant) : Constant.beq c c = true := by
  cases c with
  | null => rfl
  | bool value => simp [Constant.beq]
  | number n => exact Number.beq_refl n
  | text value => simp [Constant.beq]

instance : ReflBEq DefaultValue where
  rfl {value} := by
    cases value with
    | constant c => exact Constant.beq_refl c
    | computed e => exact Expr.beq_refl e

instance : ReflBEq Condition where
  rfl {condition} := by
    cases condition with
    | always allowed => cases allowed <;> rfl
    | expr e => exact Expr.beq_refl e

section Symmetry

theorem Binary64.beq_symm {x y : Binary64} (same : Binary64.beq x y = true) :
    Binary64.beq y x = true := by
  simp only [Binary64.beq, Bool.and_eq_true, Bool.or_eq_true, beq_iff_eq] at same ⊢
  rcases same with ⟨code, signs | zero⟩
  · exact ⟨code.symm, .inl signs.symm⟩
  · exact ⟨code.symm, .inr (code ▸ zero)⟩

theorem Number.beq_symm {m n : Number} (same : Number.beq m n = true) :
    Number.beq n m = true := by
  cases m <;> cases n <;> simp only [Number.beq, beq_iff_eq, Bool.false_eq_true] at same ⊢
  · exact same.symm
  · exact Binary64.beq_symm same

mutual

theorem Json.beq_symm : ∀ {x y : Json}, Json.beq x y = true → Json.beq y x = true
  | .null, y, same => by
    cases y <;> simp_all [Json.beq]
  | .bool _, y, same => by
    cases y <;> simp_all [Json.beq]
  | .number m, y, same => by
    cases y <;> simp only [Json.beq, Bool.false_eq_true] at same ⊢
    exact Number.beq_symm same
  | .string _, y, same => by
    cases y <;> simp_all [Json.beq]
  | .array xs, y, same => by
    cases y <;> simp only [Json.beq, Bool.false_eq_true] at same ⊢
    exact Json.beqItems_symm same
  | .object xs, y, same => by
    cases y <;> simp only [Json.beq, Bool.false_eq_true] at same ⊢
    exact Json.beqMembers_symm same

theorem Json.beqItems_symm :
    ∀ {xs ys : List Json}, Json.beqItems xs ys = true → Json.beqItems ys xs = true
  | [], ys, same => by
    cases ys <;> simp_all [Json.beqItems]
  | x :: xs, ys, same => by
    cases ys <;> simp only [Json.beqItems, Bool.and_eq_true, Bool.false_eq_true] at same ⊢
    exact ⟨Json.beq_symm same.1, Json.beqItems_symm same.2⟩

theorem Json.beqMembers_symm : ∀ {xs ys : List (String × Json)},
    Json.beqMembers xs ys = true → Json.beqMembers ys xs = true
  | [], ys, same => by
    cases ys <;> simp_all [Json.beqMembers]
  | (k, x) :: xs, ys, same => by
    cases ys <;>
      simp only [Json.beqMembers, Bool.and_eq_true, beq_iff_eq, Bool.false_eq_true] at same ⊢
    exact ⟨⟨same.1.1.symm, Json.beq_symm same.1.2⟩, Json.beqMembers_symm same.2⟩

end

mutual

theorem Expr.beq_symm : ∀ {d e : Expr}, Expr.beq d e = true → Expr.beq e d = true
  | .literal _, e, same => by
    cases e <;> simp only [Expr.beq, Bool.false_eq_true] at same ⊢
    exact Json.beq_symm same
  | .field _, e, same => by
    cases e <;> simp_all [Expr.beq]
  | .var _, e, same => by
    cases e <;> simp_all [Expr.beq]
  | .compare _ left right, e, same => by
    cases e <;> simp only [Expr.beq, Bool.and_eq_true, beq_iff_eq, Bool.false_eq_true] at same ⊢
    exact ⟨⟨same.1.1.symm, Expr.beq_symm same.1.2⟩, Expr.beq_symm same.2⟩
  | .and args, e, same => by
    cases e <;> simp only [Expr.beq, Bool.false_eq_true] at same ⊢
    exact Expr.beqArgs_symm same
  | .or args, e, same => by
    cases e <;> simp only [Expr.beq, Bool.false_eq_true] at same ⊢
    exact Expr.beqArgs_symm same
  | .not arg, e, same => by
    cases e <;> simp only [Expr.beq, Bool.false_eq_true] at same ⊢
    exact Expr.beq_symm same
  | .isNull arg, e, same => by
    cases e <;> simp only [Expr.beq, Bool.false_eq_true] at same ⊢
    exact Expr.beq_symm same
  | .call _ args, e, same => by
    cases e <;> simp only [Expr.beq, Bool.and_eq_true, beq_iff_eq, Bool.false_eq_true] at same ⊢
    exact ⟨same.1.symm, Expr.beqArgs_symm same.2⟩

theorem Expr.beqArgs_symm :
    ∀ {ds es : List Expr}, Expr.beqArgs ds es = true → Expr.beqArgs es ds = true
  | [], es, same => by
    cases es <;> simp_all [Expr.beqArgs]
  | d :: ds, es, same => by
    cases es <;> simp only [Expr.beqArgs, Bool.and_eq_true, Bool.false_eq_true] at same ⊢
    exact ⟨Expr.beq_symm same.1, Expr.beqArgs_symm same.2⟩

end

theorem Constant.beq_symm {c d : Constant} (same : Constant.beq c d = true) :
    Constant.beq d c = true := by
  cases c <;> cases d <;> simp only [Constant.beq, beq_iff_eq, Bool.false_eq_true] at same ⊢
  · exact same.symm
  · exact Number.beq_symm same
  · exact same.symm

instance : Std.Symm fun c d : DefaultValue => (c == d) = true where
  symm c d same := by
    cases c <;> cases d
    case constant.constant => exact Constant.beq_symm same
    case computed.computed => exact Expr.beq_symm same
    all_goals cases same

instance : Std.Symm fun c d : Option DefaultValue => (c == d) = true where
  symm c d same := by
    cases c <;> cases d
    case none.none => rfl
    case some.some => exact BEq.symm (α := DefaultValue) same
    all_goals cases same

theorem Condition.beq_symm {c d : Condition} (same : Condition.beq c d = true) :
    Condition.beq d c = true := by
  cases c <;> cases d <;> simp only [Condition.beq, beq_iff_eq, Bool.false_eq_true] at same ⊢
  · exact same.symm
  · exact Expr.beq_symm same

instance : Std.Symm fun c d : Condition => (c == d) = true := ⟨fun _ _ => Condition.beq_symm⟩

end Symmetry

namespace Change

variable {α : Type} [BEq α] {before after : α} {change : Change α}

theorem between_eq_none_iff : between before after = none ↔ (before == after) = true := by
  simp [between]

theorem between_eq_some_iff :
    between before after = some change ↔ (before == after) = false ∧ change = ⟨before, after⟩ := by
  unfold between
  cases same : before == after with
  | true => simp
  | false => simp [eq_comm]

theorem between_self [ReflBEq α] : between after after = none :=
  between_eq_none_iff.mpr BEq.rfl

theorem between_of_eq [ReflBEq α] (same : before = after) : between before after = none :=
  same ▸ between_self

theorem between_of_ne [LawfulBEq α] (differ : before ≠ after) :
    between before after = some ⟨before, after⟩ :=
  between_eq_some_iff.mpr ⟨beq_eq_false_iff_ne.mpr differ, rfl⟩

theorem toList_map_between {β : Type} (f : Change α → β) :
    ((between before after).map f).toList =
      if before == after then [] else [f ⟨before, after⟩] := by
  unfold between
  split <;> rfl

end Change

end SchemaDelta
