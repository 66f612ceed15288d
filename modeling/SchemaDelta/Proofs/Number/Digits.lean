import Mathlib.Logic.Function.Basic

/-!
# Decimal digits

The digits of a natural number determine it, and the first of them is zero for zero only.
-/

namespace SchemaDelta

theorem toList_toString (n : Nat) : (toString n).toList = Nat.toDigits 10 n := by
  rw [Nat.toString_eq_repr, Nat.toList_repr]

theorem toDigits_injective : Function.Injective (Nat.toDigits 10) := by
  intro m n digits
  calc
    m = Nat.ofDigitChars 10 (Nat.toDigits 10 m) 0 := Nat.ofDigitChars_ten_toDigits.symm
    _ = Nat.ofDigitChars 10 (Nat.toDigits 10 n) 0 := by rw [digits]
    _ = n := Nat.ofDigitChars_ten_toDigits

theorem toString_injective : Function.Injective (toString : Nat → String) := by
  intro m n same
  apply toDigits_injective
  rw [← toList_toString, ← toList_toString, same]

theorem isDigit_of_mem_toDigits {n : Nat} {c : Char} (member : c ∈ Nat.toDigits 10 n) :
    c.isDigit = true :=
  Nat.isDigit_of_mem_toDigits (by decide) (by decide) member

theorem toDigits_ne_zero_cons {n : Nat} (positive : 0 < n) (rest : List Char) :
    Nat.toDigits 10 n ≠ '0' :: rest := by
  induction n using Nat.base_induction 10 (by decide) generalizing rest with
  | single n small =>
    rw [Nat.toDigits_of_lt_base small]
    intro same
    have zero := Nat.digitChar_eq_zero.mp (List.cons.inj same).1
    omega
  | digit tens ones small positiveTens ih =>
    rw [← Nat.toDigits_append_toDigits (by decide) positiveTens small]
    cases digits : Nat.toDigits 10 tens with
    | nil => exact absurd digits Nat.toDigits_ne_nil
    | cons first others =>
      intro same
      obtain rfl := (List.cons.inj same).1
      exact ih positiveTens others digits

end SchemaDelta
