import Mathlib.Data.Rat.Cast.Order
import SchemaDelta.Proofs.Number.Digits
import SchemaDelta.Proofs.Number.Rounding
import SchemaDelta.Number

/-!
# Spellings of numbers

The text of a number is a numeral: the reader of numerals finds its sign and its digits again. The
exact value of the numeral is the integer or the shortest decimal that was written, and a decimal
always has a fraction or an exponent. So different numbers have different texts.
-/

namespace SchemaDelta

namespace Numeral

/-! ## Digits of a numeral -/

/-- The digit that a character stands for. -/
def digitOf (c : Char) : Nat := c.toNat - 48

/-- A text does not start with a digit. -/
def Breaks (text : List Char) : Prop := ∀ c ∈ text.head?, c.isDigit = false

theorem takeDigits_append {digits rest : List Char} (each : ∀ c ∈ digits, c.isDigit = true)
    (breaks : Breaks rest) : takeDigits (digits ++ rest) = (digits.map digitOf, rest) := by
  induction digits with
  | nil =>
    cases rest with
    | nil => rfl
    | cons c rest =>
      have other : c.isDigit = false := breaks c rfl
      rw [List.nil_append, takeDigits, other]
      rfl
  | cons c digits ih =>
    obtain ⟨digit, others⟩ := List.forall_mem_cons.mp each
    rw [List.cons_append, takeDigits, if_pos digit, ih others]
    rfl

theorem someDigits?_append {digits rest : List Char} (each : ∀ c ∈ digits, c.isDigit = true)
    (nonempty : digits ≠ []) (breaks : Breaks rest) :
    someDigits? (digits ++ rest) = some (digits.map digitOf, rest) := by
  obtain ⟨c, digits, rfl⟩ := List.exists_cons_of_ne_nil nonempty
  rw [someDigits?, takeDigits_append each breaks]
  rfl

theorem valueOfDigits_map (digits : List Char) :
    valueOfDigits (digits.map digitOf) = Nat.ofDigitChars 10 digits 0 := by
  rw [valueOfDigits, List.foldl_map, Nat.ofDigitChars_eq_foldl]
  congr 1
  funext value c
  rw [Nat.mul_comm, digitOf]
  rfl

theorem eq_zero_of_digitOf {c : Char} (digit : c.isDigit = true) (zero : digitOf c = 0) :
    c = '0' := by
  have range : 48 ≤ c.toNat := by
    simp only [Char.isDigit, Bool.and_eq_true, decide_eq_true_eq] at digit
    exact digit.1
  have code : c.toNat = '0'.toNat := by
    have least : '0'.toNat = 48 := rfl
    unfold digitOf at zero
    omega
  exact Char.toNat_inj.mp code

/-! ## Parts of a text -/

/-- The parts of the text of a numeral. -/
structure Spelling where
  negative : Bool
  whole : List Char
  fraction : Option (List Char)
  exponent : Option (Bool × List Char)

namespace Spelling

variable (spelling : Spelling)

/-- The fraction with the point before it, or nothing. -/
def fractionChars : List Char :=
  match spelling.fraction with
  | none => []
  | some digits => '.' :: digits

/-- The exponent with its sign, or nothing. -/
def exponentChars : List Char :=
  match spelling.exponent with
  | none => []
  | some (negative, digits) => 'e' :: (if negative then '-' else '+') :: digits

/-- The text that has these parts, without the sign. -/
def unsigned : List Char := spelling.whole ++ (spelling.fractionChars ++ spelling.exponentChars)

/-- The text that has these parts. -/
def chars : List Char := (if spelling.negative then ['-'] else []) ++ spelling.unsigned

/-- The numeral that has these parts. -/
def numeral : Numeral where
  negative := spelling.negative
  whole := spelling.whole.map digitOf
  fraction := spelling.fraction.map (·.map digitOf)
  exponent := spelling.exponent.map fun (negative, digits) => ⟨negative, digits.map digitOf⟩

/-- Every part has digits, and the first of them is not a needless zero. -/
structure Proper : Prop where
  whole : ∀ c ∈ spelling.whole, c.isDigit = true
  nonempty : spelling.whole ≠ []
  leading : ∀ rest, spelling.whole = '0' :: rest → rest = []
  fraction : ∀ digits ∈ spelling.fraction, (∀ c ∈ digits, c.isDigit = true) ∧ digits ≠ []
  exponent : ∀ part ∈ spelling.exponent, (∀ c ∈ part.2, c.isDigit = true) ∧ part.2 ≠ []

theorem breaks_exponentChars : Breaks spelling.exponentChars := by
  intro c first
  unfold exponentChars at first
  split at first
  · cases first
  · cases first
    rfl

theorem breaks_fractionChars : Breaks (spelling.fractionChars ++ spelling.exponentChars) := by
  unfold fractionChars
  split
  · exact spelling.breaks_exponentChars
  · rintro c ⟨⟩
    rfl

/-- Without a fraction there is no point after the whole part. -/
theorem no_point (cs : List Char) : spelling.exponentChars = '.' :: cs → False := by
  intro same
  unfold exponentChars at same
  split at same
  · cases same
  · cases same

variable {spelling}

theorem readExponent?_exponentChars (proper : spelling.Proper) :
    readExponent? spelling.exponentChars = some spelling.numeral.exponent := by
  unfold exponentChars numeral
  cases part : spelling.exponent with
  | none => rfl
  | some part' =>
    obtain ⟨negative, digits⟩ := part'
    obtain ⟨each, nonempty⟩ := proper.exponent _ part
    have found : someDigits? (digits ++ []) = some (digits.map digitOf, []) :=
      someDigits?_append each nonempty nofun
    rw [List.append_nil] at found
    cases negative <;> simp [readExponent?, found]

/-- A longer whole part does not start with zero, for which it would be refused. -/
theorem Proper.not_needless (proper : spelling.Proper) (long : 1 < spelling.whole.length) (c : Char)
    (first : spelling.whole.head? = some c) : ¬ digitOf c = 0 := by
  intro zero
  obtain ⟨rest, shape⟩ := List.head?_eq_some_iff.mp first
  have digit := proper.whole c (shape ▸ List.mem_cons_self)
  obtain rfl := eq_zero_of_digitOf digit zero
  rw [shape, proper.leading rest shape] at long
  exact absurd long (by simp)

/-- Without a sign the text does not start like one with a sign. -/
theorem Proper.no_sign (proper : spelling.Proper) (rest cs : List Char) :
    spelling.whole ++ rest = '-' :: cs → False := by
  intro same
  obtain ⟨c, others, shape⟩ := List.exists_cons_of_ne_nil proper.nonempty
  rw [shape, List.cons_append] at same
  obtain rfl := (List.cons.inj same).1
  exact absurd (proper.whole '-' (shape ▸ List.mem_cons_self)) (by decide)

/-- The reader of numerals finds the parts of a text again. -/
theorem ofChars?_chars (proper : spelling.Proper) :
    ofChars? spelling.chars = some spelling.numeral := by
  have whole := someDigits?_append proper.whole proper.nonempty spelling.breaks_fractionChars
  have needed := proper.not_needless
  have noSign := proper.no_sign (spelling.fractionChars ++ spelling.exponentChars)
  have exponent := readExponent?_exponentChars proper
  -- the fraction decides what is read after the whole part; what is known to be missing, a sign or
  -- a point, excludes the branches that would read it
  cases part : spelling.fraction with
  | none =>
    have noFraction : spelling.fractionChars = [] := by rw [fractionChars, part]
    have noPoint := spelling.no_point
    rw [noFraction, List.nil_append] at whole noSign
    unfold ofChars? chars unsigned
    rw [noFraction, List.nil_append]
    cases sign : spelling.negative <;>
      simpa [whole, exponent, numeral, part, sign] using needed
  | some digits =>
    obtain ⟨each, nonempty⟩ := proper.fraction digits part
    have found := someDigits?_append each nonempty spelling.breaks_exponentChars
    have point : spelling.fractionChars = '.' :: digits := by rw [fractionChars, part]
    rw [point, List.cons_append] at whole noSign
    unfold ofChars? chars unsigned
    rw [point, List.cons_append]
    cases sign : spelling.negative <;>
      simpa [whole, found, exponent, numeral, part, sign] using needed

end Spelling

/-! ## Exact values -/

/-- The power of ten that an exponent stands for. -/
def Exponent.value (e : Exponent) : Int :=
  if e.negative then -(valueOfDigits e.digits : Int) else valueOfDigits e.digits

/-- The magnitude that a numeral stands for, before it is rounded. -/
def magnitude (n : Numeral) : ℚ :=
  valueOfDigits (n.whole ++ n.fraction.getD []) *
    10 ^ ((n.exponent.map Exponent.value).getD 0 - (n.fraction.getD []).length)

theorem Spelling.magnitude_numeral (spelling : Spelling) :
    spelling.numeral.magnitude =
      Nat.ofDigitChars 10 (spelling.whole ++ spelling.fraction.getD []) 0 *
        10 ^ ((spelling.numeral.exponent.map Exponent.value).getD 0 -
          (spelling.fraction.getD []).length) := by
  have fraction : spelling.numeral.fraction.getD [] = (spelling.fraction.getD []).map digitOf := by
    unfold numeral
    cases spelling.fraction <;> rfl
  rw [magnitude, fraction, List.length_map, ← valueOfDigits_map, List.map_append]
  rfl

theorem Exponent.value_toDigits (e : Int) :
    Exponent.value ⟨decide (e < 0), (Nat.toDigits 10 e.natAbs).map digitOf⟩ = e := by
  unfold Exponent.value
  rw [valueOfDigits_map, Nat.ofDigitChars_ten_toDigits]
  by_cases negative : e < 0
  · simp only [negative, decide_true, if_true]
    omega
  · simp only [negative, decide_false, Bool.false_eq_true, if_false]
    omega

/-- The parts of the text of a magnitude that has a fraction or an exponent. -/
structure Spelling.Writes (spelling : Spelling) (text : List Char) (magnitude : ℚ) : Prop where
  proper : spelling.Proper
  unsigned : spelling.unsigned = text
  magnitude : spelling.numeral.magnitude = magnitude
  decimal : spelling.fraction.isSome = true ∨ spelling.exponent.isSome = true

/-! ## Layouts -/

section Layouts

variable {n : Nat}

theorem isDigit_of_mem_zeros {c : Char} {k : Nat} (member : c ∈ List.replicate k '0') :
    c.isDigit = true := by
  rw [List.eq_of_mem_replicate member]
  rfl

/-- A whole part that starts like a positive number has no needless zero. -/
theorem leading_of_head? {whole : List Char} (positive : 0 < n)
    (first : whole.head? = (Nat.toDigits 10 n).head?) (rest : List Char)
    (zero : whole = '0' :: rest) : rest = [] := by
  obtain ⟨c, digits, shape⟩ := List.exists_cons_of_ne_nil (Nat.toDigits_ne_nil (b := 10) (n := n))
  rw [zero, shape] at first
  obtain rfl := Option.some.inj first
  exact absurd shape (toDigits_ne_zero_cons positive digits)

/-- Digits, zeros after them, and a fraction of zero. -/
theorem writes_whole (negative : Bool) (positive : 0 < n) (k : Nat) :
    (⟨negative, Nat.toDigits 10 n ++ List.replicate k '0', some ['0'], none⟩ : Spelling).Writes
      (Nat.toDigits 10 n ++ List.replicate k '0' ++ ['.', '0']) (n * 10 ^ (k : Int)) where
  proper := {
    whole := List.forall_mem_append.mpr
      ⟨fun _ => isDigit_of_mem_toDigits, fun _ => isDigit_of_mem_zeros⟩
    nonempty := by simp [Nat.toDigits_ne_nil]
    leading := leading_of_head? positive (List.head?_append_of_ne_nil _ Nat.toDigits_ne_nil)
    fraction := by
      rintro _ ⟨⟩
      exact ⟨List.forall_mem_singleton.mpr rfl, List.cons_ne_nil _ _⟩
    exponent := nofun }
  unsigned := rfl
  magnitude := by
    have digits : Nat.ofDigitChars 10
        ((Nat.toDigits 10 n ++ List.replicate k '0') ++ ['0']) 0 = 10 * (10 ^ k * n) := by
      rw [Nat.ofDigitChars_append, Nat.ofDigitChars_append, Nat.ofDigitChars_ten_toDigits,
        Nat.ofDigitChars_replicate_zero]
      exact Nat.ofDigitChars_replicate_zero (n := 1)
    rw [Spelling.magnitude_numeral, Option.getD_some, digits]
    change ((10 * (10 ^ k * n) : Nat) : ℚ) * 10 ^ (-1 : Int) = _
    push_cast
    rw [zpow_natCast, zpow_neg_one]
    ring
  decimal := .inl rfl

/-- Digits with a point between them. -/
theorem writes_inside (negative : Bool) (positive : 0 < n) {k : Nat} (some_before : 0 < k)
    (some_after : k < (Nat.toDigits 10 n).length) :
    (⟨negative, (Nat.toDigits 10 n).take k, some ((Nat.toDigits 10 n).drop k), none⟩ :
      Spelling).Writes ((Nat.toDigits 10 n).take k ++ '.' :: (Nat.toDigits 10 n).drop k)
        (n * 10 ^ ((k : Int) - (Nat.toDigits 10 n).length)) where
  proper := {
    whole := fun _ member => isDigit_of_mem_toDigits (List.mem_of_mem_take member)
    nonempty := by simp [Nat.toDigits_ne_nil, Nat.pos_iff_ne_zero.mp some_before]
    leading := leading_of_head? positive (List.head?_take.trans (if_neg (by omega)))
    fraction := by
      rintro _ ⟨⟩
      refine ⟨fun _ member => isDigit_of_mem_toDigits (List.mem_of_mem_drop member), ?_⟩
      simpa using some_after
    exponent := nofun }
  unsigned := by simp [Spelling.unsigned, Spelling.fractionChars, Spelling.exponentChars]
  magnitude := by
    rw [Spelling.magnitude_numeral, Option.getD_some, List.take_append_drop,
      Nat.ofDigitChars_ten_toDigits, List.length_drop]
    congr 2
    change (0 : Int) - ((Nat.toDigits 10 n).length - k : Nat) = _
    omega
  decimal := .inl rfl

/-- Digits after a point, with zeros between. -/
theorem writes_before (negative : Bool) (k : Nat) :
    (⟨negative, ['0'], some (List.replicate k '0' ++ Nat.toDigits 10 n), none⟩ : Spelling).Writes
      ('0' :: '.' :: (List.replicate k '0' ++ Nat.toDigits 10 n))
        (n * 10 ^ (-((k : Int) + (Nat.toDigits 10 n).length))) where
  proper := {
    whole := List.forall_mem_singleton.mpr rfl
    nonempty := List.cons_ne_nil _ _
    leading := fun rest same => (List.cons.inj same).2.symm
    fraction := by
      rintro _ ⟨⟩
      exact ⟨List.forall_mem_append.mpr
        ⟨fun _ => isDigit_of_mem_zeros, fun _ => isDigit_of_mem_toDigits⟩,
        by simp [Nat.toDigits_ne_nil]⟩
    exponent := nofun }
  unsigned := by simp [Spelling.unsigned, Spelling.fractionChars, Spelling.exponentChars]
  magnitude := by
    have digits : Nat.ofDigitChars 10
        (['0'] ++ (List.replicate k '0' ++ Nat.toDigits 10 n)) 0 = n := by
      rw [Nat.ofDigitChars_append, Nat.ofDigitChars_append, Nat.ofDigitChars_replicate_zero]
      exact Nat.ofDigitChars_ten_toDigits
    rw [Spelling.magnitude_numeral, Option.getD_some, digits, List.length_append,
      List.length_replicate]
    congr 2
    change (0 : Int) - (k + (Nat.toDigits 10 n).length : Nat) = _
    omega
  decimal := .inl rfl

/-- One digit before the point, and an exponent. -/
theorem writes_scientific (negative : Bool) (positive : 0 < n) (e : Int) :
    (⟨negative, (Nat.toDigits 10 n).take 1,
      if (Nat.toDigits 10 n).drop 1 = [] then none else some ((Nat.toDigits 10 n).drop 1),
      some (decide (e < 0), Nat.toDigits 10 e.natAbs)⟩ : Spelling).Writes
        ((Nat.toDigits 10 n).take 1 ++
          ((if (Nat.toDigits 10 n).drop 1 = [] then [] else '.' :: (Nat.toDigits 10 n).drop 1) ++
            'e' :: (if e < 0 then '-' else '+') :: Nat.toDigits 10 e.natAbs))
        (n * 10 ^ (e - ((Nat.toDigits 10 n).length - 1))) where
  proper := {
    whole := fun _ member => isDigit_of_mem_toDigits (List.mem_of_mem_take member)
    nonempty := by simp [Nat.toDigits_ne_nil]
    leading := leading_of_head? positive (List.head?_take.trans (if_neg (by decide)))
    fraction := by
      intro digits part
      split at part
      · cases part
      · next some_after =>
        cases part
        exact ⟨fun _ member => isDigit_of_mem_toDigits (List.mem_of_mem_drop member), some_after⟩
    exponent := by
      rintro _ ⟨⟩
      exact ⟨fun _ => isDigit_of_mem_toDigits, Nat.toDigits_ne_nil⟩ }
  unsigned := by
    simp only [Spelling.unsigned, Spelling.fractionChars, Spelling.exponentChars,
      decide_eq_true_eq]
    by_cases last : (Nat.toDigits 10 n).drop 1 = []
    · rw [if_pos last, if_pos last]
    · rw [if_neg last, if_neg last]
  magnitude := by
    have fraction : (if (Nat.toDigits 10 n).drop 1 = [] then none
        else some ((Nat.toDigits 10 n).drop 1)).getD [] = (Nat.toDigits 10 n).drop 1 := by
      split
      · next last => rw [last]; rfl
      · rfl
    have exponent : ((some (Exponent.mk (decide (e < 0))
        ((Nat.toDigits 10 e.natAbs).map digitOf))).map Exponent.value).getD 0 = e :=
      Exponent.value_toDigits e
    have nonempty := Nat.length_toDigits_pos (b := 10) (n := n)
    rw [Spelling.magnitude_numeral]
    simp only [fraction, List.take_append_drop, Nat.ofDigitChars_ten_toDigits, List.length_drop]
    congr 2
    rw [Spelling.numeral, Option.map_some]
    simp only [exponent]
    omega
  decimal := .inr rfl

end Layouts

end Numeral

open Numeral

/-! ## Decimals -/

theorem toList_pushn_zero (k : Nat) : ("".pushn '0' k).toList = List.replicate k '0' := by
  rw [String.pushn_eq_repeat_push]
  induction k with
  | zero => rfl
  | succ k ih => rw [Nat.repeat, String.toList_push, ih, List.replicate_succ']

namespace Binary64

/-- The exact magnitude of what is written for a double. -/
def writtenMagnitude (x : Binary64) : ℚ := if x.isZero then 0 else x.shortest.value

theorem length_toString (n : Nat) : (toString n).length = (Nat.toDigits 10 n).length := by
  rw [← toList_toString, String.length_toList]

theorem toList_scientific (digits exponent : List Char) (e : Int) :
    (String.ofList (digits.take 1) ++
      (if (digits.drop 1).isEmpty then "" else "." ++ String.ofList (digits.drop 1)) ++
      (if e < 0 then "e-" else "e+") ++ String.ofList exponent).toList =
    digits.take 1 ++ ((if digits.drop 1 = [] then [] else '.' :: digits.drop 1) ++
      'e' :: (if e < 0 then '-' else '+') :: exponent) := by
  simp only [String.toList_append, String.toList_ofList, List.append_assoc, List.isEmpty_iff]
  split <;> split <;> simp

theorem exists_writes_magnitudeText (x : Binary64) (negative : Bool) :
    ∃ spelling : Spelling, spelling.Writes x.magnitudeText.toList x.writtenMagnitude ∧
      spelling.negative = negative := by
  unfold magnitudeText writtenMagnitude
  cases zero : x.isZero with
  | true =>
    have writes := writes_before (n := 0) negative 0
    rw [Nat.cast_zero, zero_mul] at writes
    rw [if_pos rfl, if_pos rfl]
    exact ⟨_, writes, rfl⟩
  | false =>
    have positive := shortest_digits_pos zero
    simp only [Bool.false_eq_true, if_false, Decimal.value]
    generalize x.shortest = d at positive ⊢
    obtain ⟨n, e⟩ := d
    have nonempty := Nat.length_toDigits_pos (b := 10) (n := n)
    obtain ⟨leading, place⟩ : ∃ leading : Int, leading = e + (Nat.toDigits 10 n).length - 1 :=
      ⟨_, rfl⟩
    simp only [length_toString, toList_toString, ← place] at positive ⊢
    split
    case isTrue near =>
      split
      case isTrue whole =>
        have writes := writes_whole negative positive e.toNat
        rw [Int.toNat_of_nonneg whole] at writes
        rw [String.toList_append, String.toList_append, toList_toString, toList_pushn_zero]
        exact ⟨_, writes, rfl⟩
      case isFalse fractional =>
        split
        case isTrue inside =>
          have writes := writes_inside negative positive (k := leading.toNat + 1) (by omega)
            (by omega)
          have exponent : ((leading.toNat + 1 : Nat) : Int) - (Nat.toDigits 10 n).length = e := by
            omega
          rw [exponent] at writes
          have text : (String.ofList ((Nat.toDigits 10 n).take (leading.toNat + 1)) ++ "." ++
              String.ofList ((Nat.toDigits 10 n).drop (leading.toNat + 1))).toList =
                (Nat.toDigits 10 n).take (leading.toNat + 1) ++
                  '.' :: (Nat.toDigits 10 n).drop (leading.toNat + 1) := by simp
          rw [text]
          exact ⟨_, writes, rfl⟩
        case isFalse before =>
          have writes := writes_before (n := n) negative (-leading - 1).toNat
          have exponent : -(((-leading - 1).toNat : Int) + (Nat.toDigits 10 n).length) = e := by
            omega
          rw [exponent] at writes
          rw [String.toList_append, String.toList_append, toList_pushn_zero, toList_toString]
          exact ⟨_, writes, rfl⟩
    case isFalse far =>
      have writes := writes_scientific negative positive leading
      have exponent : leading - ((Nat.toDigits 10 n).length - 1) = e := by omega
      rw [exponent] at writes
      rw [Nat.toString_eq_ofList_toDigits, toList_scientific]
      exact ⟨_, writes, rfl⟩

/-- The text of a double is that of a numeral with its sign and the magnitude that is written. -/
theorem ofChars?_text (x : Binary64) :
    ∃ numeral : Numeral, Numeral.ofChars? x.text.toList = some numeral ∧
      numeral.negative = x.negative ∧ numeral.magnitude = x.writtenMagnitude ∧
      (numeral.fraction.isSome = true ∨ numeral.exponent.isSome = true) := by
  obtain ⟨spelling, writes, sign⟩ := x.exists_writes_magnitudeText x.negative
  have text : x.text.toList = spelling.chars := by
    rw [text, String.toList_append, Spelling.chars, writes.unsigned, sign]
    cases x.negative <;> rfl
  refine ⟨spelling.numeral, ?_, sign, writes.magnitude, ?_⟩
  · rw [text]
    exact Spelling.ofChars?_chars writes.proper
  · simpa [Spelling.numeral] using writes.decimal

/-- What is written for a double tells its magnitude. -/
theorem code_eq_of_writtenMagnitude_eq {x y : Binary64}
    (same : x.writtenMagnitude = y.writtenMagnitude) : x.code = y.code := by
  have positive {x : Binary64} (nonzero : x.isZero = false) : 0 < x.shortest.value :=
    mul_pos (Nat.cast_pos.mpr (shortest_digits_pos nonzero)) (zpow_pos (by norm_num) _)
  have code {x : Binary64} (zero : x.isZero = true) : x.code = 0 := by simpa [isZero] using zero
  unfold writtenMagnitude at same
  cases zeroX : x.isZero with
  | true =>
    cases zeroY : y.isZero with
    | true => rw [code zeroX, code zeroY]
    | false =>
      rw [zeroX, zeroY] at same
      exact absurd same (positive zeroY).ne
  | false =>
    cases zeroY : y.isZero with
    | true =>
      rw [zeroX, zeroY] at same
      exact absurd same (positive zeroX).ne'
    | false =>
      rw [zeroX, zeroY] at same
      exact code_eq_of_value_eq zeroX zeroY same

theorem text_injective : Function.Injective text := by
  intro x y same
  obtain ⟨numeralX, readX, signX, magnitudeX, -⟩ := x.ofChars?_text
  obtain ⟨numeralY, readY, signY, magnitudeY, -⟩ := y.ofChars?_text
  rw [same, readY] at readX
  obtain rfl := Option.some.inj readX
  have sign := signX.symm.trans signY
  have code := code_eq_of_writtenMagnitude_eq (magnitudeX.symm.trans magnitudeY)
  cases x
  cases y
  congr

end Binary64

/-! ## Numbers -/

/-- The parts of the text of an integer, which has neither a fraction nor an exponent. -/
def integerSpelling (n : Int) : Spelling := ⟨decide (n < 0), Nat.toDigits 10 n.natAbs, none, none⟩

theorem proper_integerSpelling (n : Int) : (integerSpelling n).Proper where
  whole := fun _ => isDigit_of_mem_toDigits
  nonempty := Nat.toDigits_ne_nil
  leading := by
    intro rest zero
    rcases Nat.eq_zero_or_pos n.natAbs with none | positive
    · rw [integerSpelling, none] at zero
      exact (List.cons.inj zero).2.symm
    · exact absurd zero (toDigits_ne_zero_cons positive rest)
  fraction := nofun
  exponent := nofun

theorem toList_toString_int (n : Int) : (toString n).toList = (integerSpelling n).chars := by
  have digits : (integerSpelling n).unsigned = Nat.toDigits 10 n.natAbs := List.append_nil _
  change n.repr.toList = _
  rw [Spelling.chars, digits, Int.repr_eq_if]
  by_cases negative : n < 0
  · have magnitude : (-n).toNat = n.natAbs := by omega
    rw [if_neg (not_le.mpr negative), String.toList_append, Nat.toList_repr, magnitude]
    simp [integerSpelling, negative]
  · have magnitude : n.toNat = n.natAbs := by omega
    rw [if_pos (not_lt.mp negative), Nat.toList_repr, magnitude]
    simp [integerSpelling, negative]

theorem ofChars?_toString_int (n : Int) :
    Numeral.ofChars? (toString n).toList = some (integerSpelling n).numeral := by
  rw [toList_toString_int]
  exact Spelling.ofChars?_chars (proper_integerSpelling n)

theorem toString_int_injective : Function.Injective (toString : Int → String) := by
  intro m n same
  have read := ofChars?_toString_int m
  rw [same, ofChars?_toString_int] at read
  have numeral := Option.some.inj read
  have sign : decide (n < 0) = decide (m < 0) := congrArg Numeral.negative numeral
  have digits : (Nat.toDigits 10 n.natAbs).map digitOf = (Nat.toDigits 10 m.natAbs).map digitOf :=
    congrArg Numeral.whole numeral
  have magnitude : n.natAbs = m.natAbs := by
    have values := congrArg valueOfDigits digits
    rwa [valueOfDigits_map, valueOfDigits_map, Nat.ofDigitChars_ten_toDigits,
      Nat.ofDigitChars_ten_toDigits] at values
  rw [decide_eq_decide] at sign
  omega

namespace Number

/-- The text of an integer is not that of a double. -/
theorem toString_int_ne_text (n : Int) (x : Binary64) : toString n ≠ x.text := by
  intro same
  obtain ⟨numeral, read, -, -, decimal⟩ := x.ofChars?_text
  rw [← same, ofChars?_toString_int] at read
  obtain rfl := Option.some.inj read
  exact absurd decimal (by simp [Spelling.numeral, integerSpelling])

/-- The text of a number is a numeral. -/
theorem exists_ofChars?_text (n : Number) :
    ∃ numeral : Numeral, Numeral.ofChars? n.text.toList = some numeral := by
  cases n with
  | integer n => exact ⟨_, ofChars?_toString_int n⟩
  | decimal x => exact x.ofChars?_text.imp fun _ => And.left

/-- Different numbers have different texts. -/
theorem text_injective : Function.Injective text := by
  intro x y same
  cases x with
  | integer m =>
    cases y with
    | integer n => exact congrArg integer (toString_int_injective same)
    | decimal y => exact absurd same (toString_int_ne_text m y)
  | decimal x =>
    cases y with
    | integer n => exact absurd same.symm (toString_int_ne_text n x)
    | decimal y => exact congrArg decimal (Binary64.text_injective same)

end Number

end SchemaDelta
