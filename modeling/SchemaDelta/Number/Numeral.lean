/-!
# Numerals

A numeral is the spelling of a number in a document: an optional minus sign, digits without a
needless leading zero, and optionally a fraction and an exponent.
-/

namespace SchemaDelta

/-- The exponent part of a numeral. -/
structure Numeral.Exponent where
  negative : Bool
  digits : List Nat
deriving DecidableEq

/-- The parts of a numeral, every digit as a number. -/
structure Numeral where
  negative : Bool
  whole : List Nat
  fraction : Option (List Nat)
  exponent : Option Numeral.Exponent
deriving DecidableEq

namespace Numeral

/-- The digits at the front of a text, and what follows them. -/
def takeDigits : List Char → List Nat × List Char
  | [] => ([], [])
  | c :: cs =>
    if c.isDigit then
      let (ds, rest) := takeDigits cs
      ((c.toNat - 48) :: ds, rest)
    else ([], c :: cs)

/-- The digits of a part that must have at least one. -/
def someDigits? (cs : List Char) : Option (List Nat × List Char) :=
  match takeDigits cs with
  | ([], _) => none
  | result => some result

/-- Reads the exponent, if the text has one, up to the end. -/
def readExponent? : List Char → Option (Option Exponent)
  | [] => some none
  | mark :: cs =>
    if mark = 'e' ∨ mark = 'E' then
      let (negative, cs) := match cs with
        | '-' :: cs => (true, cs)
        | '+' :: cs => (false, cs)
        | cs => (false, cs)
      match someDigits? cs with
      | some (ds, []) => some (some ⟨negative, ds⟩)
      | _ => none
    else none

/-- Reads a numeral that takes up the whole text. -/
def ofChars? (cs : List Char) : Option Numeral := do
  let (negative, cs) := match cs with
    | '-' :: cs => (true, cs)
    | cs => (false, cs)
  let (whole, cs) ← someDigits? cs
  if whole.length > 1 ∧ whole.head? = some 0 then none
  let (fraction, cs) ← match cs with
    | '.' :: cs => (someDigits? cs).map fun (ds, rest) => (some ds, rest)
    | cs => some (none, cs)
  return ⟨negative, whole, fraction, ← readExponent? cs⟩

end Numeral

end SchemaDelta
