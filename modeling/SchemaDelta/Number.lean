import SchemaDelta.Number.Numeral
import SchemaDelta.Number.Shortest

/-!
# Numbers of a document

An integer spelled without fraction and exponent is kept exactly as long as it fits 64 bits, signed
or unsigned; every other number is a `Binary64`. The two kinds are never equal.
-/

namespace SchemaDelta

/-- A number of a document. -/
inductive Number where
  | integer (n : Int)
  | decimal (x : Binary64)
deriving DecidableEq

namespace Number

/-- Integers compare as integers, decimals as IEEE numbers. -/
protected def beq : Number → Number → Bool
  | integer m, integer n => m == n
  | decimal x, decimal y => x == y
  | _, _ => false

instance : BEq Number := ⟨Number.beq⟩

/-- The text of a number: all digits of an integer, and the shortest ones that tell a decimal. -/
def text : Number → String
  | integer n => toString n
  | decimal x => x.text

end Number

namespace Numeral

/-- Extends a significand by digits as long as the result fits 64 bits; gives the significand and
the digits that were left. -/
def accumulate : Nat → List Nat → Nat × List Nat
  | s, [] => (s, [])
  | s, d :: ds => if s * 10 + d < powerOfTwo 64 then accumulate (s * 10 + d) ds else (s, d :: ds)

/-- The value of a list of digits. -/
def valueOfDigits (ds : List Nat) : Nat := ds.foldl (fun n d => n * 10 + d) 0

variable (n : Numeral)

/-- The significand of 64 bits, and the power of ten that the digits left out of it call for. A
digit of the whole part that finds no room still counts as a place, one of the fraction does
not. -/
def significand : Nat × Int :=
  let (s, unread) := accumulate 0 n.whole
  let fraction := n.fraction.getD []
  let (s, dropped) := accumulate s fraction
  (s, (unread.length : Int) - ((fraction.length : Int) - dropped.length))

/-- The value as a double: the significand is rounded once, and then scaled. -/
def decimal? : Option Binary64 :=
  let (s, places) := n.significand
  let scaled (e : Int) := (Binary64.ofNat? n.negative s).bind (·.scaleByTen? e)
  match n.exponent with
  | none => scaled places
  | some e =>
    let power := valueOfDigits e.digits
    if powerOfTwo 31 ≤ power then
      if s ≠ 0 ∧ e.negative = false then none else some (.zero n.negative)
    else scaled (if e.negative then places - power else places + power)

/-- The number a numeral stands for, unless it is beyond the finite doubles. Minus zero is a
decimal, as integers have no sign of zero. -/
def number? : Option Number :=
  if n.fraction.isNone && n.exponent.isNone then
    match accumulate 0 n.whole, n.negative with
    | (s, []), false => some (.integer s)
    | (s, []), true =>
      if s ≠ 0 ∧ s ≤ powerOfTwo 63 then some (.integer (-s)) else n.decimal?.map .decimal
    | _, _ => n.decimal?.map .decimal
  else n.decimal?.map .decimal

end Numeral

end SchemaDelta
