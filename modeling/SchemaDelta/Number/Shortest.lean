import SchemaDelta.Number.Binary64

/-!
# Shortest decimal digits

The decimal numbers that round to a given double form an interval. Of the grids `c * 10 ^ k` the
coarsest with a point in that interval gives the fewest digits; of two points of that grid the
nearer one is taken, and of two equally near ones the even one.
-/

namespace SchemaDelta

namespace Binary64

/-- The number `digits * 10 ^ exponent`. -/
structure Decimal where
  digits : Nat
  exponent : Int
deriving DecidableEq

variable (x : Binary64)

/-- Whether the next smaller double is nearer than the next larger one, which is so at a power of
two that is not the smallest normal number. -/
def atPowerOfTwo : Bool := x.code % hiddenBit == 0 && x.code / hiddenBit > 1

/-- In quarters of the last place: the distance down to the end of the rounding interval. -/
def quartersBelow : Nat := if x.atPowerOfTwo then 1 else 2

/-- Whether `c * d` quarters lie in the rounding interval, where a quarter is `u`. The ends belong
to the interval when the significand is even. -/
def roundsHere (point u : Nat) : Bool :=
  let low := (4 * x.significand - x.quartersBelow) * u
  let high := (4 * x.significand + 2) * u
  if x.significand % 2 == 0 then low ≤ point && point ≤ high else low < point && point < high

/-- The point of the grid of step `10 ^ k` that is to stand for `x`, if one rounds to `x`. -/
def gridPoint? (k : Int) : Option Nat :=
  let quarter := x.exponent - 2
  let u := powerOfTwo quarter.toNat * powerOfTen (-k).toNat
  let step := powerOfTwo (-quarter).toNat * powerOfTen k.toNat
  let value := 4 * x.significand * u
  let below := value / step
  match x.roundsHere (below * step) u, x.roundsHere ((below + 1) * step) u with
  | true, true => some (divNearest value step)
  | true, false => some below
  | false, true => some (below + 1)
  | false, false => none

/-- Tries the grids of step `10 ^ k`, `10 ^ (k - 1)`, …, as many as `tries` says. -/
def searchGrids : (tries : Nat) → (k : Int) → Decimal
  | 0, k => ⟨0, k⟩
  | tries + 1, k =>
    match x.gridPoint? k with
    | some c => ⟨c, k⟩
    | none => searchGrids tries (k - 1)

/-- The shortest decimal that rounds to the magnitude of `x`. No double reaches `10 ^ 309`, and
every double is on the grid of step `10 ^ (-1074)`. -/
def shortest : Decimal := x.searchGrids 1384 309

/-- Text of the magnitude: positional from `10 ^ (-5)` up to `10 ^ 16`, otherwise with one digit
before the point and a signed exponent. -/
def magnitudeText : String :=
  if x.isZero then "0.0" else
    let d := x.shortest
    let digits := toString d.digits
    let leading := d.exponent + digits.length - 1
    if -5 ≤ leading && leading < 16 then
      if 0 ≤ d.exponent then digits ++ "".pushn '0' d.exponent.toNat ++ ".0"
      else if 0 ≤ leading then
        String.ofList (digits.toList.take (leading.toNat + 1)) ++ "." ++
          String.ofList (digits.toList.drop (leading.toNat + 1))
      else "0." ++ "".pushn '0' (-leading - 1).toNat ++ digits
    else
      let fraction := digits.toList.drop 1
      String.ofList (digits.toList.take 1) ++
        (if fraction.isEmpty then "" else "." ++ String.ofList fraction) ++
        (if leading < 0 then "e-" else "e+") ++ toString leading.natAbs

/-- The shortest text that reads back as `x`. -/
def text : String := (if x.negative then "-" else "") ++ x.magnitudeText

end Binary64

end SchemaDelta
