/-!
# Finite binary64 numbers

`Binary64` is a sign together with the 63 remaining bits of an IEEE 754 double, restricted to the
finite values. Products and quotients are computed exactly in `Nat` and rounded once, to the
nearest value and to the even one of two equally near. A result beyond the largest finite value
is `none`.
-/

namespace SchemaDelta

/-- The power `2 ^ n`. -/
def powerOfTwo (n : Nat) : Nat := Nat.pow 2 n

/-- The power `10 ^ n`. -/
def powerOfTen (n : Nat) : Nat := Nat.pow 10 n

/-- The value of the bit above the 52 bits of the fraction. It is set in every normal double but not
stored. -/
def hiddenBit : Nat := powerOfTwo 52

/-- A finite double: its sign, and the exponent and fraction bits read as one number. -/
structure Binary64 where
  negative : Bool
  code : Nat
  finite : code < 2047 * hiddenBit
deriving DecidableEq

namespace Binary64

/-- Zero of either sign. -/
def zero (negative : Bool) : Binary64 := ⟨negative, 0, by decide⟩

/-- Whether a double is a zero of either sign. -/
def isZero (x : Binary64) : Bool := x.code == 0

/-- The integer `m` in the magnitude `m * 2 ^ q`. -/
def significand (x : Binary64) : Nat :=
  if x.code < hiddenBit then x.code else hiddenBit + x.code % hiddenBit

/-- The exponent `q` in the magnitude `m * 2 ^ q`. -/
def exponent (x : Binary64) : Int :=
  if x.code < hiddenBit then -1074 else (x.code / hiddenBit : Nat) - 1075

/-- Numerator of the magnitude, over `denominator`. -/
def numerator (x : Binary64) : Nat := x.significand * powerOfTwo x.exponent.toNat

/-- Denominator of the magnitude: a power of two. -/
def denominator (x : Binary64) : Nat := powerOfTwo (-x.exponent).toNat

/-- The two zeros are equal; otherwise sign and magnitude have to agree. -/
protected def beq (x y : Binary64) : Bool :=
  x.code == y.code && (x.negative == y.negative || x.code == 0)

instance : BEq Binary64 := ⟨Binary64.beq⟩

/-- The integer nearest to `n / d`; of two equally near ones the even one. -/
def divNearest (n d : Nat) : Nat :=
  let q := n / d
  let r := n % d
  if 2 * r < d then q else if d < 2 * r then q + 1 else q + q % 2

/-- The exponent of the last place of `n / d` written with 53 significant bits, but not below
the exponent of the smallest positive double. -/
def lastPlace (n d : Nat) : Int :=
  let gap : Int := (n.log2 : Int) - d.log2
  let below : Bool := n * powerOfTwo (-gap).toNat < d * powerOfTwo gap.toNat
  max (-1074) (gap - (if below then 53 else 52))

/-- The code of the double nearest to `n / d`. The codes of the doubles follow their order, and a
significand that rounds up to `2 ^ 53` carries into the exponent. -/
def codeOfRatio (n d : Nat) : Nat :=
  if n = 0 then 0 else
    let q := lastPlace n d
    (q + 1074).toNat * hiddenBit +
      divNearest (n * powerOfTwo (-q).toNat) (d * powerOfTwo q.toNat)

/-- The double nearest to `n / d` with the given sign, if it is finite. -/
def ofRatio? (negative : Bool) (n d : Nat) : Option Binary64 :=
  let code := codeOfRatio n d
  if h : code < 2047 * hiddenBit then some ⟨negative, code, h⟩ else none

/-- The double nearest to an integer. -/
def ofNat? (negative : Bool) (n : Nat) : Option Binary64 := ofRatio? negative n 1

/-- The product, rounded. -/
def mul? (x y : Binary64) : Option Binary64 :=
  ofRatio? (x.negative != y.negative) (x.numerator * y.numerator) (x.denominator * y.denominator)

/-- The quotient by a divisor that is not zero, rounded. -/
def div? (x y : Binary64) : Option Binary64 :=
  ofRatio? (x.negative != y.negative) (x.numerator * y.denominator) (x.denominator * y.numerator)

/-- The largest power of ten that is a finite double. -/
def largestPower : Nat := 308

/-- The double nearest to `10 ^ n`, for `n` up to `largestPower`. -/
def powerOfTen? (n : Nat) : Option Binary64 := ofNat? false (powerOfTen n)

/-- Divides by the largest power of ten as often as asked, or until zero is reached. -/
def shrink? : (times : Nat) → (x : Binary64) → Option Binary64
  | 0, x => some x
  | times + 1, x =>
    if x.isZero then some x
    else do shrink? times (← x.div? (← powerOfTen? largestPower))

/-- `x * 10 ^ e` by one rounded multiplication or division when `e` is within `largestPower` of
zero. A smaller exponent is reached by dividing by the largest power first; with a larger one only
zero stays in range. -/
def scaleByTen? (x : Binary64) (e : Int) : Option Binary64 :=
  if largestPower < e then
    if x.isZero then some x else none
  else if 0 ≤ e then do
    x.mul? (← powerOfTen? e.toNat)
  else
    let times := ((-e).toNat - 1) / largestPower
    do (← x.shrink? times).div? (← powerOfTen? ((-e).toNat - times * largestPower))

end Binary64

end SchemaDelta
