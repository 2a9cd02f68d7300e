/-!
# Binary64 arithmetic in exact numbers

A time limit is scaled, and a duration is written, in double precision. Both
need only numbers that are zero or positive and far from the ends of the
exponent range, so a double is a 53-bit significand times a power of two, and
each operation is the exact one followed by one rounding: to nearest, a tie to
the even significand.
-/

namespace Syllogistic.Number

/-- The number `significand * 2 ^ exponent`. -/
structure Binary64 where
  significand : Nat
  exponent : Int
  deriving DecidableEq, Repr

/-- The quotient rounded to the nearest whole number, a tie to the even one. -/
def roundDiv (num den : Nat) : Nat :=
  let quotient := num / den
  let twice := 2 * (num % den)
  if twice < den then quotient
  else if den < twice then quotient + 1
  else quotient + quotient % 2

/-- The exponent `e` with `2 ^ e ≤ num / den < 2 ^ (e + 1)`, both positive. -/
def binaryExponent (num den : Nat) : Int :=
  if den ≤ num then (num / den).log2 else -(((den - 1) / num).log2 + 1 : Int)

namespace Binary64

/-- The double nearest to a fraction. -/
def nearest (num den : Nat) : Binary64 :=
  if num = 0 then ⟨0, 0⟩
  else
    let shift := 52 - binaryExponent num den
    ⟨roundDiv (num * Nat.pow 2 shift.toNat) (den * Nat.pow 2 (-shift).toNat), -shift⟩

/-- The numerator of the value over `den`. -/
def num (x : Binary64) : Nat :=
  x.significand * Nat.pow 2 x.exponent.toNat

/-- The denominator of the value, a power of two. -/
def den (x : Binary64) : Nat :=
  Nat.pow 2 (-x.exponent).toNat

/-- The double nearest to a whole number. -/
def ofNat (n : Nat) : Binary64 :=
  nearest n 1

def mul (x y : Binary64) : Binary64 :=
  nearest (x.num * y.num) (x.den * y.den)

def add (x y : Binary64) : Binary64 :=
  nearest (x.num * y.den + y.num * x.den) (x.den * y.den)

/-- The largest whole number that is not above the value. -/
def floor (x : Binary64) : Nat :=
  x.num / x.den

/-- The value in hundredths, rounded to nearest, a tie to even. -/
def hundredths (x : Binary64) : Nat :=
  roundDiv (x.num * 100) x.den

end Binary64

/-- The decimal text of a number of hundredths, with two places. -/
def twoPlaces (hundredths : Nat) : String :=
  toString (hundredths / 100) ++ "." ++ toString (hundredths % 100 / 10) ++
    toString (hundredths % 10)

end Syllogistic.Number
