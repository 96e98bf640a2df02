/-! Floating point numbers of double precision, without a sign.

A number is `mantissa * 2 ^ exponent`. The mantissa has 53 bits, except for the smallest numbers,
which share the least exponent. Arithmetic is exact and then rounded to the nearest number, a tie to
the even mantissa; what is too large has no value. -/
namespace Courier.Decimal

/-- A number `mantissa * 2 ^ exponent`. -/
structure Double where
  mantissa : Nat
  exponent : Int
  deriving DecidableEq, Repr

namespace Double

/-- The bits of a mantissa. -/
def precision : Nat := 53

/-- The exponent of the smallest numbers. -/
def minExponent : Int := -1074

/-- The largest exponent. -/
def maxExponent : Int := 971

/-- Zero has the least exponent, as all numbers with a short mantissa have. -/
def zero : Double := ⟨0, minExponent⟩

/-- A quotient rounded to the nearest whole number, a tie to the even one. -/
def roundDiv (num den : Nat) : Nat :=
  let (quotient, twice) := (num / den, 2 * (num % den))
  if den < twice ∨ (twice = den ∧ quotient % 2 = 1) then quotient + 1 else quotient

/-- `num / den` in units of `2 ^ exponent`, as a fraction. -/
def inUnits (num den : Nat) (exponent : Int) : Nat × Nat :=
  (num <<< (-exponent).toNat, den <<< exponent.toNat)

/-- The exponent with which `num / den` has a mantissa of 53 bits, or the least one. -/
def exponentOf (num den : Nat) : Int :=
  let guess : Int := (Nat.log2 num : Int) - Nat.log2 den - precision
  let (n, d) := inUnits num den guess
  max minExponent (if n < d <<< precision then guess else guess + 1)

/-- The number nearest to `num / den`. -/
def ofRatio? (num den : Nat) : Option Double :=
  if num = 0 then some zero
  else
    let exponent := exponentOf num den
    let (n, d) := inUnits num den exponent
    let mantissa := roundDiv n d
    let d : Double :=
      if mantissa = 1 <<< precision then ⟨1 <<< (precision - 1), exponent + 1⟩ else ⟨mantissa, exponent⟩
    if maxExponent < d.exponent then none else some d

/-- The number nearest to a whole number. -/
def ofNat? (n : Nat) : Option Double := ofRatio? n 1

/-- The value as a fraction. -/
def ratio (x : Double) : Nat × Nat :=
  (x.mantissa <<< x.exponent.toNat, 1 <<< (-x.exponent).toNat)

/-- The product, rounded once. -/
def mul? (x y : Double) : Option Double :=
  let ((a, b), (c, d)) := (x.ratio, y.ratio)
  ofRatio? (a * c) (b * d)

/-- The quotient, rounded once. -/
def div? (x y : Double) : Option Double :=
  let ((a, b), (c, d)) := (x.ratio, y.ratio)
  ofRatio? (a * d) (b * c)

end Double
end Courier.Decimal
