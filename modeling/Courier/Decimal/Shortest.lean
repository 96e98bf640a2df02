import Courier.Decimal.Double

/-! The shortest decimal that stands for a floating point number.

Every real number nearer to a floating point number than to its neighbours stands for it, and so do
the two midpoints when the mantissa is even. Of the decimals among these the one with the fewest
digits is taken, and of several with as many digits the nearest. -/
namespace Courier.Decimal

/-- The decimal `digits * 10 ^ power`. -/
structure Scaled where
  digits : Nat
  power : Int
  deriving DecidableEq, Repr

/-- The reals that stand for a number: its value, and the ends of the interval around it, as
multiples of one fraction. -/
structure Interval where
  low : Nat
  value : Nat
  high : Nat
  unit : Nat
  closed : Bool
  deriving DecidableEq, Repr

/-- Distances are in quarters of the last bit: a power of two has a nearer neighbour below. -/
def Double.interval (x : Double) : Interval :=
  let (scale, unit) := (1 <<< (x.exponent - 2).toNat, 1 <<< (2 - x.exponent).toNat)
  let below := if x.mantissa = 1 <<< (precision - 1) ∧ minExponent < x.exponent then 1 else 2
  { low := (4 * x.mantissa - below) * scale, value := 4 * x.mantissa * scale,
    high := (4 * x.mantissa + 2) * scale, unit, closed := x.mantissa % 2 = 0 }

/-- The power of ten of the first digit of `num / den`. -/
def leadingPower (num den : Nat) : Int :=
  if den ≤ num then (Nat.toDigits 10 (num / den)).length - 1
  else -((Nat.toDigits 10 ((den - 1) / num)).length : Int)

/-- Multiplies an interval by a power of ten. -/
def Interval.times (i : Interval) (power : Int) : Interval :=
  let (up, down) := (Nat.pow 10 power.toNat, Nat.pow 10 (-power).toNat)
  { i with low := i.low * up, value := i.value * up, high := i.high * up, unit := i.unit * down }

/-- Whether a multiple of the unit stands for the number. The bounds themselves do only where the
interval is closed. -/
def Interval.holds (i : Interval) (n : Nat) : Bool :=
  if i.closed then i.low ≤ n * i.unit && n * i.unit ≤ i.high
  else i.low < n * i.unit && n * i.unit < i.high

/-- The whole number in the interval that is nearest to the value. -/
def Interval.nearest? (i : Interval) : Option Nat :=
  let below := i.value / i.unit
  let nearer := Double.roundDiv i.value i.unit
  let other := if nearer = below then below + 1 else below
  if i.holds nearer then some nearer else if i.holds other then some other else none

/-- The decimal with the fewest digits, from `count` digits on. -/
def shortestFrom (i : Interval) (leading : Int) : Nat → Nat → Scaled
  | 0, _ => ⟨0, 0⟩
  | left + 1, count =>
    let power := leading - count + 1
    match (i.times (-power)).nearest? with
    | some n => ⟨n, power⟩
    | none => shortestFrom i leading left (count + 1)

/-- Seventeen digits are always enough. -/
def Double.shortest (x : Double) : Scaled :=
  if x.mantissa = 0 then ⟨0, 0⟩
  else
    let i := x.interval
    shortestFrom i (leadingPower i.value i.unit) 17 1

/-- Digits without the zeros at their end, and how many there were. -/
def dropZeros (digits : List Char) : List Char × Nat :=
  let zeros := (digits.reverse.takeWhile (· = '0')).length
  (digits.take (digits.length - zeros), zeros)

/-- How a decimal is written: positionally when its first digit stands for a power of ten from
`least` to `most`, and otherwise with an exponent, which always has a sign. A decimal without
places has one zero after the point. -/
structure Layout where
  least : Int
  most : Int

/-- Writes a decimal, with an exponent only where the layout asks for one. -/
def Layout.write (l : Layout) (x : Scaled) : String :=
  let (digits, zeros) := dropZeros (Nat.toDigits 10 x.digits)
  let power := x.power + zeros
  let leading := power + digits.length - 1
  if x.digits = 0 then "0.0"
  else if l.least ≤ leading ∧ leading ≤ l.most then
    if 0 ≤ power then String.ofList (digits ++ List.replicate power.toNat '0') ++ ".0"
    else if 0 ≤ leading then
      let whole := (leading + 1).toNat
      String.ofList (digits.take whole) ++ "." ++ String.ofList (digits.drop whole)
    else "0." ++ String.ofList (List.replicate (-leading - 1).toNat '0' ++ digits)
  else
    let places := if digits.length = 1 then [] else '.' :: digits.drop 1
    let sign := if leading < 0 then "-" else "+"
    String.ofList (digits.take 1 ++ places) ++ "e" ++ sign ++ toString leading.natAbs

end Courier.Decimal
