import Courier.Decimal.Shortest
import Courier.Json.Token

/-! What a numeral stands for.

A whole number without exponent that fits 64 bits, with or without a sign, is exact. Every other
numeral is a floating point number: its significand, of as many digits as fit 64 bits, is rounded,
and then multiplied or divided by a rounded power of ten. -/
namespace Courier.Json

/-- A number, exact where 64 bits can hold it. -/
inductive Number where
  | whole (n : Int)
  | float (negative : Bool) (magnitude : Decimal.Double)
  deriving DecidableEq, Repr

namespace Number

/-- The largest number of 64 bits. -/
def maxUnsigned : Nat := 18446744073709551615

/-- The largest power of ten that is a floating point number. -/
def maxPower : Nat := 308

/-- Puts digits behind a significand as long as it fits; the second part counts those that do not.
-/
def takeDigits (significand : Nat) : List Char → Nat × Nat
  | [] => (significand, 0)
  | c :: cs =>
    let n := significand * 10 + Text.digitValue c
    if n ≤ maxUnsigned then takeDigits n cs else (significand, cs.length + 1)

/-- A power of ten, rounded, if it is in range. -/
def powerOfTen? (n : Nat) : Option Decimal.Double := Decimal.Double.ofNat? (Nat.pow 10 n)

/-- Divides by a power of ten, in two steps when it is out of range. A significand is below `10 ^
20`, so that after two whole steps nothing is left of it. -/
def divide? (x : Decimal.Double) (power : Nat) : Option Decimal.Double := do
  if power ≤ maxPower then x.div? (← powerOfTen? power)
  else if power ≤ 2 * maxPower then
    (← x.div? (← powerOfTen? maxPower)).div? (← powerOfTen? (power - maxPower))
  else some .zero

/-- `significand * 10 ^ power`, if it is not too large. -/
def scale? (significand : Nat) (power : Int) : Option Decimal.Double :=
  match Decimal.Double.ofNat? significand with
  | none => none
  | some x =>
    if power < 0 then divide? x power.natAbs
    else if power.natAbs ≤ maxPower then (powerOfTen? power.natAbs).bind x.mul?
    else if x.mantissa = 0 then some x
    else none

/-- An exponent, or its first digits if it is out of every range. -/
def exponentValue : Option Exponent → Int
  | some e =>
    let n : Int := (takeDigits 0 e.digits).1
    if e.negative then -n else n
  | none => 0

/-- The floating point number of a numeral. Digits that the significand has no room for only shift
the power. -/
def float? (n : Numeral) : Option Number :=
  let (significand, dropped) := takeDigits 0 n.whole
  let (significand, unread) := takeDigits significand n.places
  let power : Int := dropped - (n.places.length - unread : Nat) + exponentValue n.exponent
  (scale? significand power).map (.float n.negative)

/-- The number of a numeral; one that is too large has none. -/
def ofNumeral? (n : Numeral) : Option Number :=
  let (value, dropped) := takeDigits 0 n.whole
  if n.places = [] ∧ n.exponent = none ∧ dropped = 0 then
    if ¬n.negative then some (.whole value)
    else if n.negative ∧ 0 < value ∧ value ≤ 9223372036854775808 then some (.whole (-value))
    else float? n
  else float? n

/-- The number of a numeral that names an unsigned 64-bit number and nothing else. -/
def unsigned? (n : Numeral) : Option Nat :=
  match ofNumeral? n with
  | some (.whole (.ofNat value)) => some value
  | _ => none

/-- Floating point numbers are positional from five places behind the point to sixteen digits in
front of it. -/
def layout : Decimal.Layout := ⟨-5, 15⟩

/-- A number as it is written. -/
def text : Number → String
  | .whole n => toString n
  | .float negative magnitude => (if negative then "-" else "") ++ layout.write magnitude.shortest

end Number
end Courier.Json
