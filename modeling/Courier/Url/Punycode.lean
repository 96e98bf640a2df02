import Courier.Text.Cut
import Courier.Text.Numeral

/-! Names of domains in ASCII.

The characters of a label that are not ASCII are written behind it, as the steps of a walk over all
characters and places, each step as a number of variable length in base 36. -/
namespace Courier.Url.Punycode

def base : Nat := 36
/-- The least threshold between digits that go on and digits that end a number. -/
def leastDigit : Nat := 1
/-- The greatest such threshold. -/
def mostDigit : Nat := 26

/-- The digit of a number below 36: letters first. -/
def digit (n : Nat) : Char :=
  if n < 26 then Char.ofNat ('a'.toNat + n) else Char.ofNat ('0'.toNat + (n - 26))

/-- The value of a digit, in letters of either kind. -/
def digitValue? (c : Char) : Option Nat :=
  if 'a' ≤ c ∧ c ≤ 'z' then some (c.toNat - 'a'.toNat)
  else if 'A' ≤ c ∧ c ≤ 'Z' then some (c.toNat - 'A'.toNat)
  else if c.isDigit then some (Text.digitValue c + 26)
  else none

/-- Divides a step down until it is small; the second part counts the divisions. -/
def shrink (delta : Nat) : Nat × Nat :=
  if delta ≤ (base - leastDigit) * mostDigit / 2 then (delta, 0)
  else
    let (rest, count) := shrink (delta / (base - leastDigit))
    (rest, count + 1)
termination_by delta
decreasing_by
  simp only [base, leastDigit, mostDigit] at *
  omega

/-- The bias for the next step, after a step among so many characters. -/
def adapt (delta points : Nat) (first : Bool) : Nat :=
  let delta := if first then delta / 700 else delta / 2
  let (rest, count) := shrink (delta + delta / points)
  count * base + (base - leastDigit + 1) * rest / (rest + 38)

/-- The largest digit that ends a number, less one, at a place. -/
def threshold (bias place : Nat) : Nat := min mostDigit (max leastDigit (place - bias))

/-- A step as digits, from a place on. -/
def writeStep (bias : Nat) : Nat → Nat → Nat → List Char
  | 0, _, n => [digit n]
  | fuel + 1, place, n =>
    let t := threshold bias place
    if n < t then [digit n]
    else digit (t + (n - t) % (base - t)) :: writeStep bias fuel (place + base) ((n - t) / (base - t))

/-- The walk of a writer, between two characters of the label. -/
structure State where
  delta : Nat := 0
  bias : Nat := 72
  handled : Nat
  written : List Char

/-- Goes over the characters once, for the character with code `n`. -/
def pass (first : Nat) (n : Nat) (s : State) (codes : List Nat) : State :=
  codes.foldl (fun s c =>
    if c < n then { s with delta := s.delta + 1 }
    else if c = n then
      { delta := 0, bias := adapt s.delta (s.handled + 1) (s.handled = first),
        handled := s.handled + 1, written := s.written ++ writeStep s.bias s.delta base s.delta }
    else s) s

/-- The label of characters that are not all ASCII, behind its mark. -/
def encode (label : List Char) : List Char :=
  let codes := label.map Char.toNat
  let plain := label.filter fun c => c.toNat < 128
  let start := if plain = [] then [] else plain ++ ['-']
  let others := (codes.filter (128 ≤ ·)).eraseDups.mergeSort
  let step (acc : State × Nat) (n : Nat) : State × Nat :=
    let (s, last) := acc
    let s := { s with delta := s.delta + (n - last) * (s.handled + 1) }
    let s := pass plain.length n s codes
    ({ s with delta := s.delta + 1 }, n + 1)
  (others.foldl step ({ handled := plain.length, written := start }, 128)).1.written

/-- What a step and the weight of a digit fit into. -/
def maxStep : Nat := 4294967295

/-- A step from its digits: its value and the digits after it. -/
def readStep (bias : Nat) (value weight place : Nat) : List Char → Option (Nat × List Char)
  | [] => none
  | c :: rest =>
    match digitValue? c with
    | none => none
    | some d =>
      let value := value + d * weight
      let t := threshold bias place
      let next := weight * (base - t)
      if maxStep < value then none
      else if d < t then some (value, rest)
      else if maxStep < next then none
      else readStep bias value next (place + base) rest

/-- Puts the characters of all steps into their places. Each step has a digit. -/
def readSteps (n i bias : Nat) (first : Bool) (done : List Char) : Nat → List Char → Option (List Char)
  | _, [] => some done
  | 0, _ => none
  | fuel + 1, digits =>
    match readStep bias 0 1 base digits with
    | none => none
    | some (delta, rest) =>
      let count := done.length + 1
      let n := n + (i + delta) / count
      let place := (i + delta) % count
      let c := Char.ofNat n
      if c.toNat ≠ n then none
      else
        readSteps n (place + 1) (adapt delta count first) false
          (done.take place ++ c :: done.drop place) fuel rest

/-- The characters of a label, its mark taken away. -/
def decode? (written : List Char) : Option (List Char) :=
  match Text.cutLast '-' written with
  | some ([], _) => none
  | some (plain, digits) => readSteps 128 0 72 true plain digits.length digits
  | none => readSteps 128 0 72 true [] written.length written

end Courier.Url.Punycode
