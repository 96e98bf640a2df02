import Courier.Text.Blank
import Courier.Text.Numeral
import Courier.Time.Date

/-! Moments in coordinated universal time.

A moment is read from a date, a time and an offset, as in `2024-05-01T10:20:30.5+02:00`. Reading is
generous: blanks may stand before each number and each mark, numbers may have fewer digits, and a
fraction may have more than nine, of which the first nine count. Second 60 is a leap second.

A moment is written with three, six or nine places of the fraction, as many as it needs, or without
one. -/
namespace Courier.Time

/-- A day, and a time on it. -/
structure Timestamp where
  date : Date
  hour : Nat
  minute : Nat
  second : Nat
  nanosecond : Nat
  deriving DecidableEq, Repr

namespace Timestamp

/-! ### Reading -/

/-- Digits from the front, at most `most` of them and at least one, and the characters after them.
-/
def digits (most : Nat) (cs : List Char) : Option (List Char × List Char) :=
  let run := (cs.take most).takeWhile Char.isDigit
  if run = [] then none else some (run, cs.drop run.length)

/-- Reads a number of so many digits at most, behind blanks. -/
def number (most : Nat) (cs : List Char) : Option (Nat × List Char) :=
  (digits most (Text.trimStart cs)).map fun (run, rest) => (Text.digitsOnto 0 run, rest)

/-- More than any year that counts. -/
def yearLimit : Nat := 999999

/-- A year of up to four digits, or of any length behind a sign. -/
def year (cs : List Char) : Option (Int × List Char) :=
  match Text.trimStart cs with
  | '-' :: rest => (number' rest).map fun (n, rest) => (-(n : Int), rest)
  | '+' :: rest => (number' rest).map fun (n, rest) => ((n : Int), rest)
  | rest => (number 4 rest).map fun (n, rest) => ((n : Int), rest)
where
  number' (cs : List Char) : Option (Nat × List Char) :=
    (digits cs.length cs).bind fun (run, rest) =>
      (Text.digitsUpTo yearLimit 0 run).map fun n => (n, rest)

/-- Reads a mark behind blanks. -/
def mark (c : Char) (cs : List Char) : Option (List Char) :=
  match Text.trimStart cs with
  | d :: rest => if d = c then some rest else none
  | [] => none

/-- Reads year, month and day. Whether the day exists is checked later. -/
def dateFrom (cs : List Char) : Option (Date × List Char) := do
  let (year, cs) ← year cs
  let cs ← mark '-' cs
  let (month, cs) ← number 2 cs
  let cs ← mark '-' cs
  let (day, cs) ← number 2 cs
  return (⟨year, month, day⟩, cs)

def separator : List Char → Option (List Char)
  | c :: rest => if c = 'T' ∨ c = 't' ∨ c = ' ' then some rest else none
  | [] => none

/-- Nanoseconds behind a point, if there is one. -/
def fraction : List Char → Option (Nat × List Char)
  | '.' :: rest => do
    let (run, rest) ← digits 9 rest
    return (Text.digitsOnto 0 run * Nat.pow 10 (9 - run.length), rest.dropWhile Char.isDigit)
  | cs => some (0, cs)

/-- Whether the offset is given as a word, in any case of its letters. -/
def isUtcWord (cs : List Char) : Bool := (cs.take 3).map Char.toUpper == ['U', 'T', 'C']

/-- What may stand between the hours and the minutes of an offset. -/
def isOffsetGap (c : Char) : Bool := c = ':' || Text.isBlank c

/-- Hours and minutes of an offset, in minutes. -/
def offsetMinutes (cs : List Char) : Option (Nat × List Char) := do
  let (hours, rest) ← digits 2 cs
  let (minutes, rest) ← digits 2 (rest.dropWhile isOffsetGap)
  if hours.length < 2 ∨ minutes.length < 2 then none
  else
    let (hours, minutes) := (Text.digitsOnto 0 hours, Text.digitsOnto 0 minutes)
    if 24 ≤ hours ∨ 60 ≤ minutes then none else some (hours * 60 + minutes, rest)

/-- The offset from universal time, in minutes. -/
def offset (cs : List Char) : Option (Int × List Char) :=
  if isUtcWord cs then some (0, cs.drop 3)
  else match cs with
    | 'Z' :: rest | 'z' :: rest => some (0, rest)
    | '+' :: rest => (offsetMinutes rest).map fun (n, rest) => ((n : Int), rest)
    | '-' :: rest | '\u2212' :: rest =>
      (offsetMinutes rest).map fun (n, rest) => (-(n : Int), rest)
    | _ => none

/-- Takes an offset away from a local time; the date moves by one day at most. -/
def toUniversal (t : Timestamp) (offset : Int) : Timestamp :=
  let minutes := (t.hour * 60 + t.minute : Int) - offset
  let date := if minutes < 0 then t.date.previous else if 1440 ≤ minutes then t.date.next else t.date
  let minutes := (minutes % 1440).toNat
  { t with date, hour := minutes / 60, minute := minutes % 60 }

/-- Whether the time exists, on a day with a leap second. -/
def isTimeOfDay (t : Timestamp) : Bool := t.hour < 24 && t.minute < 60 && t.second ≤ 60

/-- Reads a moment. Day and time have to exist both where it was written and in coordinated
universal time. -/
def parse? (text : String) : Option Timestamp := do
  let (date, cs) ← dateFrom text.toList
  let cs ← separator cs
  let (hour, cs) ← number 2 cs
  let cs ← mark ':' cs
  let (minute, cs) ← number 2 cs
  let cs ← mark ':' cs
  let (second, cs) ← number 2 cs
  let (nanosecond, cs) ← fraction cs
  let (offset, cs) ← offset (Text.trimStart cs)
  let here : Timestamp := { date, hour, minute, second, nanosecond }
  let there := here.toUniversal offset
  if Text.isAllBlank cs && here.date.isValid && here.isTimeOfDay && there.date.isValid then
    some there
  else none

/-! ### Writing -/

/-- Four digits; a year outside of those has a sign. -/
def yearText (year : Int) : String :=
  if 0 ≤ year ∧ year ≤ 9999 then Text.padded 4 year.toNat
  else (if year < 0 then "-" else "+") ++ Text.padded 4 year.natAbs

def dateText (t : Timestamp) : String :=
  s!"{yearText t.date.year}-{Text.padded 2 t.date.month}-{Text.padded 2 t.date.day}"

def clockText (t : Timestamp) : String := s!"{Text.padded 2 t.hour}:{Text.padded 2 t.minute}"

/-- As many places of the fraction as it needs, three at a time. -/
def fractionText (nanosecond : Nat) : String :=
  if nanosecond = 0 then ""
  else if nanosecond % 1000000 = 0 then "." ++ Text.padded 3 (nanosecond / 1000000)
  else if nanosecond % 1000 = 0 then "." ++ Text.padded 6 (nanosecond / 1000)
  else "." ++ Text.padded 9 nanosecond

/-- Date and time with the mark of universal time. -/
def text (t : Timestamp) : String :=
  s!"{t.dateText}T{t.clockText}:{Text.padded 2 t.second}{fractionText t.nanosecond}Z"

/-- Date, hour and minute. -/
def shortText (t : Timestamp) : String := s!"{t.dateText} {t.clockText}"

end Timestamp
end Courier.Time
