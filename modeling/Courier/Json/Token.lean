import Courier.Text.Numeral
import Courier.Text.Utf8

/-! The tokens of JSON text.

A string is kept as it is written: its bytes and its numbered escapes, of which not every sequence
is a text. A number is kept as its digits. What these stand for is decided where they are used, so
that values nobody asks for only have to be well formed. -/
namespace Courier.Json

/-- A byte of a string, or a 16-bit unit that an escape names. -/
inductive Piece where
  | byte (b : UInt8)
  | unit (n : Nat)
  deriving DecidableEq, Repr

/-- A string as it is written, piece by piece. -/
abbrev RawString := List Piece

/-- The digits behind the `e` of a numeral, with their sign. -/
structure Exponent where
  negative : Bool
  digits : List Char
  deriving DecidableEq, Repr

/-- A number as it is written, digit by digit. -/
structure Numeral where
  negative : Bool
  whole : List Char
  places : List Char
  exponent : Option Exponent
  deriving DecidableEq, Repr

/-- The smallest parts of JSON text that mean something by themselves. -/
inductive Token where
  | openArray
  | closeArray
  | openObject
  | closeObject
  | colon
  | comma
  | null
  | bool (value : Bool)
  | number (numeral : Numeral)
  | string (raw : RawString)
  deriving DecidableEq, Repr

namespace Token

/-- The bytes that may stand between tokens. -/
def isGap (b : UInt8) : Bool := b = 0x20 || b = 0x09 || b = 0x0A || b = 0x0D

def isDigit (b : UInt8) : Bool := 0x30 ≤ b && b ≤ 0x39

def toChar (b : UInt8) : Char := Char.ofNat b.toNat

/-! ### Numbers -/

/-- Digits and what follows them. -/
def digits (bs : Bytes) : List Char × Bytes :=
  ((bs.takeWhile isDigit).map toChar, bs.dropWhile isDigit)

/-- Places behind a point; a point needs one. -/
def readPlaces : Bytes → Option (List Char × Bytes)
  | 0x2E :: rest =>
    match digits rest with
    | ([], _) => none
    | (places, rest) => some (places, rest)
  | bs => some ([], bs)

/-- Reads the sign of an exponent, which may be left out. -/
def readSign : Bytes → Bool × Bytes
  | 0x2D :: rest => (true, rest)
  | 0x2B :: rest => (false, rest)
  | bs => (false, bs)

/-- Reads an exponent, if one is there. Behind its `e` there must be digits. -/
def readExponent : Bytes → Option (Option Exponent × Bytes)
  | 0x65 :: rest | 0x45 :: rest =>
    let (negative, rest) := readSign rest
    match digits rest with
    | ([], _) => none
    | (digits, rest) => some (some ⟨negative, digits⟩, rest)
  | bs => some (none, bs)

/-- The whole part of a number; a zero stands alone. -/
def readWhole (bs : Bytes) : Option (List Char × Bytes) :=
  match digits bs with
  | ([], _) => none
  | ('0' :: _ :: _, _) => none
  | (whole, rest) => some (whole, rest)

/-- Reads a numeral from its first digit on; the sign was read before. -/
def readNumber (negative : Bool) (bs : Bytes) : Option (Token × Bytes) := do
  let (whole, bs) ← readWhole bs
  let (places, bs) ← readPlaces bs
  let (exponent, bs) ← readExponent bs
  return (.number { negative, whole, places, exponent }, bs)

/-! ### Strings -/

/-- The value of the four digits of a numbered escape. -/
def hexUnit? : Bytes → Option Nat
  | [a, b, c, d] => do
    let a ← Text.hexValue? (toChar a)
    let b ← Text.hexValue? (toChar b)
    let c ← Text.hexValue? (toChar c)
    let d ← Text.hexValue? (toChar d)
    return ((a * 16 + b) * 16 + c) * 16 + d
  | _ => none

/-- What a letter stands for after a backslash. -/
def escaped? (b : UInt8) : Option UInt8 :=
  match toChar b with
  | '"' => some b
  | '\\' => some b
  | '/' => some b
  | 'b' => some 0x08
  | 'f' => some 0x0C
  | 'n' => some 0x0A
  | 'r' => some 0x0D
  | 't' => some 0x09
  | _ => none

/-- The rest of a string after its pieces so far, in reverse order. -/
def readString (read : RawString) : Bytes → Option (RawString × Bytes)
  | 0x22 :: rest => some (read.reverse, rest)
  | 0x5C :: 0x75 :: a :: b :: c :: d :: rest =>
    match hexUnit? [a, b, c, d] with
    | some n => readString (.unit n :: read) rest
    | none => none
  | 0x5C :: b :: rest =>
    match escaped? b with
    | some b => readString (.byte b :: read) rest
    | none => none
  | b :: rest => if b < 0x20 then none else readString (.byte b :: read) rest
  | [] => none

/-! ### Words and marks -/

/-- The values that are written as words. -/
def words : List (String × Token) :=
  [("null", .null), ("true", .bool true), ("false", .bool false)]

/-- Reads one of the words. What follows it is not looked at. -/
def readWord (bs : Bytes) : Option (Token × Bytes) :=
  (words.find? fun (word, _) => (Text.utf8 word).isPrefixOf bs).map fun (word, token) =>
    (token, bs.drop (Text.utf8 word).length)

/-- The token of a mark that stands by itself. -/
def mark? (b : UInt8) : Option Token :=
  match toChar b with
  | '[' => some .openArray
  | ']' => some .closeArray
  | '\x7b' => some .openObject
  | '\x7d' => some .closeObject
  | ':' => some .colon
  | ',' => some .comma
  | _ => none

/-- The token at the front. -/
def read (bs : Bytes) : Option (Token × Bytes) :=
  match bs with
  | [] => none
  | b :: rest =>
    match mark? b with
    | some token => some (token, rest)
    | none =>
      if b = 0x22 then (readString [] rest).map fun (raw, rest) => (.string raw, rest)
      else if b = 0x2D then readNumber true rest
      else if isDigit b then readNumber false bs
      else readWord bs

/-- All tokens, behind those already read, which are in reverse order. Each token uses up bytes, so
`steps` need not be more than there are bytes. -/
def readAllOnto (done : List Token) : Nat → Bytes → Option (List Token)
  | steps, bs =>
    match bs.dropWhile isGap, steps with
    | [], _ => some done.reverse
    | _ :: _, 0 => none
    | b :: rest, steps + 1 =>
      match read (b :: rest) with
      | some (token, rest) => readAllOnto (token :: done) steps rest
      | none => none

/-- All tokens of a text. Each takes at least one byte, so that their number is bounded by the
length. -/
def readAll (bs : Bytes) : Option (List Token) := readAllOnto [] bs.length bs

end Token
end Courier.Json
