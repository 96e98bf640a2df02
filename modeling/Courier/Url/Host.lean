import Courier.Url.Label
import Courier.Url.Percent

/-! Hosts.

A host whose last part is a number is an address of four bytes and has to be a good one. A host in
brackets is an address of eight words, and every other host is a name, which is written in ASCII and
in small letters. A scheme that knows nothing of hosts has names that are not read at all. -/
namespace Courier.Url

/-- What is wrong with an address. -/
inductive Error where
  | emptyHost
  | badName
  | badPort
  | badAddress4
  | badAddress6
  | badCharacter
  | noBase
  deriving DecidableEq, Repr

def Error.message : Error → String
  | .emptyHost => "empty host"
  | .badName => "invalid international domain name"
  | .badPort => "invalid port number"
  | .badAddress4 => "invalid IPv4 address"
  | .badAddress6 => "invalid IPv6 address"
  | .badCharacter => "invalid domain character"
  | .noBase => "relative URL without a base"

/-- A host, by name or by number. -/
inductive Host where
  | name (text : String)
  | address4 (n : Nat)
  | address6 (words : List Nat)
  deriving DecidableEq, Repr

namespace Host

/-! ### Addresses of four bytes -/

/-- One more than the largest address. -/
def addressCount : Nat := 4294967296

/-- Digits of a base, all of them. What is too large for an address counts as the least number that
is too large. -/
def readBase (base : Nat) (cs : List Char) : Option Nat :=
  cs.foldlM (fun n c =>
    match Text.hexValue? c with
    | some d => if d < base then some (min (n * base + d) addressCount) else none
    | none => none) 0

/-- A part of an address: hexadecimal behind `0x`, octal behind `0`, and decimal otherwise. -/
def part? : List Char → Option Nat
  | [] => none
  | '0' :: 'x' :: rest | '0' :: 'X' :: rest => readBase 16 rest
  | ['0'] => some 0
  | '0' :: rest => readBase 8 rest
  | cs => readBase 10 cs

def parts (cs : List Char) : List (List Char) := Text.cutAll '.' cs

/-- The parts without an empty one at the end. -/
def partsToLast (cs : List Char) : List (List Char) :=
  let all := parts cs
  if 1 < all.length ∧ all.getLast? = some [] then all.dropLast else all

/-- Whether a host has to be an address of four bytes, as its last part is a number. -/
def endsInNumber (cs : List Char) : Bool :=
  match (partsToLast cs).getLast? with
  | some last => last ≠ [] && (last.all Char.isDigit || (part? last).isSome)
  | none => false

/-- An address of up to four parts; the last part fills what the others leave. -/
def address4? (cs : List Char) : Option Nat := do
  let all ← (partsToLast cs).mapM part?
  let last ← all.getLast?
  let front := all.dropLast
  if 3 < front.length ∨ front.any (255 < ·) ∨ Nat.pow 256 (4 - front.length) ≤ last then none
  else
    let high := front.foldl (fun n part => n * 256 + part) 0
    return high * Nat.pow 256 (4 - front.length) + last

def text4 (n : Nat) : String :=
  s!"{n / 16777216}.{n / 65536 % 256}.{n / 256 % 256}.{n % 256}"

/-! ### Addresses of eight words -/

/-- The value of one word, of four digits at most. -/
def word? (cs : List Char) : Option Nat :=
  if cs = [] ∨ 4 < cs.length then none else readBase 16 cs

/-- A byte in decimal, without zeros in front. -/
def byte? (cs : List Char) : Option Nat :=
  if cs.head? = some '0' ∧ 1 < cs.length then none
  else Text.readUpTo 255 cs

/-- Four bytes with dots between them, as two words. -/
def wordsOfBytes? (cs : List Char) : Option (List Nat) :=
  match (Text.cutAll '.' cs).mapM byte? with
  | some [a, b, c, d] => some [a * 256 + b, c * 256 + d]
  | _ => none

/-- Words with colons between them; four bytes may stand in place of the last two. -/
def words? (cs : List Char) : Option (List Nat) :=
  if cs = [] then some []
  else
    let all := Text.cutAll ':' cs
    match all.dropLast.mapM word?, all.getLast? with
    | some front, some last =>
      if last.contains '.' then (wordsOfBytes? last).map (front ++ ·)
      else (word? last).map fun word => front ++ [word]
    | _, _ => none

/-- The two sides of a double colon, if there is one. -/
def cutDouble : List Char → Option (List Char × List Char)
  | ':' :: ':' :: rest => some ([], rest)
  | c :: rest => (cutDouble rest).map fun (before, after) => (c :: before, after)
  | [] => none

/-- Eight words, of which a double colon stands for one or more zeros. -/
def address6? (cs : List Char) : Option (List Nat) := do
  match cutDouble cs with
  | none =>
    let words ← words? cs
    if words.length = 8 then return words else none
  | some (before, after) =>
    let front ← if before.contains '.' then none else words? before
    let back ← words? after
    let zeros := 8 - (front.length + back.length)
    if zeros = 0 then none else return front ++ List.replicate zeros 0 ++ back

/-- Where the longest run of zeros is, and how long; of equal runs the first. -/
def longestZeros (start best bestLength : Nat) : Nat → List Nat → Nat × Nat
  | run, [] => if bestLength < run then (start, run) else (best, bestLength)
  | run, w :: rest =>
    if w = 0 then longestZeros start best bestLength (run + 1) rest
    else if bestLength < run then longestZeros (start + run + 1) start run 0 rest
    else longestZeros (start + run + 1) best bestLength 0 rest

def hexWords (words : List Nat) : String :=
  String.intercalate ":" (words.map fun w => String.ofList (Nat.toDigits 16 w))

/-- An address of eight words as it is written. The longest run of zeros is left out if it is longer
than one. -/
def text6 (words : List Nat) : String :=
  let (start, length) := longestZeros 0 0 0 0 words
  if length < 2 then hexWords words
  else hexWords (words.take start) ++ "::" ++ hexWords (words.drop (start + length))

/-! ### Names -/

/-- A name as it is written in ASCII, with its escapes undone first. -/
def name? (cs : List Char) : Option (List Char) :=
  (Text.decode? (percentDecode cs)).bind fun text => domainName? text.toList

/-! ### Reading and writing -/

/-- What stands between the brackets. -/
def bracketed? (cs : List Char) : Option (List Char) :=
  match cs with
  | '[' :: rest => if rest.getLast? = some ']' then some rest.dropLast else none
  | _ => none

/-- Reads an address in brackets. -/
def readAddress6 (cs : List Char) : Except Error Host :=
  match (bracketed? cs).bind address6? with
  | some words => .ok (.address6 words)
  | none => .error .badAddress6

/-- Reads the host of a scheme that knows hosts. -/
def parse (cs : List Char) : Except Error Host :=
  if cs.head? = some '[' then readAddress6 cs
  else
    match name? cs with
    | none => .error .badName
    | some [] => .error .emptyHost
    | some written =>
      if endsInNumber written then
        match address4? written with
        | some n => .ok (.address4 n)
        | none => .error .badAddress4
      else .ok (.name (String.ofList written))

/-- What no host may hold, whatever the scheme. -/
def isForbiddenAnywhere (c : Char) : Bool := "\x00\t\n\r #/:<>?@[\\]^|".toList.contains c

/-- A host of a scheme that knows nothing of hosts; it may be empty. -/
def parseOpaque (cs : List Char) : Except Error Host :=
  if cs.head? = some '[' then readAddress6 cs
  else if cs.any isForbiddenAnywhere then .error .badCharacter
  else .ok (.name (String.ofList (percentEncode .controls cs)))

/-- The host as it stands in an address. -/
def text : Host → String
  | .name text => text
  | .address4 n => text4 n
  | .address6 words => "[" ++ text6 words ++ "]"

end Host
end Courier.Url
