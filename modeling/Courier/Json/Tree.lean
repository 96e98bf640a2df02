import Courier.Json.Token

/-! JSON text as a tree of what is written.

The parser goes once over the tokens and keeps the arrays and objects that are still open, so it
reads nesting of any depth. -/
namespace Courier.Json

/-- What a text says, with numbers and strings as they are written and keys that may come twice. -/
inductive Tree where
  | null
  | bool (value : Bool)
  | number (numeral : Numeral)
  | string (raw : RawString)
  | array (items : List Tree)
  | object (members : List (RawString × Tree))

namespace Tree

/-- An open array or object, with what it holds so far in reverse order. -/
inductive Open where
  | array (items : List Tree)
  | object (members : List (RawString × Tree)) (key : RawString)

/-- What the parser can meet next. -/
inductive Next where
  | value
  /-- A value or the end of an array that is still empty. -/
  | firstItem
  /-- A key or the end of an object that is still empty. -/
  | firstKey (members : List (RawString × Tree))
  | key (members : List (RawString × Tree))
  | colon (members : List (RawString × Tree)) (key : RawString)
  /-- What follows a finished value. -/
  | after (value : Tree)

/-- The parser between two tokens: what it waits for, and what is still open, the innermost first.
-/
structure State where
  next : Next
  opened : List Open

/-- The value that a token is by itself. -/
def leaf? : Token → Option Tree
  | .null => some .null
  | .bool value => some (.bool value)
  | .number numeral => some (.number numeral)
  | .string raw => some (.string raw)
  | _ => none

/-- Takes the first token of a value. An array or object is opened, any other value is there at
once. -/
def beginValue (token : Token) (opened : List Open) : Option State :=
  match token with
  | .openArray => some ⟨.firstItem, .array [] :: opened⟩
  | .openObject => some ⟨.firstKey [], opened⟩
  | token => (leaf? token).map fun value => ⟨.after value, opened⟩

/-- Takes one token. Where the token cannot stand there is no state behind it. -/
def step (s : State) (token : Token) : Option State :=
  match s.next, token, s.opened with
  | .value, token, opened => beginValue token opened
  | .firstItem, .closeArray, .array items :: opened => some ⟨.after (.array items.reverse), opened⟩
  | .firstItem, token, opened => beginValue token opened
  | .firstKey members, .closeObject, opened => some ⟨.after (.object members.reverse), opened⟩
  | .firstKey members, .string key, opened | .key members, .string key, opened =>
    some ⟨.colon members key, opened⟩
  | .colon members key, .colon, opened => some ⟨.value, .object members key :: opened⟩
  | .after value, .comma, .array items :: opened => some ⟨.value, .array (value :: items) :: opened⟩
  | .after value, .closeArray, .array items :: opened =>
    some ⟨.after (.array (value :: items).reverse), opened⟩
  | .after value, .comma, .object members key :: opened =>
    some ⟨.key ((key, value) :: members), opened⟩
  | .after value, .closeObject, .object members key :: opened =>
    some ⟨.after (.object ((key, value) :: members).reverse), opened⟩
  | _, _, _ => none

/-- The tree of tokens that make one value and nothing else. -/
def ofTokens? (tokens : List Token) : Option Tree :=
  match tokens.foldlM step ⟨.value, []⟩ with
  | some ⟨.after value, []⟩ => some value
  | _ => none

/-- Reads bytes as one tree. -/
def parse? (bs : Bytes) : Option Tree := (Token.readAll bs).bind ofTokens?

end Tree

/-! ### Strings -/

/-- The bytes of a character with this number. -/
def charBytes (n : Nat) : Bytes := Text.utf8 (String.singleton (Char.ofNat n))

/-- Whether a numbered escape is the first half of a pair. -/
def isHighHalf (n : Nat) : Bool := 0xD800 ≤ n && n < 0xDC00

/-- Whether a numbered escape is the second half of a pair. -/
def isLowHalf (n : Nat) : Bool := 0xDC00 ≤ n && n < 0xE000

/-- The UTF-8 bytes that the pieces stand for, behind those already read, which are in reverse
order. Two escapes in a row name a character beyond the first plane; half of such a pair names
none. -/
def RawString.bytesOnto (read : Bytes) : RawString → Option Bytes
  | [] => some read.reverse
  | .byte b :: rest => bytesOnto (b :: read) rest
  | .unit high :: rest =>
    if isLowHalf high then none
    else if isHighHalf high then
      match rest with
      | .unit low :: rest =>
        if isLowHalf low then
          let n := 0x10000 + (high - 0xD800) * 0x400 + (low - 0xDC00)
          bytesOnto ((charBytes n).reverse ++ read) rest
        else none
      | _ => none
    else bytesOnto ((charBytes high).reverse ++ read) rest

/-- The text of a string, if it is one. -/
def RawString.text? (raw : RawString) : Option String :=
  (RawString.bytesOnto [] raw).bind Text.decode?

end Courier.Json
