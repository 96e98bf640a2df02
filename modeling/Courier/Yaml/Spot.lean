import Courier.Text.Numeral

/-! The characters of a YAML text, each with its place.

All ways to end a line count as line feeds here, except for the separators of lines and paragraphs,
which also end a line but stay what they are. -/
namespace Courier.Yaml

/-- A character with the number of its line, its column, and its place in the text. -/
structure Spot where
  char : Char
  line : Nat
  column : Nat
  index : Nat
  deriving DecidableEq, Repr

/-- A text from some place on. -/
abbrev Spots := List Spot

/-- Whether a character may stand in a text at all. -/
def isAllowed (c : Char) : Bool :=
  let n := c.toNat
  n = 0x09 || n = 0x0A || n = 0x0D || (0x20 ≤ n && n ≤ 0x7E) || n = 0x85 ||
    (0xA0 ≤ n && n ≤ 0xFFFD) || 0x10000 ≤ n

/-- What ends a line. -/
def isBreak (c : Char) : Bool := c = '\n' || c = '\u2028' || c = '\u2029'

/-- A space or a tab. -/
def isGap (c : Char) : Bool := c = ' ' || c = '\t'

/-- A text in which all usual ways to end a line are line feeds. -/
def oneBreak : List Char → List Char
  | '\r' :: '\n' :: rest => '\n' :: oneBreak rest
  | '\r' :: rest => '\n' :: oneBreak rest
  | '\u0085' :: rest => '\n' :: oneBreak rest
  | c :: rest => c :: oneBreak rest
  | [] => []

/-- Characters with their places, of which the first is given. -/
def spotsFrom (line column index : Nat) : List Char → Spots
  | [] => []
  | c :: rest =>
    ⟨c, line, column, index⟩ ::
      (if isBreak c then spotsFrom (line + 1) 0 (index + 1) rest
       else spotsFrom line (column + 1) (index + 1) rest)

/-- The characters of a text, if all of them are allowed. -/
def spots? (text : String) : Option Spots :=
  if text.toList.all isAllowed then some (spotsFrom 0 0 0 (oneBreak text.toList)) else none

/-! ### Looking ahead -/

def chars (s : Spots) : List Char := s.map (·.char)

/-- Whether a text comes next. -/
def startsWith (text : String) (s : Spots) : Bool := text.toList.isPrefixOf (chars (s.take text.length))

/-- Whether a line ends here, or the text does. -/
def atBreak : Spots → Bool
  | [] => true
  | p :: _ => isBreak p.char

/-- Whether a word has ended. -/
def atGapOrBreak : Spots → Bool
  | [] => true
  | p :: _ => isBreak p.char || isGap p.char

/-- Three hyphens or three dots by themselves at the start of a line set documents apart. -/
def atDocumentMark (s : Spots) : Bool :=
  match s with
  | [] => false
  | p :: _ =>
    p.column = 0 && (startsWith "---" s || startsWith "..." s) && atGapOrBreak (s.drop 3)

def byteOrderMark : Char := '\uFEFF'

/-- Past a byte order mark at the start of a line. It is no part of a token, but it has a column. -/
def skipByteOrderMark : Spots → Spots
  | p :: rest => if p.column = 0 && p.char = byteOrderMark then rest else p :: rest
  | [] => []

/-- Passes over blanks. -/
def skipGaps (s : Spots) : Spots := s.dropWhile fun p => isGap p.char

/-- Passes over what is left of the line. -/
def skipLine (s : Spots) : Spots := s.dropWhile fun p => !isBreak p.char

/-- Past a comment, if there is one. -/
def skipComment : Spots → Spots
  | p :: rest => if p.char = '#' then skipLine rest else p :: rest
  | [] => []

/-- A character of words: of anchors, tag handles and directives. -/
def isWordChar (c : Char) : Bool := c.isAlphanum || c = '-' || c = '_'

end Courier.Yaml
