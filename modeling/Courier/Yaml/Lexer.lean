import Courier.Yaml.Scalar
import Courier.Yaml.Token
import Courier.Text.Utf8

/-! The tokens of a text.

Indentation outside of brackets opens and closes collections. A key is only known as one by the
colon after it, so wherever a key can start the lexer notes the place; the colon then puts the key
token there, and the start of a mapping if the key opens one. Such a key stays on one line and
within 1024 characters. -/
namespace Courier.Yaml

/-- A place where a key may have started. -/
structure Candidate where
  line : Nat
  column : Nat
  index : Nat
  /-- How many tokens stand before it. -/
  tokens : Nat
  /-- Whether what starts here can be nothing but a key. -/
  required : Bool
  deriving DecidableEq, Repr

/-- The lexer between two tokens. -/
structure Lexer where
  rest : Spots
  /-- How long the whole text is: no part of it has more lines, words or characters. -/
  size : Nat
  /-- The tokens so far, the last one first. -/
  tokens : List Token := []
  /-- How many tokens there are so far. -/
  count : Nat := 0
  /-- Columns of the open block collections, the innermost first. -/
  indents : List Nat := []
  /-- The candidate inside each open bracket, the innermost first; the last one is outside of all. -/
  candidates : List (Option Candidate) := [none]
  keyAllowed : Bool := true

namespace Lexer

/-- The most characters between the start of a key and its colon. -/
def maxKeyLength : Nat := 1024

/-- Whether a bracket is open. -/
def inFlow (l : Lexer) : Bool :=
  match l.candidates with
  | _ :: _ :: _ => true
  | _ => false

/-- The column of the innermost block; there is none in front of the first. -/
def indent (l : Lexer) : Int :=
  match l.indents with
  | column :: _ => column
  | [] => -1

/-- The column of the next character. -/
def column (l : Lexer) : Int :=
  match l.rest with
  | p :: _ => p.column
  | [] => -1

def emit (l : Lexer) (token : Token) : Lexer :=
  { l with tokens := token :: l.tokens, count := l.count + 1 }

/-- Puts a token behind the first `place` tokens. -/
def insert (l : Lexer) (place : Nat) (token : Token) : Lexer :=
  let after := l.count - place
  { l with tokens := l.tokens.take after ++ token :: l.tokens.drop after, count := l.count + 1 }

/-! ### Candidates -/

/-- Notes where a key may start, on the level of the innermost bracket. -/
def setCandidate (l : Lexer) (c : Option Candidate) : Lexer :=
  { l with candidates := c :: l.candidates.tail }

def candidate (l : Lexer) : Option Candidate := l.candidates.head?.join

/-- Gives the innermost candidate up, unless it has to be a key. -/
def dropCandidate (l : Lexer) : Option Lexer :=
  match l.candidate with
  | some c => if c.required then none else some (l.setCandidate none)
  | none => some l

/-- Notes that a key may start here. -/
def noteCandidate (l : Lexer) : Option Lexer :=
  match l.rest with
  | [] => some l
  | p :: _ =>
    if !l.keyAllowed then some l
    else
      let required := !l.inFlow && l.indent = p.column
      l.dropCandidate.map fun l => l.setCandidate
        (some ⟨p.line, p.column, p.index, l.count, required⟩)

/-- Whether a place is too far back to be the start of a key. -/
def isStale (p : Spot) (c : Candidate) : Bool := c.line < p.line || c.index + maxKeyLength < p.index

/-- Gives up the innermost candidate if it is too far away. The others have their turn when the
brackets around what is read are closed, and they do not come nearer. -/
def dropStale (l : Lexer) : Option Lexer :=
  match l.rest, l.candidate with
  | p :: _, some c => if isStale p c then l.dropCandidate else some l
  | _, _ => some l

/-! ### Indentation -/

/-- Opens a block collection at a column, behind the first `place` tokens. -/
def openBlock (l : Lexer) (column place : Nat) (token : Token) : Lexer :=
  if l.inFlow || column ≤ l.indent then l
  else { l.insert place token with indents := column :: l.indents }

/-- Closes the block collections that are deeper than a column. -/
def closeBlocks (l : Lexer) (column : Int) : Lexer :=
  if l.inFlow then l
  else
    let (deeper, indents) := l.indents.span fun (c : Nat) => column < c
    { l with
      tokens := deeper.map (fun _ => Token.blockEnd) ++ l.tokens
      count := l.count + deeper.length, indents }

/-! ### Tokens -/

def skip (l : Lexer) (n : Nat) : Lexer := { l with rest := l.rest.drop n }

/-- A line in front of the first token of the next one: blanks, and a comment. A tab is a blank
unless a key could start in its place. -/
def skipLineStart (l : Lexer) : Spots :=
  skipComment ((skipByteOrderMark l.rest).dropWhile fun p =>
    p.char = ' ' || (p.char = '\t' && (l.inFlow || !l.keyAllowed)))

/-- Goes to the next token. -/
def skipToToken (l : Lexer) : Nat → Lexer
  | 0 => l
  | steps + 1 =>
    match l.skipLineStart with
    | [] => { l with rest := [] }
    | p :: rest =>
      if isBreak p.char then
        skipToToken { l with rest, keyAllowed := l.keyAllowed || !l.inFlow } steps
      else { l with rest := p :: rest }

/-- Takes an opening bracket, which may start a key itself. -/
def openBracket (l : Lexer) (token : Token) : Option Lexer :=
  l.noteCandidate.map fun l =>
    { (l.skip 1).emit token with candidates := none :: l.candidates, keyAllowed := true }

/-- Takes a closing bracket. Whether it fits is checked with the tree. -/
def closeBracket (l : Lexer) (token : Token) : Option Lexer :=
  l.dropCandidate.map fun l =>
    let candidates := if l.inFlow then l.candidates.tail else l.candidates
    { (l.skip 1).emit token with candidates, keyAllowed := false }

/-- Takes a comma between brackets. -/
def flowEntry (l : Lexer) : Option Lexer :=
  l.dropCandidate.map fun l => { (l.skip 1).emit .flowEntry with keyAllowed := true }

/-- Takes the dash of an item, which may open a block. -/
def blockEntry (l : Lexer) : Option Lexer :=
  if !l.inFlow && !l.keyAllowed then none
  else
    (l.openBlock l.column.toNat l.count .blockSequence).dropCandidate.map fun l =>
      { (l.skip 1).emit .blockEntry with keyAllowed := true }

/-- Takes a question mark, which says that a key follows. -/
def key (l : Lexer) : Option Lexer :=
  if !l.inFlow && !l.keyAllowed then none
  else
    (l.openBlock l.column.toNat l.count .blockMapping).dropCandidate.map fun l =>
      { (l.skip 1).emit .key with keyAllowed := !l.inFlow }

/-- Takes a colon. Where a key may have started, the key goes in front of what was read since. -/
def value (l : Lexer) : Option Lexer :=
  match l.candidate with
  | some c =>
    let l := (l.insert c.tokens .key).openBlock c.column c.tokens .blockMapping
    some (((l.setCandidate none).skip 1).emit .value |> fun l => { l with keyAllowed := false })
  | none =>
    if l.inFlow then some { (l.skip 1).emit .value with keyAllowed := false }
    else if !l.keyAllowed then none
    else
      let l := l.openBlock l.column.toNat l.count .blockMapping
      some { (l.skip 1).emit .value with keyAllowed := true }

/-- A token that may be a key and is not the start of a collection. -/
def atom (l : Lexer) (read : Spots → Option (Token × Bool × Spots)) : Option Lexer :=
  l.noteCandidate.bind fun l =>
    (read l.rest).map fun (token, keyAllowed, rest) => { l.emit token with rest, keyAllowed }

/-! ### Names and tags -/

/-- What may come right after the name of an anchor. -/
def endsName (s : Spots) : Bool :=
  match s with
  | [] => true
  | p :: _ => atGapOrBreak s || "?:,]\x7d%@`".toList.contains p.char

/-- Reads the name of an anchor or an alias. -/
def readName (make : String → Token) (s : Spots) : Option (Token × Bool × Spots) :=
  let (name, rest) := (s.drop 1).span fun p => isWordChar p.char
  if name = [] || !endsName rest then none
  else some (make (String.ofList (chars name)), false, rest)

/-- What a tag may hold. Brackets may be in one that stands between angle brackets. -/
def isUriChar (brackets : Bool) (c : Char) : Bool :=
  isWordChar c || ";/?:@&=+$.%!~*'()".toList.contains c || (brackets && ",[]".toList.contains c)

/-- The bytes of a run of percent escapes and other characters; `none` for a bad escape. -/
def uriBytes : List Char → Option Bytes
  | '%' :: a :: b :: rest => do
    let high ← Text.hexValue? a
    let low ← Text.hexValue? b
    (uriBytes rest).map ((high * 16 + low).toUInt8 :: ·)
  | '%' :: _ => none
  | c :: rest => (uriBytes rest).map (Text.utf8 (String.singleton c) ++ ·)
  | [] => some []

/-- An address, which may be empty only if something stands in front of it. -/
def readUri (brackets emptyAllowed : Bool) (s : Spots) : Option (String × Spots) :=
  let (uri, rest) := s.span fun p => isUriChar brackets p.char
  if uri = [] && !emptyAllowed then none
  else ((uriBytes (chars uri)).bind Text.decode?).map fun text => (text, rest)

/-- A handle `!`, `!!` or `!word!`; without the second mark it is the start of a suffix. -/
def readHandle (s : Spots) : Option (String × Bool × Spots) :=
  match s with
  | [] => none
  | p :: rest =>
    if p.char ≠ '!' then none
    else
      let (word, rest) := rest.span fun p => isWordChar p.char
      let text := '!' :: chars word
      if startsWith "!" rest then some (String.ofList (text ++ ['!']), true, rest.drop 1)
      else some (String.ofList text, false, rest)

/-- Handle and suffix of a tag. -/
def readTagParts (s : Spots) : Option (String × String × Spots) :=
  if startsWith "!<" s then do
    let (uri, rest) ← readUri true false (s.drop 2)
    if startsWith ">" rest then return ("", uri, rest.drop 1) else none
  else do
    let (handle, closed, rest) ← readHandle s
    if closed then
      let (suffix, rest) ← readUri false false rest
      return (handle, suffix, rest)
    else
      let (suffix, rest) ← readUri false true rest
      let suffix := String.ofList (handle.toList.drop 1) ++ suffix
      return if suffix = "" then ("", "!", rest) else ("!", suffix, rest)

/-- Reads a tag with what has to follow it. -/
def readTag (flow : Bool) (s : Spots) : Option (Token × Bool × Spots) := do
  let (handle, suffix, rest) ← readTagParts s
  if atGapOrBreak rest || (flow && startsWith "," rest) then
    return (.tag handle suffix, false, rest)
  else none

/-! ### Directives -/

/-- Reads a number of nine digits at most. -/
def readNumber (s : Spots) : Option (Nat × Spots) :=
  let (digits, rest) := s.span fun p => p.char.isDigit
  if digits = [] || 9 < digits.length then none
  else some (Text.digitsOnto 0 (chars digits), rest)

/-- Reads the version of a directive. -/
def readVersion (s : Spots) : Option (Token × Spots) := do
  let (major, rest) ← readNumber (skipGaps s)
  if startsWith "." rest then
    let (minor, rest) ← readNumber (rest.drop 1)
    return (.versionDirective major minor, rest)
  else none

/-- Reads a handle and what it stands for. -/
def readTagDirective (s : Spots) : Option (Token × Spots) := do
  let (handle, closed, rest) ← readHandle (skipGaps s)
  let handleEnds := match rest with
    | p :: _ => isGap p.char
    | [] => false
  if (closed || handle = "!") && handleEnds then
    let (value, rest) ← readUri true false (skipGaps rest)
    if atGapOrBreak rest then return (.tagDirective handle value, rest) else none
  else none

/-- Reads the line of a directive. Only two are known. -/
def readDirective (s : Spots) : Option (Token × Spots) := do
  let (name, rest) := (s.drop 1).span fun p => isWordChar p.char
  let name := String.ofList (chars name)
  if !atGapOrBreak rest then none
  else
    let (token, rest) ←
      if name = "YAML" then readVersion rest
      else if name = "TAG" then readTagDirective rest
      else none
    let rest := skipComment (skipGaps rest)
    if atBreak rest then return (token, rest.drop 1) else none

/-- A directive or a document mark, which close everything that is open. -/
def outermost (l : Lexer) (read : Spots → Option (Token × Spots)) : Option Lexer :=
  (l.closeBlocks (-1)).dropCandidate.bind fun l =>
    (read l.rest).map fun (token, rest) => { l.emit token with rest, keyAllowed := false }

/-! ### All tokens -/

/-- Takes a block scalar, in which all lines are text. -/
def block (l : Lexer) (folded : Bool) : Option Lexer :=
  l.dropCandidate.bind fun l =>
    (takeBlock l.size folded l.indent (l.rest.drop 1)).map fun (text, rest) =>
      { l.emit (.scalar text (if folded then .folded else .literal)) with rest, keyAllowed := true }

def quoted (size : Nat) (double : Bool) (s : Spots) : Option (Token × Bool × Spots) :=
  (takeQuoted size double (s.drop 1)).map fun (text, rest) => (.scalar text .quoted, false, rest)

/-- Characters that start no plain scalar, unless some other one follows them. -/
def indicators : List Char := "-?:,[]\x7b\x7d#&*!|>'\"%@`".toList

/-- Whether a scalar without quotes may start so. -/
def startsPlain (flow : Bool) (c : Char) (rest : Spots) : Bool :=
  let gapFollows := match rest with
    | p :: _ => isGap p.char
    | [] => false
  (!indicators.contains c && !isGap c) || (c = '-' && !gapFollows) ||
    (!flow && (c = '?' || c = ':') && !atGapOrBreak rest)

/-- Takes a scalar without quotes, which ends where the text gets out of its block. -/
def plain (size : Nat) (flow : Bool) (indent : Int) (s : Spots) : Option (Token × Bool × Spots) :=
  (takePlain size flow (indent + 1) s).map fun (text, broken, rest) => (.scalar text .plain, broken, rest)

/-- The token that starts with `c`; `rest` is what follows that character. -/
def token (l : Lexer) (c : Char) (rest : Spots) : Option Lexer :=
  let alone := atGapOrBreak rest
  if l.column = 0 && c = '%' then l.outermost readDirective
  else if atDocumentMark l.rest then
    let token := if c = '-' then Token.documentStart else .documentEnd
    l.outermost fun s => some (token, s.drop 3)
  else if c = '[' then l.openBracket .openSequence
  else if c = '\x7b' then l.openBracket .openMapping
  else if c = ']' then l.closeBracket .closeSequence
  else if c = '\x7d' then l.closeBracket .closeMapping
  else if c = ',' then l.flowEntry
  else if c = '-' && alone then l.blockEntry
  else if c = '?' && (l.inFlow || alone) then l.key
  else if c = ':' && (l.inFlow || alone) then l.value
  else if c = '*' then l.atom (readName .alias)
  else if c = '&' then l.atom (readName .anchor)
  else if c = '!' then l.atom (readTag l.inFlow)
  else if (c = '|' || c = '>') && !l.inFlow then l.block (c = '>')
  else if c = '\'' || c = '"' then l.atom (quoted l.size (c = '"'))
  else if startsPlain l.inFlow c rest then l.atom (plain l.size l.inFlow l.indent)
  else none

/-- Reads on to the end. Each token and each line uses up a character. -/
def run (l : Lexer) : Nat → Option Lexer
  | 0 => some l
  | steps + 1 =>
    match (l.skipToToken (steps + 1)).dropStale with
    | none => none
    | some l =>
      match l.rest with
      | [] => some l
      | p :: rest =>
        match (l.closeBlocks p.column).token p.char rest with
        | none => none
        | some l => run l steps

/-- The tokens, once all blocks are closed. -/
def finish (l : Lexer) : Option (List Token) :=
  (l.closeBlocks (-1)).dropCandidate.map (·.tokens.reverse)

end Lexer

/-- All tokens of a text. Its length bounds the steps of the lexer. -/
def tokens? (text : String) : Option (List Token) :=
  (spots? text).bind fun s =>
    let size := s.length
    ((({ rest := s, size } : Lexer).run (size + 1)).bind Lexer.finish)

end Courier.Yaml
