import Courier.Yaml.Spot

/-! The text of scalars.

Lines of a plain or a quoted scalar are folded: a single line break is a space, and of more breaks
the first one is dropped. A literal block keeps its breaks, and a folded block folds those between
lines that do not start with a blank. -/
namespace Courier.Yaml

/-! ### Gaps -/

/-- Blanks and breaks between two words: the blanks before the first break, the first break, if any,
and the breaks after it. `broken` says that the gap goes over the end of a line. -/
structure Gap where
  blanks : List Char := []
  first : List Char := []
  /-- The last one first, as the blanks are. -/
  more : List Char := []
  broken : Bool := false
  deriving DecidableEq, Repr

/-- What the gap is in the text. -/
def Gap.text (g : Gap) : List Char :=
  if !g.broken then g.blanks.reverse
  else if g.first = ['\n'] then (if g.more = [] then [' '] else g.more.reverse)
  else g.first ++ g.more.reverse

/-- Takes one more blank or line break. Blanks in front of a break do not count, nor do those at the
start of a line. -/
def Gap.add (g : Gap) (c : Char) : Gap :=
  if isBreak c then
    if g.broken then { g with more := c :: g.more }
    else { g with blanks := [], first := [c], broken := true }
  else if g.broken then g else { g with blanks := c :: g.blanks }

def isGapOrBreak (c : Char) : Bool := isGap c || isBreak c

/-- A gap from the front. -/
def takeGap (g : Gap) (s : Spots) : Gap × Spots :=
  let (gap, rest) := s.span fun p => isGapOrBreak p.char
  ((chars gap).foldl Gap.add g, rest)

/-- A tab in place of indentation, on a line after the first one of a gap. -/
def hasBadTab (indent : Int) (s : Spots) : Bool :=
  let gap := s.takeWhile fun p => isGapOrBreak p.char
  match gap.dropWhile fun p => !isBreak p.char with
  | [] => false
  | _ :: later => later.any fun p => p.char = '\t' && (p.column : Int) < indent

/-! ### Plain scalars -/

/-- What ends a plain scalar between brackets. -/
def isFlowMark (c : Char) : Bool := c = ',' || c = '[' || c = ']' || c = '\x7b' || c = '\x7d'

/-- A word of a plain scalar, in reverse order. -/
def takeWord (flow : Bool) (read : List Char) : Spots → Option (List Char × Spots)
  | [] => some (read, [])
  | p :: rest =>
    let ahead := (rest.head?.map (·.char)).getD ' '
    if isGapOrBreak p.char then some (read, p :: rest)
    else if flow && p.char = ':' && (isFlowMark ahead || ahead = '?') then none
    else if p.char = ':' && atGapOrBreak rest then some (read, p :: rest)
    else if flow && isFlowMark p.char then some (read, p :: rest)
    else takeWord flow (p.char :: read) rest

/-- The rest of a plain scalar after what was read of it, in reverse order, and a gap. The answer
says whether the scalar ends behind a line break. Each word has a character, so that as many steps
as there are characters are enough. -/
def plainFrom (flow : Bool) (indent : Int) (read : List Char) (gap : Gap) :
    Nat → Spots → Option (List Char × Bool × Spots)
  | 0, s => some (read, gap.broken, s)
  | steps + 1, s =>
    if atDocumentMark s || startsWith "#" s then some (read, gap.broken, s)
    else
      match takeWord flow [] s with
      | none => none
      | some (word, rest) =>
        let (read, gap) :=
          if word = [] then (read, gap) else (word ++ gap.text.reverse ++ read, {})
        match rest with
        | [] => some (read, gap.broken, rest)
        | p :: _ =>
          if !isGapOrBreak p.char then some (read, gap.broken, rest)
          else if hasBadTab indent rest then none
          else
            let (gap, after) := takeGap gap rest
            let column := (after.head?.map (·.column)).getD 0
            if !flow && (column : Int) < indent then some (read, gap.broken, after)
            else plainFrom flow indent read gap steps after

/-- A plain scalar inside `indent`, of at most `size` words. -/
def takePlain (size : Nat) (flow : Bool) (indent : Int) (s : Spots) : Option (String × Bool × Spots) :=
  (plainFrom flow indent [] {} size s).map fun (read, broken, rest) =>
    (String.ofList read.reverse, broken, rest)

/-! ### Quoted scalars -/

/-- The value of so many digits to base 16. -/
def hexNumber? (s : Spots) (width : Nat) : Option Nat :=
  let digits := chars (s.take width)
  if digits.length < width then none
  else digits.foldlM (fun n c => (Text.hexValue? c).map (n * 16 + ·)) 0

/-- The character with this number, if there is one. -/
def codePoint? (n : Nat) : Option Char :=
  if (0xD800 ≤ n ∧ n ≤ 0xDFFF) ∨ 0x10FFFF < n then none else some (Char.ofNat n)

/-- What a letter stands for behind a backslash. -/
def escapes : List (Char × Char) :=
  [('0', '\x00'), ('a', '\x07'), ('b', '\x08'), ('t', '\t'), ('\t', '\t'), ('n', '\n'),
   ('v', '\x0b'), ('f', '\x0c'), ('r', '\r'), ('e', '\x1b'), (' ', ' '), ('"', '"'), ('/', '/'),
   ('\\', '\\'), ('N', '\u0085'), ('_', '\u00a0'), ('L', '\u2028'), ('P', '\u2029')]

/-- How many hexadecimal digits follow a letter behind a backslash. -/
def hexWidths : List (Char × Nat) := [('x', 2), ('u', 4), ('U', 8)]

/-- The character of an escape, and what follows it. -/
def takeEscape : Spots → Option (Char × Spots)
  | [] => none
  | p :: rest =>
    match escapes.lookup p.char, hexWidths.lookup p.char with
    | some c, _ => some (c, rest)
    | none, some width =>
      ((hexNumber? rest width).bind codePoint?).map fun c => (c, rest.drop width)
    | none, none => none

/-- The rest of a quoted scalar after what was read of it, in reverse order. Each step uses up a
character. -/
def quotedFrom (double : Bool) (read : List Char) : Nat → Spots → Option (List Char × Spots)
  | _, [] => none
  | 0, _ => none
  | steps + 1, p :: rest =>
    if atDocumentMark (p :: rest) then none
    else if isGapOrBreak p.char then
      let (gap, after) := takeGap {} (p :: rest)
      quotedFrom double (gap.text.reverse ++ read) steps after
    else if !double && p.char = '\'' then
      if startsWith "'" rest then quotedFrom double ('\'' :: read) steps (rest.drop 1)
      else some (read, rest)
    else if double && p.char = '"' then some (read, rest)
    else if double && p.char = '\\' then
      if !rest.isEmpty && atBreak rest then
        let (gap, after) := takeGap { broken := true } (rest.drop 1)
        quotedFrom double (gap.text.reverse ++ read) steps after
      else
        match takeEscape rest with
        | some (c, rest) => quotedFrom double (c :: read) steps rest
        | none => none
    else quotedFrom double (p.char :: read) steps rest

/-- A quoted scalar of at most `size` characters, its first quote read. -/
def takeQuoted (size : Nat) (double : Bool) (s : Spots) : Option (String × Spots) :=
  (quotedFrom double [] size s).map fun (read, rest) => (String.ofList read.reverse, rest)

/-! ### Block scalars -/

/-- What happens to the breaks at the end of a block. -/
inductive Chomping where
  | strip
  | clip
  | keep
  deriving DecidableEq, Repr

/-- What becomes of the last line breaks, by the mark in the header of a block. -/
def chomping? : Char → Option Chomping
  | '+' => some .keep
  | '-' => some .strip
  | _ => none

/-- The marks behind the indicator of a block: its chomping and its indentation, in any order. -/
def takeHeader (s : Spots) : Option (Chomping × Nat × Spots) :=
  let chomp (s : Spots) : Option Chomping × Spots :=
    match s with
    | p :: rest => match chomping? p.char with
      | some c => (some c, rest)
      | none => (none, s)
    | [] => (none, s)
  let digit (s : Spots) : Option Nat × Spots :=
    match s with
    | p :: rest => if p.char.isDigit then (some (Text.digitValue p.char), rest) else (none, s)
    | [] => (none, s)
  let (before, s) := chomp s
  let (width, s) := digit s
  let (after, s) := if before.isNone && width.isSome then chomp s else (none, s)
  if width = some 0 then none
  else some ((before.or after).getD .clip, width.getD 0, s)

/-- Empty lines in front of the next line of a block, which is as deep as `indent`, or as deep as it
happens to be when `indent` is 0. -/
structure Breaks where
  indent : Nat
  breaks : List Char
  rest : Spots

/-- Goes over indentation and empty lines; `deepest` is the deepest indentation met, and of the
breaks the last one comes first. -/
def breaksFrom (indent deepest : Nat) (breaks : List Char) : Spots → Option (Nat × List Char × Spots)
  | [] => some (deepest, breaks, [])
  | p :: rest =>
    let inside := indent = 0 || p.column < indent
    if inside && p.char = ' ' then breaksFrom indent deepest breaks rest
    else
      let deepest := max deepest p.column
      if inside && p.char = '\t' then none
      else if isBreak p.char then breaksFrom indent deepest (p.char :: breaks) rest
      else some (deepest, breaks, p :: rest)

/-- Takes empty lines, and finds out how far a block is indented if that is not given. -/
def takeBreaks (outer : Int) (indent : Nat) (s : Spots) : Option Breaks :=
  (breaksFrom indent 0 [] s).map fun (deepest, breaks, rest) =>
    ⟨if indent = 0 then max (max deepest (outer + 1).toNat) 1 else indent, breaks.reverse, rest⟩

/-- A block as far as it is read: its text in reverse order, the break behind its last line, the
breaks of empty lines after that, and whether the last line started with a blank. -/
structure Block where
  read : List Char := []
  last : List Char := []
  breaks : List Char := []
  blank : Bool := false

/-- Puts a line behind a block, and the breaks before it. -/
def Block.addLine (b : Block) (folded : Bool) (line : List Char) : Block :=
  let blank := (line.head?.map isGap).getD false
  let join :=
    if folded && b.last = ['\n'] && !b.blank && !blank then (if b.breaks = [] then [' '] else [])
    else b.last
  { read := (join ++ b.breaks ++ line).reverse ++ b.read, last := [], breaks := [], blank }

/-- The lines of a block. Each step uses up the characters of a line. -/
def blockFrom (folded : Bool) (indent : Nat) (b : Block) : Nat → Spots → Option (Block × Spots)
  | 0, s => some (b, s)
  | _, [] => some (b, [])
  | steps + 1, p :: rest =>
    if p.column ≠ indent then some (b, p :: rest)
    else
      let (line, after) := (p :: rest).span fun p => !isBreak p.char
      let b := b.addLine folded (chars line)
      match after with
      | [] => some (b, [])
      | e :: after =>
        match takeBreaks 0 indent after with
        | none => none
        | some next => blockFrom folded indent { b with last := [e.char], breaks := next.breaks } steps
            next.rest

/-- A block scalar of at most `size` lines, below something indented by `outer`. Its indicator is
read already. -/
def takeBlock (size : Nat) (folded : Bool) (outer : Int) (s : Spots) : Option (String × Spots) := do
  let (chomping, width, s) ← takeHeader s
  let s := skipComment (skipGaps s)
  if !atBreak s then none
  else
    let indent := if width = 0 then 0 else (max outer 0).toNat + width
    let start ← takeBreaks outer indent (s.drop 1)
    let (b, rest) ← blockFrom folded start.indent { breaks := start.breaks } size start.rest
    let tail := match chomping with
      | .strip => []
      | .clip => b.last
      | .keep => b.last ++ b.breaks
    return (String.ofList (b.read.reverse ++ tail), rest)

end Courier.Yaml
