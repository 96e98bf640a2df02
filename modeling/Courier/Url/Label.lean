import Courier.Unicode.Direction
import Courier.Unicode.Joining
import Courier.Unicode.Normal
import Courier.Url.Folding
import Courier.Url.Punycode

/-! Labels: what stands between the points of a domain name.

A label that is not ASCII is written in ASCII behind a mark of its own, and a label with that mark
has to be such a one. It starts with no combining mark, and joiners are only where they change the
look of a script. In a name with letters that go from right to left, each label keeps to one
direction. -/
namespace Courier.Url

open Unicode (Direction Joining)

/-- A label as it is written, and what it says. -/
structure Label where
  written : List Char
  chars : List Char
  deriving DecidableEq, Repr

namespace Label

/-- The mark of a label that stands for one which is not ASCII. -/
def punycodeMark : List Char := "xn--".toList

def isAscii (cs : List Char) : Bool := cs.all fun c => c.toNat < 0x80

/-! ### Joiners -/

def joiner : Char := '\u200D'
def nonJoiner : Char := '\u200C'

/-- Whether the first character that is not transparent joins. -/
def joins (joins : Joining → Bool) (cs : List Char) : Bool :=
  match (cs.map Joining.ofChar).dropWhile (· = .transparent) with
  | first :: _ => joins first
  | [] => false

/-- A joiner follows the sign that takes the vowel away. Where letters would join without it, a
character that keeps them apart may stand too. -/
def hasGoodJoiners (before : List Char) : List Char → Bool
  | [] => true
  | c :: rest =>
    let afterVirama := match before with
      | last :: _ => Unicode.combiningClass last = Unicode.viramaClass
      | [] => false
    let good :=
      if c = joiner then afterVirama
      else if c = nonJoiner then
        afterVirama || (joins Joining.joinsAfter before && joins Joining.joinsBefore rest)
      else true
    good && hasGoodJoiners (c :: before) rest

/-! ### Directions -/

/-- Whether a direction makes a name one with letters from right to left. -/
def isRightToLeft (d : Direction) : Bool := d = .rightToLeft || d = .arabicNumber

/-- A label from left to right. What it ends with is told without marks, in reverse order. -/
def keepsLeftToRight (rest reversed : List Direction) : Bool :=
  rest.all (fun d => !isRightToLeft d) &&
    match reversed with
    | last :: _ => last = .leftToRight || last = .europeanNumber
    | [] => true

/-- A label from right to left. It has numbers of one kind only. -/
def keepsRightToLeft (rest reversed : List Direction) : Bool :=
  rest.all (· ≠ .leftToRight) &&
    !(rest.contains .europeanNumber && rest.contains .arabicNumber) &&
    match reversed with
    | last :: _ => last ≠ .neutral
    | [] => true

/-- A label starts with a letter, which says the direction of all of it. -/
def keepsDirection (cs : List Char) : Bool :=
  match cs.map Direction.ofChar with
  | [] => true
  | first :: rest =>
    let reversed := rest.reverse.dropWhile (· = .nonspacing)
    if first = .leftToRight then keepsLeftToRight rest reversed
    else first = .rightToLeft && keepsRightToLeft rest reversed

/-! ### Reading -/

/-- The longest label that is written in ASCII, in characters, and the longest one that is read. -/
def maxEncoded : Nat := 1000
/-- The most characters of a label that is read back. -/
def maxDecoded : Nat := 2000

/-- Whether a label may stand as it is, whatever its direction. -/
def isWellFormed (cs : List Char) : Bool :=
  !((cs.head?.map Unicode.isMark).getD false) && hasGoodJoiners [] cs

/-- What a label says in ASCII, its mark taken away. It has to be just what would be written so. -/
def decode? (written : List Char) : Option (List Char) :=
  if written = [] ∨ written.getLast? = some '-' ∨ maxDecoded < written.length then none
  else
    match Punycode.decode? written with
    | none => none
    | some cs =>
      if cs.all Folding.isStable && Unicode.normalize cs = cs && isWellFormed cs then some cs
      else none

/-- A label of a folded name. -/
def ofChars? (cs : List Char) : Option Label :=
  let marked := punycodeMark.isPrefixOf cs
  if isAscii cs then
    if marked then (decode? (cs.drop punycodeMark.length)).map fun chars => ⟨cs, chars⟩
    else some ⟨cs, cs⟩
  else if marked || maxEncoded < cs.length || !isWellFormed cs then none
  else some ⟨punycodeMark ++ Punycode.encode cs, cs⟩

end Label

/-! ### Names -/

/-- What no name may hold. -/
def isForbidden (c : Char) : Bool :=
  c.toNat ≤ 0x20 || c.toNat = 0x7F || "%#/:<>?@[\\]^|".toList.contains c

/-- A domain name in ASCII. -/
def domainName? (cs : List Char) : Option (List Char) := do
  let folded := Unicode.normalize (← cs.mapM Folding.ofChar?).flatten
  if folded.any isForbidden then none
  else
    let labels ← (Text.cutAll '.' folded).mapM Label.ofChars?
    let twoWays := labels.any fun l => l.chars.any fun c => Label.isRightToLeft (.ofChar c)
    if twoWays && !labels.all (fun l => Label.keepsDirection l.chars) then none
    else return List.intercalate ['.'] (labels.map (·.written))

end Courier.Url
