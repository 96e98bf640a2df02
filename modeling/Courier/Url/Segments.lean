import Courier.Url.Basic

/-! Segments of a path.

A dot segment stays where the path is, and a segment of two dots goes back by one, but not over the
letter of a drive. Neither of them is kept. One at the very end leaves an empty segment behind it.

While a path is put together, its last segment comes first. -/
namespace Courier.Url

/-- Whether a segment stays where the path is. Its dot may be written with a percent sign. -/
def isDot (segment : String) : Bool := segment.toLower ∈ ["." , "%2e"]

/-- Whether a segment goes back. -/
def isDoubleDot (segment : String) : Bool :=
  segment.toLower ∈ ["..", ".%2e", "%2e.", "%2e%2e"]

/-! ### Drives -/

/-- The letter of a drive, a colon or a bar, and nothing more in front of the next slash or
backslash. -/
def startsAtDrive (segment : List Char) : Bool :=
  match segment with
  | letter :: mark :: rest =>
    letter.isAlpha && (mark = ':' || mark = '|') && (rest = [] || rest.head? = some '\\')
  | _ => false

/-- Whether a segment is the letter of a drive and nothing else. -/
def isDrive (segment : List Char) : Bool := segment.length = 2 && startsAtDrive segment

/-- A drive with its colon. -/
def writeDrive (segment : String) : String := String.ofList (segment.toList.take 1 ++ [':'])

/-! ### Following dots -/

/-- One segment back. -/
def goBack (done : List String) : List String :=
  match done with
  | [] => []
  | last :: rest => if startsAtDrive last.toList then last :: rest else rest

/-- A segment that another one follows. -/
def enter (done : List String) (segment : String) : List String :=
  if isDoubleDot segment then goBack done
  else if isDot segment then done
  else segment :: done

/-- The last segment. -/
def arrive (done : List String) (segment : String) : List String :=
  if isDoubleDot segment then "" :: goBack done
  else if isDot segment then "" :: done
  else segment :: done

/-- Segments behind those that are done, without the ones that are only dots. -/
def resolveDots (done : List String) : List String → List String
  | [] => done.reverse
  | [last] => (arrive done last).reverse
  | segment :: rest => resolveDots (enter done segment) rest

/-! ### Building paths -/

/-- Takes an empty segment away from the end, unless it is the only one. -/
def dropEmptyEnd (done : List String) : List String :=
  match done with
  | "" :: last :: rest => last :: rest
  | done => done

/-- What a segment cannot hold as it is. Where a backslash counts as a slash it is one of them. -/
def segmentSet (scheme : String) : EncodeSet := if isSpecial scheme then .specialSegment else .segment

/-- Characters that an address may hold and that do not count. -/
def isIgnored (c : Char) : Bool := c = '\t' || c = '\n' || c = '\r'

/-- A segment as it is written into a path. -/
def writeSegment (scheme : String) (segment : String) : String :=
  String.ofList
    (percentEncode (segmentSet scheme) (segment.toList.filter fun c => !isIgnored c))

/-- Puts one segment behind a path. A path of one empty segment is empty. A segment of dots is left
out. -/
def append (scheme : String) (done : List String) (segment : String) : List String :=
  if segment = "." ∨ segment = ".." then done
  else arrive (if done = [""] then [] else done) (writeSegment scheme segment)

/-- Puts segments behind the path; `none` if the address has no path of segments. -/
def appendAll (u : Url) (more : List String) : Option Url :=
  match u.path with
  | .segments all =>
    let done := more.foldl (append u.scheme) (dropEmptyEnd all.reverse)
    some { u with path := .segments done.reverse }
  | .opaqueText _ => none

end Courier.Url
