import Courier.Repository
import Courier.Text.Cut
import Courier.Text.Numeral

/-! Versions `X.Y[.rest][-build]`, and the series that a version belongs to.

An even minor version from major version 4 on is a release; every other version is for testing. A
tilde inside the build marks it as stable. The series decides the directory of a package and its
component. -/
namespace Courier

/-- A version, taken apart. What is behind the minor number is kept as it is written. -/
structure Version where
  major : Nat
  minor : Nat
  /-- What follows the minor number, without the dot before it. -/
  rest : String
  /-- What follows the first hyphen. -/
  build : Option String
  deriving DecidableEq, Repr

/-- A series: a release line by its two numbers, or all that is for testing. -/
inductive Series where
  | release (major minor : Nat)
  | testing
  deriving DecidableEq, Repr

namespace Version

/-- The largest major or minor number. -/
def maxNumber : Nat := 4294967295

/-! ### Reading -/

/-- Reads one of the two numbers. Blanks around it do not count. -/
def readNumber (cs : List Char) : Option Nat := Text.readUnsigned maxNumber (Text.trim cs)

/-- The numbers and the rest: at most two dots separate, a third one is part of the rest. -/
def readNumbers (cs : List Char) : Option (Nat × Nat × List Char) :=
  match Text.cutFirst '.' cs with
  | none => none
  | some (major, tail) =>
    let (minor, rest) := (Text.cutFirst '.' tail).getD (tail, [])
    match readNumber major, readNumber minor with
    | some major, some minor => some (major, minor, rest)
    | _, _ => none

/-- Cuts the build off. A hyphen at the very start does not count, nor does any after it. -/
def cutBuild (cs : List Char) : List Char × Option (List Char) :=
  match Text.cutFirst '-' cs with
  | some (b :: base, build) => (b :: base, some build)
  | _ => (cs, none)

/-- Reads a version. Without two numbers there is none. -/
def parse? (text : String) : Option Version :=
  let (base, build) := cutBuild text.toList
  (readNumbers base).map fun (major, minor, rest) =>
    ⟨major, minor, String.ofList rest, build.map String.ofList⟩

/-! ### Writing -/

/-- The version without its build. -/
def dotted (v : Version) : String :=
  toString v.major ++ "." ++ toString v.minor ++ (if v.rest = "" then "" else "." ++ v.rest)

/-- The version as it is written. -/
def display (v : Version) : String :=
  v.dotted ++ match v.build with
    | some build => "-" ++ build
    | none => ""

/-! ### Series -/

/-- The series, which the two numbers decide. -/
def series (v : Version) : Series :=
  if 4 ≤ v.major ∧ v.minor % 2 = 0 then .release v.major v.minor else .testing

/-- Whether the build is marked as stable. A tilde at its very start is no mark. -/
def isStable (v : Version) : Bool :=
  match v.build with
  | some build => Text.occursInside ['~'] build.toList
  | none => false

/-- The directory of the series in a repository. -/
def directory (v : Version) (repository : Repository) : String :=
  match v.series with
  | .release major minor =>
    s!"{major}.{minor}" ++ (if repository.marksReleases && !v.isStable then "-release" else "")
  | .testing => "t"

/-- The component of packages with this version. -/
def component (v : Version) : String :=
  match v.series with
  | .release major minor => (if v.isStable then "stable-" else "release-") ++ s!"{major}.{minor}"
  | .testing => "unstable"

end Version
end Courier
