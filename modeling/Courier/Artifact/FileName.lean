import Courier.Text.Blank
import Courier.Text.Cut

/-! The name of a file, taken from a path and taken apart.

Slashes and dot components at the end of a path do not count. A path that ends in `..`, or has no
component at all, names no file and stands for itself. -/
namespace Courier.Artifact

/-- The last component of a path, if it is a name. -/
def lastName (path : List Char) : Option (List Char) :=
  match (Text.cutAll '/' path).reverse.dropWhile fun part => part = [] ∨ part = ['.'] with
  | [] => none
  | last :: _ => if last = ['.', '.'] then none else some last

/-- The name of the file at a path, without blanks around the path. A path that names no file stands
for itself. -/
def fileName (path : String) : List Char :=
  let trimmed := Text.trim path.toList
  (lastName trimmed).getD trimmed

/-- Stem and extension; the extension starts at the last dot, unless that is in front. -/
def splitExtension (name : List Char) : List Char × List Char :=
  match Text.cutLast '.' name with
  | some (c :: stem, extension) => (c :: stem, '.' :: extension)
  | _ => (name, [])

/-! ### The parts of a package name -/

/-- The stem `name_version_distribution.arch`. -/
structure DebianName where
  name : List Char
  version : List Char
  distribution : List Char
  arch : List Char
  deriving DecidableEq, Repr

/-- The stem `name-version-release.dist.arch`. -/
structure RpmName where
  name : List Char
  version : List Char
  release : List Char
  dist : List Char
  arch : List Char
  deriving DecidableEq, Repr

end Courier.Artifact
