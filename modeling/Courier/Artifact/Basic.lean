import Courier.Artifact.Distribution
import Courier.Version

/-! Artifacts: package files, with all that their names say. -/
namespace Courier

/-- What depends on the kind of packaging. -/
inductive Artifact.Family where
  | debian (distribution : Distribution)
  | rpm (release dist : String)
  deriving DecidableEq, Repr

/-- A package file: what its name says of the package, and the repository that it is for. -/
structure Artifact where
  basename : String
  repository : Repository
  name : String
  /-- The version as it is written; with the release for RPM. -/
  version : String
  arch : String
  number : Version
  family : Artifact.Family
  deriving DecidableEq, Repr

/-- A file is a package or an archive, which is not published. -/
inductive Classification where
  | package (artifact : Artifact)
  | archive (basename : String)
  deriving DecidableEq, Repr

/-- The name of the file, whatever else it is. -/
def Classification.basename : Classification → String
  | .package artifact => artifact.basename
  | .archive basename => basename

namespace Artifact

/-- The mark of a build from sources with changes that are not committed. -/
def dirtyMark : List Char := "-dirty".toList

/-- Builds marked as dirty, in any case of the letters, are uploaded but not published. -/
def isPublishable (basename : String) : Bool :=
  (Text.indexOf dirtyMark (basename.toList.map Char.toLower)).isNone

/-- The directory of the artifact below its version. -/
def directory (a : Artifact) (package : String) : String :=
  let series := a.number.directory a.repository
  match a.family with
  | .debian _ => s!"pool/{series}/{package}"
  | .rpm _ dist => s!"linux/{series}/{dist}/{a.arch}"

/-- Parameters behind the name of an upload. The component is that of the version, unless one is
given. -/
def parameters (a : Artifact) (component : Option String) : String :=
  match a.family with
  | .debian distribution =>
    let component := component.getD a.number.component
    s!";deb_component={component};deb_distribution={distribution.codename};deb_architecture={a.arch}"
  | .rpm _ _ => ""

/-- Whether the file of a package is published, which its name alone decides. -/
def isPublished (a : Artifact) : Bool := isPublishable a.basename

/-- Artifacts of one group are the versions of one package. -/
def group (a : Artifact) : String :=
  match a.family with
  | .debian distribution => s!"{a.name}_{distribution.name}.{a.arch}"
  | .rpm _ dist => s!"{a.name}.{dist}.{a.arch}"

end Artifact
end Courier
