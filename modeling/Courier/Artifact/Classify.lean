import Courier.Artifact.Basic
import Courier.Artifact.Error
import Courier.Artifact.FileName

/-! Classifying a file by its name.

    name_version_distribution.arch.deb    Debian packages
    name-version-release.dist.arch.rpm    RPM packages
    anything else                         archives

A marker in the stem says which repository a package is for. A hint takes the place of the
markers and of the extension. -/
namespace Courier.Artifact

/-! ### Repositories -/

/-- What the stems of Debian packages hold, and the repositories that these are for. -/
def debianMarkers : List (String × Repository) := [("_ubuntu", .ubuntu), ("_debian", .debian)]

/-- What the stems of RPM packages hold. The markers begin with a dot, as dist tags do. -/
def rpmMarkers : List (String × Repository) :=
  [(".centos", .centos), (".fc", .fedora), (".opensuse", .opensuse)]

/-- The repository of the first marker whose first occurrence is not at the very start. -/
def findMarker (markers : List (String × Repository)) (stem : List Char) : Option Repository :=
  (markers.find? fun (marker, _) => Text.occursInside marker.toList stem).map (·.2)

/-- The markers that go with an extension; none for archives. -/
def markers? (extension : List Char) : Option (List (String × Repository)) :=
  if extension = ".deb".toList then some debianMarkers
  else if extension = ".rpm".toList then some rpmMarkers
  else none

/-- The repository that a name is for; `none` when nothing tells. -/
def detect (stem extension : List Char) : Option Repository :=
  match markers? extension with
  | none => some .tar
  | some markers => findMarker markers stem

/-! ### Names -/

/-- Takes a stem apart: the architecture off its end, the name off its start, and of what is left
the distribution off the end. The name ends at the first underscore, or where there is none at the
first hyphen. -/
def readDebianName (stem : List Char) : Except Flaw DebianName :=
  match Text.cutLast '.' stem with
  | none | some (_, []) => .error .missingArchitecture
  | some (base, arch) =>
    match (Text.cutFirst '_' base).or (Text.cutFirst '-' base) with
    | none => .error .missingVersion
    | some (name, tail) =>
      match Text.cutLast '_' tail with
      | none => .error .missingDistribution
      | some (version, distribution) => .ok ⟨name, version, distribution, arch⟩

/-- Takes a stem apart from its end: architecture, release with dist tag, version. What is left is
the name, in which hyphens and dots may stand. -/
def readRpmName (stem : List Char) : Except Flaw RpmName :=
  match Text.cutLast '.' stem with
  | none => .error .missingArchitecture
  | some (base, arch) =>
    match Text.cutLast '-' base with
    | none => .error .missingRelease
    | some (front, tail) =>
      match Text.cutLast '-' front with
      | none => .error .missingVersion
      | some (name, version) =>
        match Text.cutFirst '.' tail with
        | none => .error .missingDistTag
        | some (release, dist) => .ok ⟨name, version, release, dist, arch⟩

/-! ### Artifacts -/

/-- The number of a version, or the error that shows the version as it is written. -/
def readVersion (version : String) : Except Error Version :=
  match Version.parse? version with
  | some number => .ok number
  | none => .error (.invalidVersion version)

/-- The artifact of a Debian package. Its distribution has to be known. -/
def ofDebian (file : String) (repository : Repository) (stem : List Char) : Except Error Artifact :=
  match readDebianName stem with
  | .error flaw => .error (.malformedName file flaw)
  | .ok parts =>
    match Distribution.find? (String.ofList parts.distribution) with
    | none => .error (.unknownDistribution file (String.ofList parts.distribution))
    | some distribution =>
      let version := String.ofList parts.version
      (readVersion version).map fun number =>
        { basename := file, repository, name := String.ofList parts.name, version,
          arch := String.ofList parts.arch, number, family := .debian distribution }

/-- The artifact of an RPM package. Its version goes on with the release. -/
def ofRpm (file : String) (repository : Repository) (stem : List Char) : Except Error Artifact :=
  match readRpmName stem with
  | .error flaw => .error (.malformedName file flaw)
  | .ok parts =>
    let version := String.ofList (parts.version ++ '-' :: parts.release)
    (readVersion version).map fun number =>
      { basename := file, repository, name := String.ofList parts.name, version,
        arch := String.ofList parts.arch, number,
        family := .rpm (String.ofList parts.release) (String.ofList parts.dist) }

/-- Classifies the file at a path. A hint is believed: markers are only looked for without one. -/
def classify (path : String) (hint : Option Repository) : Except Error Classification :=
  let name := fileName path
  let file := String.ofList name
  let (stem, extension) := splitExtension name
  match hint.or (detect stem extension) with
  | none => .error (.unknownFamily file (String.ofList extension))
  | some repository =>
    if repository.isDebianFamily then (ofDebian file repository stem).map .package
    else if repository.isRpmFamily then (ofRpm file repository stem).map .package
    else .ok (.archive file)

end Courier.Artifact
