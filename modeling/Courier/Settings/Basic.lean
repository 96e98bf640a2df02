import Courier.FileTree.Basic
import Courier.Repository

/-! What a publisher has to know. -/
namespace Courier

/-- All settings, with what counts where nothing else is said. -/
structure Settings where
  /-- The address of the server. -/
  apiUrl : String := "https://bintray.com/api/v1"
  user : Option String := none
  pass : Option String := none
  /-- Who owns the repositories; the user, unless it is given. -/
  org : Option String := none
  /-- A repository that takes the place of the one a package is for. -/
  repository : Option String := none
  /-- A component that takes the place of the one of a version. -/
  component : Option String := none
  package : String := "libteonet"
  /-- The description of new versions. -/
  description : String := "Teonet network library"
  /-- How many files of a group pruning keeps. -/
  keep : Nat := 5
  deriving DecidableEq, Repr

namespace Settings

/-- Why there are no settings to work with. -/
inductive Error where
  | unreadable (path : String) (error : FileTree.Error)
  | malformed (path : String)
  | missingCredentials
  deriving DecidableEq, Repr

def Error.message : Error → String
  | .unreadable path error => s!"failed to read config file '{path}': {error.message}"
  | .malformed path => s!"failed to parse config file '{path}':"
  | .missingCredentials => "No credentials: BINTRAY_USER and BINTRAY_PASS must be set"

/-- User and password; an empty one is as good as none. -/
def credentials (s : Settings) : Except Error (String × String) :=
  match s.user, s.pass with
  | some user, some pass =>
    if user = "" ∨ pass = "" then .error .missingCredentials else .ok (user, pass)
  | _, _ => .error .missingCredentials

/-- Who owns the repositories. -/
def owner (s : Settings) : String := (s.org.or s.user).getD ""

/-- The name of the repository that takes packages for this one. -/
def repositoryFor (s : Settings) (r : Repository) : String := s.repository.getD r.name

end Settings
end Courier
