import Courier.Text.Blank

/-! The repositories that packages are published to, one for each distribution that is served and
one for archives. -/
namespace Courier

/-- A repository, named for the distribution that it serves. -/
inductive Repository where
  | ubuntu
  | debian
  | centos
  | fedora
  | rhel
  | opensuse
  | tar
  deriving DecidableEq, Repr

namespace Repository

/-- All repositories, in the order in which names are compared with theirs. -/
def all : List Repository := [.ubuntu, .debian, .centos, .fedora, .rhel, .opensuse, .tar]

/-- The name of the repository on the server. -/
def name : Repository → String
  | .ubuntu => "ubuntu"
  | .debian => "debian"
  | .centos => "centos"
  | .fedora => "fedora"
  | .rhel => "rhel"
  | .opensuse => "opensuse"
  | .tar => "tar"

/-- Whether it takes Debian packages. -/
def isDebianFamily : Repository → Bool
  | .ubuntu | .debian => true
  | _ => false

/-- Whether it takes RPM packages. -/
def isRpmFamily : Repository → Bool
  | .centos | .fedora | .rhel | .opensuse => true
  | _ => false

/-- Whether directories of these repositories tell releases from stable builds. -/
def marksReleases : Repository → Bool
  | .centos | .fedora | .rhel => true
  | _ => false

/-- The repository of a name in any case of the ASCII letters, with blanks around it. -/
def ofText? (text : String) : Option Repository :=
  let word := (Text.trim text.toList).map Char.toLower
  all.find? fun r => r.name.toList == word

/-- What is said to a name that no repository has. -/
def unknownMessage (text : String) : String := s!"unknown repository kind '{text}'"

theorem mem_all (r : Repository) : r ∈ all := by cases r <;> decide

theorem ofText?_name (r : Repository) : ofText? r.name = some r := by cases r <;> decide

end Repository
end Courier
