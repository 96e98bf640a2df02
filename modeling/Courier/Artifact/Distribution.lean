/-! The Debian distributions that packages are built for, with the codenames of their releases. -/
namespace Courier

/-- A release of Ubuntu or Debian, as file names write it, with the codename that the server sorts
it under. -/
structure Distribution where
  name : String
  codename : String
  deriving DecidableEq, Repr

namespace Distribution

/-- All distributions that packages are built for. A package for another one is refused. -/
def known : List Distribution :=
  [⟨"ubuntu20.04", "focal"⟩, ⟨"ubuntu18.04", "bionic"⟩, ⟨"ubuntu16.04", "xenial"⟩,
   ⟨"debian10", "buster"⟩, ⟨"debian9", "stretch"⟩]

/-- The distribution of this name, written just so. -/
def find? (name : String) : Option Distribution := known.find? fun d => d.name == name

end Distribution
end Courier
