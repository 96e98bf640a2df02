/-! Why a file name is not that of a package. -/
namespace Courier.Artifact

/-- The part of a name that is missing. -/
inductive Flaw where
  | missingArchitecture
  | missingVersion
  | missingDistribution
  | missingRelease
  | missingDistTag
  deriving DecidableEq, Repr

/-- What is missing, as it is told to the user. -/
def Flaw.text : Flaw → String
  | .missingArchitecture => "missing architecture"
  | .missingVersion => "missing version"
  | .missingDistribution => "missing distribution"
  | .missingRelease => "missing release"
  | .missingDistTag => "missing dist tag"

/-- Why a file cannot be classified. Each error carries the text that it complains of. -/
inductive Error where
  /-- Nothing in the name says which distribution the package is for. -/
  | unknownFamily (file extension : String)
  | unknownDistribution (file distribution : String)
  | malformedName (file : String) (flaw : Flaw)
  | invalidVersion (version : String)
  deriving DecidableEq, Repr

/-- The error in one line, as it is printed. -/
def Error.message : Error → String
  | .unknownFamily file extension =>
    s!"{file}: cannot determine repository for '{extension}' package"
  | .unknownDistribution file distribution => s!"{file}: unknown distribution '{distribution}'"
  | .malformedName file flaw => s!"{file}: malformed package name ({flaw.text})"
  | .invalidVersion version => s!"invalid version '{version}'"

end Courier.Artifact
