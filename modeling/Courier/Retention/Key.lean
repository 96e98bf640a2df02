import Courier.Artifact.Classify

/-! What retention sees of a file: its group, and a text that orders the versions in it.

In the key of a version each run of digits has zeros in front up to ten places, `~` is written `!`
and `#` stands at the end. As `!` comes before `#` and `#` before all that versions are made of,
`1.0~rc1` is before `1.0`, and `1.9` before `1.10`. -/
namespace Courier.Retention

/-- Files of one group are compared by the texts of their versions. -/
structure Key where
  group : String
  version : String
  deriving DecidableEq, Repr

/-- How wide a number is at least. -/
def numberWidth : Nat := 10

/-- What is written for a tilde, to come before all else. -/
def tilde : Char := '!'

/-- What ends a version, to come before all that could go on. -/
def endMark : Char := '#'

/-- Digits with zeros in front, unless there are enough of them. -/
def padDigits (digits : List Char) : List Char :=
  List.replicate (numberWidth - digits.length) '0' ++ digits

/-- A run of digits that has ended. -/
def closeRun (run : List Char) : List Char := if run = [] then [] else padDigits run

/-- The key of a version, inside a run of digits that is given in reverse order. -/
def versionKeyFrom (run : List Char) : List Char → List Char
  | [] => closeRun run.reverse ++ [endMark]
  | c :: cs =>
    if c.isDigit then versionKeyFrom (c :: run) cs
    else closeRun run.reverse ++ (if c = '~' then tilde else c) :: versionKeyFrom [] cs

/-- The text that stands for a version in comparisons. -/
def versionKey (version : String) : String := String.ofList (versionKeyFrom [] version.toList)

namespace Key

/-- The key of a package. -/
def ofArtifact (a : Artifact) : Key := ⟨a.group, versionKey a.version⟩

/-- The key of a package file. Archives and names that cannot be read have none. -/
def ofFile? (name : String) : Option Key :=
  match Artifact.classify name none with
  | .ok (.package artifact) => some (ofArtifact artifact)
  | _ => none

/-- Group and version as one text. -/
def text (k : Key) : String := k.group ++ "*" ++ k.version

end Key
end Courier.Retention
