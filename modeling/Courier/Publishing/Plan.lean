import Courier.Artifact.Classify
import Courier.FileTree.Basic
import Courier.Settings.Basic

/-! Which files are uploaded, and where they go. -/
namespace Courier.Publishing

/-- A file with its repository, its version, and its place below the address of the server, the
parameters included. -/
structure Upload where
  file : Path
  repository : String
  version : String
  target : String
  deriving DecidableEq, Repr

/-- What becomes of one file. -/
inductive Fate where
  | upload (upload : Upload)
  | archive (file : Path)
  | rejected (file : Path) (error : Artifact.Error)
  deriving DecidableEq, Repr

/-- What becomes of files, sorted by their fates and within these in order. -/
structure UploadPlan where
  uploads : List Upload
  archives : List Path
  rejected : List (Path × Artifact.Error)
  deriving DecidableEq, Repr

/-- Whether an upload is published at once. -/
def publishFlag (a : Artifact) : String := if a.isPublished then "1" else "0"

/-- The name that an artifact is stored under, with its parameters. -/
def storedName (settings : Settings) (a : Artifact) : String :=
  s!"{a.basename}{a.parameters settings.component};publish={publishFlag a}"

/-- The upload of a package. Its place is put together from texts as they are, without escapes. -/
def uploadOf (settings : Settings) (file : Path) (a : Artifact) : Upload :=
  let repository := settings.repositoryFor a.repository
  let directory := a.directory settings.package
  { file, repository, version := a.version
    target := "/content/" ++ settings.owner ++ "/" ++ repository ++ "/" ++ settings.package ++ "/" ++
      a.version ++ "/" ++ directory ++ "/" ++ storedName settings a }

/-- What becomes of a file, which its path and the hint decide. -/
def fate (settings : Settings) (hint : Option Repository) (file : Path) : Fate :=
  match Artifact.classify file.text hint with
  | .ok (.package a) => .upload (uploadOf settings file a)
  | .ok (.archive _) => .archive file
  | .error e => .rejected file e

/-- The plan for files. Each is looked at by itself. -/
def planUploads (settings : Settings) (hint : Option Repository) (files : List Path) : UploadPlan :=
  let fates := files.map (fate settings hint)
  { uploads := fates.filterMap fun
      | .upload u => some u
      | _ => none
    archives := fates.filterMap fun
      | .archive file => some file
      | _ => none
    rejected := fates.filterMap fun
      | .rejected file e => some (file, e)
      | _ => none }

end Courier.Publishing
