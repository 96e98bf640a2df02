import Courier.FileTree.Walk
import Courier.Publishing.Client
import Courier.Publishing.Plan

/-! Publishing the packages below a directory.

Before the first file of a version is uploaded to a repository the version is created there. The
first request that is not answered as it should be ends all. -/
namespace Courier.Publishing

open Http (Session)

/-- A client and what it publishes. -/
structure Publisher where
  client : Client
  settings : Settings

/-- What publishing did. -/
structure Summary where
  /-- Repositories and versions in the order of their creation. -/
  versions : List (String × String) := []
  uploaded : List Path := []
  conflicts : List Path := []
  skipped : List Path := []
  deriving DecidableEq, Repr

/-- All files below a directory. -/
def collect (tree : FileTree) (directory : Path) : Except Error (List Path) :=
  match tree.files directory with
  | .ok files => .ok files
  | .error (path, e) => .error (.unlisted path e)

/-- The data of a file that is to be uploaded. -/
def readFile (tree : FileTree) (file : Path) : Except Error Bytes :=
  match tree.read file with
  | .ok data => .ok data
  | .error e => .error (.unreadable file e)

namespace Publisher

/-- A publisher with these settings, if they have credentials. -/
def ofSettings (settings : Settings) : Except Error Publisher :=
  (Client.ofSettings settings).map fun client => ⟨client, settings⟩

/-- Uploads one file to a given place. -/
def upload (p : Publisher) (tree : FileTree) (target : String) (file : Path) :
    Session (Except Error UploadStatus) :=
  match readFile tree file with
  | .error e => .done (.error e)
  | .ok data =>
    (p.client.uploadFile target data).andThen fun status =>
      let line := match status with
        | .uploaded => Report.info s!"File {file.text}: uploaded"
        | .conflict => Report.warning s!"HTTP WARNING \"{p.client.url target}\" 409 Conflict"
      .print line (.done (.ok status))

/-- Creates a version, unless that was done before. -/
def ensureVersion (p : Publisher) (s : Summary) (u : Upload) : Session (Except Error Summary) :=
  if (u.repository, u.version) ∈ s.versions then .done (.ok s)
  else
    (p.client.createVersion u.repository p.settings.package u.version p.settings.description).andThen
      fun status =>
        let line := match status with
          | .created => Report.info s!"Version {u.repository}/{u.version} created"
          | .alreadyExists => Report.info s!"Version {u.repository}/{u.version} already exists"
        .print line (.done (.ok { s with versions := s.versions ++ [(u.repository, u.version)] }))

/-- Uploads a file and notes what came of it. -/
def putFile (p : Publisher) (tree : FileTree) (s : Summary) (u : Upload) :
    Session (Except Error Summary) :=
  match readFile tree u.file with
  | .error e => .done (.error e)
  | .ok data =>
    (p.client.uploadFile u.target data).andThen fun
      | .uploaded =>
        .print (Report.info s!"File {u.file.text}: uploaded")
          (.done (.ok { s with uploaded := s.uploaded ++ [u.file] }))
      | .conflict =>
        .print (Report.warning s!"File {u.file.text} ({u.target}): already exists")
          (.done (.ok { s with conflicts := s.conflicts ++ [u.file] }))

/-- Uploads files one after the other. Each version is created once, in front of its first file. -/
def putAll (p : Publisher) (tree : FileTree) (s : Summary) :
    List Upload → Session (Except Error Summary)
  | [] => .done (.ok s)
  | u :: rest =>
    (p.ensureVersion s u).andThen fun s =>
      (p.putFile tree s u).andThen fun s => putAll p tree s rest

/-- A file that is no package is only warned about. -/
def rejection (rejected : Path × Artifact.Error) : Output :=
  Report.warning s!"skipping {rejected.1.text}: {rejected.2.message}"

/-- Publishes what is planned. -/
def publishPlan (p : Publisher) (tree : FileTree) (directory : Path) (plan : UploadPlan) :
    Session (Except Error Summary) :=
  (Session.sayAll (plan.rejected.map rejection)).bind fun () =>
    if plan.uploads = [] then .done (.error (.nothingToPublish directory))
    else p.putAll tree { skipped := plan.rejected.map (·.1) ++ plan.archives } plan.uploads

/-- Publishes the packages below a directory. -/
def publish (p : Publisher) (tree : FileTree) (directory : Path) (hint : Option Repository) :
    Session (Except Error Summary) :=
  match collect tree directory with
  | .error e => .done (.error e)
  | .ok files => p.publishPlan tree directory (planUploads p.settings hint files)

end Publisher
end Courier.Publishing
