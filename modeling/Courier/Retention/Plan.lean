import Courier.Listing
import Courier.Retention.Key

/-! Which files to keep.

Files of one package, distribution and architecture are a group. The newest files of every group
are kept, newest first, and the others are to be deleted. Files without a key are in no group and
are never deleted. -/
namespace Courier.Retention

/-- What becomes of the files of a listing. -/
structure Plan where
  keep : List RemoteFile
  delete : List RemoteFile
  /-- Files without a key. -/
  skipped : List RemoteFile
  deriving DecidableEq, Repr

/-- A file with its key. -/
abbrev Keyed := Key × RemoteFile

/-- The key of a stored file, by its name. -/
def keyOf? (f : RemoteFile) : Option Key := Key.ofFile? f.fileName

/-- The files that have a key, in the order of the listing. -/
def keyed (files : List RemoteFile) : List Keyed :=
  files.filterMap fun f => (keyOf? f).map (·, f)

/-- The groups in order, each of them once. -/
def groups (files : List Keyed) : List String :=
  (files.map (·.1.group)).eraseDups.mergeSort fun a b => a ≤ b

/-- Newer versions first; of files with one version key the greater path. -/
def newerFirst (a b : Keyed) : Bool :=
  b.1.version < a.1.version || (b.1.version == a.1.version && b.2.path ≤ a.2.path)

/-- The members of a group, newest first. -/
def members (files : List Keyed) (group : String) : List RemoteFile :=
  ((files.filter fun f => f.1.group == group).mergeSort newerFirst).map (·.2)

/-- Keeps the newest files of every group, one group behind the other. -/
def plan (files : List RemoteFile) (keep : Nat) : Plan :=
  let all := keyed files
  { keep := (groups all).flatMap fun group => (members all group).take keep
    delete := (groups all).flatMap fun group => (members all group).drop keep
    skipped := files.filter fun f => (keyOf? f).isNone }

/-- Removes files one after the other, until one cannot be removed. -/
def removeAll {m : Type → Type} [Monad m] {ε : Type} (remove : String → m (Except ε Unit)) :
    List RemoteFile → m (Except ε Unit)
  | [] => pure (.ok ())
  | f :: rest => do
    match ← remove f.path with
    | .ok () => removeAll remove rest
    | .error e => pure (.error e)

/-- Removes all files to be deleted; the answer is how many these are. -/
def Plan.apply {m : Type → Type} [Monad m] {ε : Type} (p : Plan)
    (remove : String → m (Except ε Unit)) : m (Except ε Nat) := do
  match ← removeAll remove p.delete with
  | .ok () => pure (.ok p.delete.length)
  | .error e => pure (.error e)

end Courier.Retention
