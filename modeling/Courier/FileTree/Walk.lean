import Courier.FileTree.Lookup

/-! All files below a directory.

Entries are taken in the order of their names, byte by byte. Symbolic links are not files, and what
they lead to is not below the directory; only the directory itself may be given as a link. A listing
breaks off at the first directory whose path is too long to be opened. -/
namespace Courier.FileTree

/-- Where a listing breaks off, and why. -/
abbrev Break := Path × Error

/-- Entries are compared by their names only. -/
def byName (a b : Bytes × Except Break (List Path)) : Bool := a.1 ≤ b.1

mutual

/-- The files at and below a node that has a path. -/
def filesBelow (path : Path) : Node → Except Break (List Path)
  | .file _ => .ok [path]
  | .link _ => .ok []
  | .dir entries =>
    if maxPathSize < path.length then .error (path, .nameTooLong)
    else (((entryFiles path entries).mergeSort byName).mapM Prod.snd).map List.flatten

/-- The files of each entry of a directory, with the name of the entry. -/
def entryFiles (path : Path) : List (Bytes × Node) → List (Bytes × Except Break (List Path))
  | [] => []
  | (name, node) :: rest => (name, filesBelow (path.join name) node) :: entryFiles path rest

end

/-- All files below a directory. What the path leads to may be a link to the directory, but a link
to a file leads to none. -/
def files (tree : FileTree) (path : Path) : Except Break (List Path) :=
  match locate tree false path with
  | .error e => .error (path, e)
  | .ok (_, .link _) =>
    match locate tree true path with
    | .error e => .error (path, e)
    | .ok (_, .dir entries) => filesBelow path (.dir entries)
    | .ok _ => .ok []
  | .ok (_, node) => filesBelow path node

end Courier.FileTree
