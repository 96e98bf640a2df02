import Courier.FileTree.Basic

/-! Following a path through a tree.

Symbolic links on the way are followed, and one at the end when the caller asks for that; a slash
at the end of a path asks for it too. Only so many links are followed for one path. -/
namespace Courier.FileTree

/-- The links that are followed for one path. -/
def maxLinks : Nat := 40
/-- The longest name of an entry. -/
def maxNameSize : Nat := 255
/-- The longest path that the system takes, without the NUL at its end. -/
def maxPathSize : Nat := 4095

/-- A place in a tree: the names that lead to it, the last one first, and what is there. -/
abbrev Place := List Bytes × Node

def dot : Bytes := [0x2E]
def dotDot : Bytes := [0x2E, 0x2E]

/-- The names, last one first, of the place where a path starts. -/
def start (home : List Bytes) (path : Path) : List Bytes := if path.isAbsolute then [] else home

/-- Follows the parts of a path from a place. -/
def follow (root : Node) (last : Bool) (links : Nat) (place : List Bytes) :
    List Bytes → Except Error Place
  | [] =>
    match root.at? place.reverse with
    | some node => .ok (place, node)
    | none => .error .notFound
  | part :: rest =>
    match root.at? place.reverse with
    | some (.dir entries) =>
      if part = [] ∨ part = dot then follow root last links place rest
      else if part = dotDot then follow root last links place.tail rest
      else if maxNameSize < part.length then .error .nameTooLong
      else match (Node.dir entries).child? part with
        | none => .error .notFound
        | some (.link target) =>
          if rest = [] ∧ last = false then .ok (part :: place, .link target)
          else if _h : links = 0 then .error .tooManyLinks
          else follow root last (links - 1) (start place target) (Path.parts target ++ rest)
        | some _ => follow root last links (part :: place) rest
    | some _ => .error .notDirectory
    | none => .error .notFound
termination_by parts => (links, parts.length)

/-- Where a path leads to. -/
def locate (tree : FileTree) (followLast : Bool) (path : Path) : Except Error Place :=
  if 0 ∈ path then .error .nulInPath
  else if path = [] then .error .notFound
  else if maxPathSize < path.length then .error .nameTooLong
  else follow tree.root followLast maxLinks (start tree.home.reverse path) path.parts

/-- The bytes of a file. -/
def read (tree : FileTree) (path : Path) : Except Error Bytes :=
  match locate tree true path with
  | .error e => .error e
  | .ok (_, .file data) => .ok data
  | .ok _ => .error .isDirectory

/-- The text of a file. -/
def readText (tree : FileTree) (path : Path) : Except Error String :=
  match read tree path with
  | .error e => .error e
  | .ok data =>
    match Text.decode? data with
    | some text => .ok text
    | none => .error .notUtf8

/-! ### Building trees -/

/-- The place of a path of which the last parts may be missing. Links are followed where there are
any. -/
def reach (root : Node) (place : List Bytes) : List Bytes → List Bytes
  | [] => place
  | part :: rest =>
    match follow root true maxLinks place [part] with
    | .ok (next, _) => reach root next rest
    | .error _ => reach root (part :: place) rest

/-- The place of something new behind a place, which links at the end may lead away from. -/
def destination (root : Node) (links : Nat) (place : List Bytes) (path : Path) : List Bytes :=
  let parts := path.parts.filter fun part => part ≠ [] ∧ part ≠ dot
  let parent := reach root (start place path) parts.dropLast
  match links, parts.getLast? with
  | _, none => parent
  | 0, some name => name :: parent
  | links + 1, some name =>
    match (root.at? parent.reverse).bind (·.child? name) with
    | some (.link target) => destination root links parent target
    | _ => name :: parent

/-- Puts a node at a path. Directories that are missing are made, and a directory that is there
already keeps what it holds. A file goes where a link at the path leads. -/
def add (tree : FileTree) (path : Path) (node : Node) : FileTree :=
  let put (links : Nat) : FileTree :=
    let place := destination tree.root links tree.home.reverse path
    { tree with root := node.put tree.root place.reverse }
  match node, locate tree true path with
  | .dir [], .ok (_, .dir _) => tree
  | .file _, _ => put maxLinks
  | _, _ => put 0

end Courier.FileTree
