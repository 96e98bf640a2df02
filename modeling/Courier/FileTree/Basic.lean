import Courier.Text.Cut
import Courier.Text.Utf8

/-! Trees of files, directories and symbolic links.

A path is a sequence of bytes, as file names need not be text; `Path.text` shows one. A relative
path starts at the working directory of its tree. -/
namespace Courier

/-- A path as the system takes it, which need not be text. -/
abbrev Path := Bytes

namespace Path

/-- The byte that separates the parts of a path. -/
def slash : UInt8 := 0x2F

/-- The parts between slashes, the empty ones included. -/
def parts (p : Path) : List Bytes := Text.cutAll slash p

/-- Whether a path starts at the root, and not at the working directory. -/
def isAbsolute (p : Path) : Bool := p.head? = some slash

/-- One more part at the end, behind exactly one slash if the path did not end in one. -/
def join (p : Path) (name : Bytes) : Path :=
  if p = [] ∨ p.getLast? = some slash then p ++ name else p ++ slash :: name

/-- A path as it is shown. Bytes that are not text are shown as replacement characters. -/
def text (p : Path) : String := Text.lossy p

end Path

namespace FileTree

/-- A file, a link or a directory. The entries of a directory may stand in any order. -/
inductive Node where
  | file (data : Bytes)
  | link (target : Path)
  | dir (entries : List (Bytes × Node))

/-- Why a path leads to nothing that can be read. -/
inductive Error where
  | notFound
  | notDirectory
  | isDirectory
  | nameTooLong
  | tooManyLinks
  | nulInPath
  | notUtf8
  deriving DecidableEq, Repr

/-- The error as the system words it. -/
def Error.message : Error → String
  | .notFound => "No such file or directory (os error 2)"
  | .notDirectory => "Not a directory (os error 20)"
  | .isDirectory => "Is a directory (os error 21)"
  | .nameTooLong => "File name too long (os error 36)"
  | .tooManyLinks => "Too many levels of symbolic links (os error 40)"
  | .nulInPath => "file name contained an unexpected NUL byte"
  | .notUtf8 => "stream did not contain valid UTF-8"

end FileTree

/-- All that can be reached from the root, and where relative paths start. -/
structure FileTree where
  root : FileTree.Node
  /-- The names that lead to the working directory. -/
  home : List Bytes

namespace FileTree

/-- The entry of a directory with this name. -/
def Node.child? (name : Bytes) : Node → Option Node
  | .dir entries => (entries.find? (·.1 == name)).map (·.2)
  | _ => none

/-- What names lead to, one below the other. Links are not followed. -/
def Node.at? (node : Node) : List Bytes → Option Node
  | [] => some node
  | name :: rest => (node.child? name).bind fun child => child.at? rest

/-! ### Building trees -/

/-- Puts an entry into its place, instead of one with the same name. -/
def setEntry (name : Bytes) (node : Node) : List (Bytes × Node) → List (Bytes × Node)
  | [] => [(name, node)]
  | (n, old) :: rest =>
    if n = name then (name, node) :: rest else (n, old) :: setEntry name node rest

/-- Puts a node at the end of a chain of names; a directory is made wherever there is none. -/
def Node.put (node old : Node) : List Bytes → Node
  | [] => node
  | name :: rest =>
    let entries := match old with
      | .dir entries => entries
      | _ => []
    let child := (old.child? name).getD (.dir [])
    .dir (setEntry name (node.put child rest) entries)

/-- A tree with nothing but its working directory. -/
def empty (home : List Bytes) : FileTree := ⟨Node.put (.dir []) (.dir []) home, home⟩

end FileTree
end Courier
