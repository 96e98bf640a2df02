import Courier.Json.Number
import Courier.Json.Tree

/-! JSON values, and how they are written.

An object has its keys in order and each of them once; of several members with one key the last
one counts. -/
namespace Courier

/-- A JSON value. The keys of an object are in order, and none is there twice. -/
inductive Json where
  | null
  | bool (value : Bool)
  | number (value : Json.Number)
  | string (text : String)
  | array (items : List Json)
  | object (members : List (String × Json))

namespace Json

/-- How deep arrays and objects may be nested. -/
def maxDepth : Nat := 127

/-- Puts a member into its place, instead of one with the same key. -/
def insertMember (key : String) (value : Json) : List (String × Json) → List (String × Json)
  | [] => [(key, value)]
  | (k, v) :: rest =>
    if key < k then (key, value) :: (k, v) :: rest
    else if key = k then (key, value) :: rest
    else (k, v) :: insertMember key value rest

mutual

/-- The value of a tree that is nested at most `depth` deep. -/
def ofTree? (depth : Nat) : Tree → Option Json
  | .null => some .null
  | .bool value => some (.bool value)
  | .number numeral => (Number.ofNumeral? numeral).map .number
  | .string raw => raw.text?.map .string
  | .array items => if depth = 0 then none else (ofItems? (depth - 1) items).map .array
  | .object members =>
    if depth = 0 then none else (ofMembers? (depth - 1) [] members).map .object

/-- The values of items, if each of them has one. -/
def ofItems? (depth : Nat) : List Tree → Option (List Json)
  | [] => some []
  | item :: rest =>
    match ofTree? depth item, ofItems? depth rest with
    | some value, some values => some (value :: values)
    | _, _ => none

/-- Adds members to those that are already there. -/
def ofMembers? (depth : Nat) (done : List (String × Json)) :
    List (RawString × Tree) → Option (List (String × Json))
  | [] => some done
  | (key, item) :: rest =>
    match key.text?, ofTree? depth item with
    | some key, some value => ofMembers? depth (insertMember key value done) rest
    | _, _ => none

end

/-- Reads bytes as one JSON value with nothing but blanks around it. -/
def parse? (bs : Bytes) : Option Json := (Tree.parse? bs).bind (ofTree? maxDepth)

/-! ### Writing -/

/-- How a character stands in a string: as it is, unless it would end the string or is a control
character. -/
def escape (c : Char) : List Char :=
  if c = '"' then ['\\', '"']
  else if c = '\\' then ['\\', '\\']
  else if c = '\x08' then ['\\', 'b']
  else if c = '\x0c' then ['\\', 'f']
  else if c = '\n' then ['\\', 'n']
  else if c = '\r' then ['\\', 'r']
  else if c = '\t' then ['\\', 't']
  else if c.toNat < 0x20 then ['\\', 'u', '0', '0'] ++ Text.hexByte c.toNat.toUInt8
  else [c]

/-- A text as a JSON string. -/
def quote (text : String) : String :=
  "\"" ++ String.ofList (text.toList.flatMap escape) ++ "\""

/-- How the parts of a value are set apart: what stands before each item of a container that is
`depth` deep, before the end of the container, and after a key. -/
structure Layout where
  item : Nat → String
  close : Nat → String
  key : String

/-- On one line, without a blank. -/
def compact : Layout := ⟨fun _ => "", fun _ => "", ":"⟩

/-- One item a line, indented by two blanks a level. -/
def indented : Layout :=
  let line (depth : Nat) := "\n" ++ String.ofList (List.replicate (2 * depth) ' ')
  ⟨fun depth => line (depth + 1), line, ": "⟩

/-- A container with its brackets; without items nothing stands between these. -/
def Layout.enclose (l : Layout) (depth : Nat) (left right : String) (items : List String) : String :=
  if items = [] then left ++ right
  else left ++ String.intercalate "," (items.map (l.item depth ++ ·)) ++ l.close depth ++ right

mutual

/-- Writes a value that stands so many levels deep. -/
def write (l : Layout) (depth : Nat) : Json → String
  | .null => "null"
  | .bool value => if value then "true" else "false"
  | .number value => value.text
  | .string text => quote text
  | .array items => l.enclose depth "[" "]" (writeItems l (depth + 1) items)
  | .object members => l.enclose depth "\x7b" "\x7d" (writeMembers l (depth + 1) members)

def writeItems (l : Layout) (depth : Nat) : List Json → List String
  | [] => []
  | item :: rest => item.write l depth :: writeItems l depth rest

def writeMembers (l : Layout) (depth : Nat) : List (String × Json) → List String
  | [] => []
  | (key, value) :: rest =>
    (quote key ++ l.key ++ value.write l depth) :: writeMembers l depth rest

end

/-- A value on one line. -/
def text (j : Json) : String := j.write compact 0

/-- A value on lines of its own, for people to read. -/
def pretty (j : Json) : String := j.write indented 0

end Json
end Courier
