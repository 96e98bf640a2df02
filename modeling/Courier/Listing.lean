import Courier.Json.Basic
import Courier.Text.Cut
import Courier.Time.Timestamp

/-! Listings: what a server tells about the files that it stores.

A listing is a JSON array of records. A record is an object, of which unknown members do not count
and no known member may come twice, or an array of the fields in order. A field that is missing
has a default. -/
namespace Courier

/-- What a server tells about one file. All that it leaves out has a default, so that a file may
come without a name or without a path. -/
structure RemoteFile where
  name : String := ""
  path : String := ""
  repository : String := ""
  package : String := ""
  version : String := ""
  owner : String := ""
  created : Option Time.Timestamp := none
  size : Nat := 0
  sha1 : Option String := none
  deriving DecidableEq, Repr

/-- The part of a path behind its last slash. -/
def RemoteFile.lastPart (path : String) : String :=
  match Text.cutLast '/' path.toList with
  | some (_, last) => String.ofList last
  | none => path

/-- The name of the file; a listing may leave it to the path. -/
def RemoteFile.fileName (f : RemoteFile) : String :=
  if f.name = "" then lastPart f.path else f.name

namespace Listing

open Json (Tree RawString)

/-- The fields of a record that are known. -/
inductive Field where
  | name
  | path
  | repository
  | package
  | version
  | owner
  | created
  | size
  | sha1
  deriving DecidableEq, Repr

/-- The fields in the order of a record that is an array, with their keys. -/
def fields : List (Field × String) :=
  [(.name, "name"), (.path, "path"), (.repository, "repo"), (.package, "package"),
   (.version, "version"), (.owner, "owner"), (.created, "created"), (.size, "size"),
   (.sha1, "sha1")]

/-- The field that a member stands for; an unknown member stands for none. -/
def Field.ofKey? (key : String) : Option Field := (fields.find? (·.2 == key)).map (·.1)

/-- The text of a value that has to be a string. -/
def text? : Tree → Option String
  | .string raw => raw.text?
  | _ => none

/-- The number of a value that has to be a size. -/
def size? : Tree → Option Nat
  | .number numeral => Json.Number.unsigned? numeral
  | _ => none

/-- A value that may be left open with `null`. -/
def nullable {α : Type} (read : Tree → Option α) : Tree → Option (Option α)
  | .null => some none
  | tree => (read tree).map some

/-- Sets one field, if the value is of its kind. -/
def setField (f : RemoteFile) (field : Field) (value : Tree) : Option RemoteFile :=
  match field with
  | .name => (text? value).map fun name => { f with name }
  | .path => (text? value).map fun path => { f with path }
  | .repository => (text? value).map fun repository => { f with repository }
  | .package => (text? value).map fun package => { f with package }
  | .version => (text? value).map fun version => { f with version }
  | .owner => (text? value).map fun owner => { f with owner }
  | .created =>
    (nullable (fun tree => (text? tree).bind Time.Timestamp.parse?) value).map fun created =>
      { f with created }
  | .size => (size? value).map fun size => { f with size }
  | .sha1 => (nullable text? value).map fun sha1 => { f with sha1 }

/-- Sets the fields that members name, none of those in `seen`. -/
def setMembers (f : RemoteFile) (seen : List Field) :
    List (RawString × Tree) → Option RemoteFile
  | [] => some f
  | (key, value) :: rest =>
    match key.text? with
    | none => none
    | some key =>
      match Field.ofKey? key with
      | none => setMembers f seen rest
      | some field =>
        if field ∈ seen then none
        else
          match setField f field value with
          | none => none
          | some f => setMembers f (field :: seen) rest

/-- Sets one field after the other, in the order in which records list them. There may be fewer
values than fields, but not more. -/
def setInOrder (f : RemoteFile) : List Field → List Tree → Option RemoteFile
  | _, [] => some f
  | [], _ :: _ => none
  | field :: fields, value :: rest =>
    match setField f field value with
    | none => none
    | some f => setInOrder f fields rest

/-- Reads a record in either of its two forms. -/
def ofTree? : Tree → Option RemoteFile
  | .object members => setMembers {} [] members
  | .array items => setInOrder {} (fields.map (·.1)) items
  | _ => none

/-- The files of a listing; one record that cannot be read spoils it. -/
def parse? (bs : Bytes) : Option (List RemoteFile) :=
  match Tree.parse? bs with
  | some (.array records) => records.mapM ofTree?
  | _ => none

end Listing
end Courier
