import Courier.Settings.Basic
import Courier.Yaml.Node

/-! Settings as a YAML document: a mapping of which only the known keys count, each of them once.

Texts are taken from any scalar. A text that may be missing is missing when its scalar is empty or
says null, unless that is quoted. The user and the password have no keys. -/
namespace Courier.Settings

open Yaml (Node Scalar)

/-- The settings that a document may hold. -/
inductive Field where
  | apiUrl
  | org
  | repository
  | component
  | package
  | description
  | keep
  deriving DecidableEq, Repr

/-- The setting that a key stands for; an unknown key stands for none. -/
def Field.ofKey? : String → Option Field
  | "api_url" => some .apiUrl
  | "org" => some .org
  | "repo" => some .repository
  | "component" => some .component
  | "package" => some .package
  | "description" => some .description
  | "retention_keep" => some .keep
  | _ => none

/-- The text of a value that has to be one. -/
def text? : Node → Option String
  | .scalar s => some s.text
  | _ => none

/-- The tag of a value that is missing. -/
def nullTag : String := "tag:yaml.org,2002:null"
/-- The tag of a value that is a number. -/
def integerTag : String := "tag:yaml.org,2002:int"

/-- Whether a text without quotes says that there is no value. -/
def saysNull (text : String) : Bool := ["null", "Null", "NULL", "~"].contains text

/-- A text that may be missing. A scalar with the tag of null has to say null. -/
def optional? : Node → Option (Option String)
  | .scalar s =>
    if s.style ≠ .plain then some (some s.text)
    else if s.tag = some nullTag then (if saysNull s.text then some none else none)
    else if s.tag.isSome then some (some s.text)
    else if s.text = "" || saysNull s.text then some none
    else some (some s.text)
  | _ => none

/-! ### Numbers -/

/-- The largest number that can be set. -/
def maxCount : Nat := 18446744073709551615

/-- A number in a base up to 16, digits in any case. -/
def inBase? (base : Nat) (digits : List Char) : Option Nat :=
  if digits = [] then none
  else
    digits.foldlM (fun n c =>
      match Text.hexValue? c with
      | some d => if d < base ∧ n * base + d ≤ maxCount then some (n * base + d) else none
      | none => none) 0

/-- A number behind a mark of its base. -/
def marked? (cs : List Char) : Option Nat :=
  match cs with
  | '0' :: 'x' :: rest => inBase? 16 rest
  | '0' :: 'o' :: rest => inBase? 8 rest
  | '0' :: 'b' :: rest => inBase? 2 rest
  | _ => none

/-- A zero in front of other digits makes no number. -/
def count? (text : String) : Option Nat :=
  let digits := Text.dropPlus text.toList
  (marked? digits).or <|
    if 1 < digits.length && digits.head? = some '0' && digits.all Char.isDigit then none
    else inBase? 10 digits

/-- A number, which must not be quoted. A literal block is one only if its tag says so. -/
def keep? : Node → Option Nat
  | .scalar s =>
    if s.style = .plain || (s.style = .literal && s.tag = some integerTag) then count? s.text
    else none
  | _ => none

/-! ### Documents -/

/-- Sets one field, if the value is of its kind. -/
def setField (s : Settings) (field : Field) (node : Node) : Option Settings :=
  match field with
  | .apiUrl => (text? node).map fun apiUrl => { s with apiUrl }
  | .org => (optional? node).map fun org => { s with org }
  | .repository => (optional? node).map fun repository => { s with repository }
  | .component => (optional? node).map fun component => { s with component }
  | .package => (text? node).map fun package => { s with package }
  | .description => (text? node).map fun description => { s with description }
  | .keep => (keep? node).map fun keep => { s with keep }

/-- Sets the fields that pairs name, none of those in `seen`. -/
def setFields (s : Settings) (seen : List Field) : List (Node × Node) → Option Settings
  | [] => some s
  | (key, value) :: rest =>
    match text? key with
    | none => none
    | some key =>
      match Field.ofKey? key with
      | none => setFields s seen rest
      | some field =>
        if field ∈ seen then none
        else
          match setField s field value with
          | none => none
          | some s => setFields s (field :: seen) rest

/-- Reads settings. An empty document sets nothing. -/
def ofNode? : Node → Option Settings
  | .mapping pairs => setFields {} [] pairs
  | .scalar s => if s.text = "" && s.style = .plain then some {} else none
  | .sequence _ | .alias _ => none

/-- The settings of a text with one document; a text without any leaves all as it is. -/
def ofText? (text : String) : Option Settings :=
  match Yaml.documents? text with
  | some [] => some {}
  | some [node] => ofNode? node
  | _ => none

end Courier.Settings
