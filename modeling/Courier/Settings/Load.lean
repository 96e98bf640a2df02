import Courier.FileTree.Lookup
import Courier.Settings.Document
import Courier.Text.Blank

/-! Where settings come from: a file that the environment names, and after it the environment
itself, which alone has the user and the password. A variable that is blank counts as unset. -/
namespace Courier

/-- The values of variables. -/
abbrev Environment := String → Option String

namespace Settings

/-- The value of a variable that is set and not blank. -/
def value? (env : Environment) (name : String) : Option String :=
  (env name).filter fun value => !Text.isAllBlank value.toList

/-- Reads the settings file. -/
def ofFile (tree : FileTree) (path : String) : Except Error Settings :=
  match tree.readText (Text.utf8 path) with
  | .error e => .error (.unreadable path e)
  | .ok text =>
    match ofText? text with
    | some s => .ok s
    | none => .error (.malformed path)

/-- The settings with the values of variables in place of their own. -/
def override (s : Settings) (env : Environment) : Settings :=
  { s with
    user := (value? env "BINTRAY_USER").or s.user
    pass := (value? env "BINTRAY_PASS").or s.pass
    repository := (value? env "BINTRAY_REPO").or s.repository
    component := (value? env "BINTRAY_COMPONENT").or s.component
    org := (value? env "BINTRAY_ORG").or s.org
    apiUrl := (value? env "BINTRAY_API").getD s.apiUrl }

/-- The settings for a run. The environment comes after the file and wins. -/
def load (env : Environment) (tree : FileTree) : Except Error Settings :=
  let base := match value? env "BINTRAY_CONFIG" with
    | some path => ofFile tree path
    | none => .ok {}
  base.map fun s => s.override env

end Settings
end Courier
