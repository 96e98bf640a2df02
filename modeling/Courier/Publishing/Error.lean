import Courier.Artifact.Error
import Courier.Settings.Basic
import Courier.Url.Host

/-! What goes wrong while files are published or pruned. -/
namespace Courier.Publishing

/-- Why publishing or pruning stopped. -/
inductive Error where
  | settings (error : Settings.Error)
  | artifact (error : Artifact.Error)
  /-- The server answered, but not as it should. -/
  | http (url : String) (status : Nat) (reason : String)
  /-- There was no answer, or it broke off, or it could not be read. -/
  | transport
  | unreadable (path : Path) (error : FileTree.Error)
  /-- A directory whose files cannot be listed. -/
  | unlisted (path : Path) (error : FileTree.Error)
  | invalidUrl (text : String) (error : Option Url.Error)
  | nothingToPublish (directory : Path)
  deriving DecidableEq, Repr

namespace Error

/-- The error in one line, as it is printed. -/
def message : Error → String
  | .settings error => error.message
  | .artifact error => error.message
  | .http url status reason => s!"HTTP ERROR \"{url}\" {status} {reason}"
  | .transport => "transport error:"
  | .unreadable path error => s!"failed to read '{path.text}': {error.message}"
  | .unlisted path error =>
    s!"failed to read '{path.text}': IO error for operation on {path.text}: {error.message}"
  | .invalidUrl text (some error) => s!"invalid URL: {text}: {error.message}"
  | .invalidUrl text none => s!"invalid URL: {text}"
  | .nothingToPublish directory => s!"nothing to publish in '{directory.text}'"

/-- The exit code of the program after this error. -/
def exitCode : Error → Nat
  | .settings _ => 2
  | .artifact _ | .nothingToPublish _ => 3
  | .http .. => 10
  | _ => 1

end Error
end Courier.Publishing
