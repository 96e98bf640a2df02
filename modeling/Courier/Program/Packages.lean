import Courier.Program.Arguments
import Courier.Publishing.Prune
import Courier.Settings.Load

/-! The program that publishes packages.

Settings are read before anything else is done, also by a command that needs no server. The exit
code is 0, or that of the first error; 1 if the arguments name no command. -/
namespace Courier.Program.Packages

open Http (Session)
open Publishing (Error Publisher)

/-- What the program is asked to do. -/
inductive Command where
  /-- Uploads one file to a given place. -/
  | upload (target : String) (file : Path)
  /-- Uploads all packages below a directory. -/
  | publish (directory : Path) (hint : Option Repository)
  /-- Deletes all but the newest files of every group. -/
  | prune (repository : String) (keep : Option Nat) (unpublished dryRun : Bool)
  | files (repository : String) (unpublished : Bool)
  | versions (repository : String)
  /-- Says where files would be uploaded to. -/
  | classify (files : List String) (hint : Option Repository)
  deriving DecidableEq, Repr

/-! ### Arguments -/

/-- The name of a file or directory; an empty one is refused. -/
def path? (text : String) : Option Path := if text = "" then none else some (Text.utf8 text)

/-- The largest number of files that can be kept. -/
def maxKeep : Nat := 18446744073709551615

/-- Says which repository files are for, whatever their names say. -/
def hintSwitch : Switch := { name := "repo-kind", takesValue := true }
/-- How many files of each group stay. -/
def keepSwitch : Switch := { name := "keep", letter := some 'k', takesValue := true }
/-- Takes files into account that are not published yet. -/
def unpublishedSwitch : Switch := { name := "include-unpublished" }
/-- Only says what would be deleted. -/
def dryRunSwitch : Switch := { name := "dry-run" }
/-- Asks for more in the log. It changes nothing of what is done. -/
def debugSwitch : Switch := { name := "debug" }

/-- The repository of a hint. A hint that names none is refused, one that is not given is not. -/
def hint? (a : Arguments) : Option (Option Repository) :=
  a.readValue hintSwitch.name Repository.ofText?

/-- The form of a command to upload one file. -/
def upload : Form Command where
  name := "upload"
  read a := match a.words with
    | [target, file] => (path? file).map (.upload target)
    | _ => none

/-- The form of a command to publish all packages below a directory. -/
def publish : Form Command where
  name := "publish"
  switches := [hintSwitch]
  read a := match a.words with
    | [directory] => do return .publish (← path? directory) (← hint? a)
    | _ => none

/-- The form of a command to delete old files. -/
def prune : Form Command where
  name := "prune"
  switches := [keepSwitch, unpublishedSwitch, dryRunSwitch]
  read a := match a.words with
    | [repository] => do
      let keep ← a.readValue keepSwitch.name fun text => Text.readUnsigned maxKeep text.toList
      return .prune repository keep (a.has unpublishedSwitch.name) (a.has dryRunSwitch.name)
    | _ => none

/-- The form of a command to list what a repository stores. -/
def files : Form Command where
  name := "files"
  switches := [unpublishedSwitch]
  read a := match a.words with
    | [repository] => some (.files repository (a.has unpublishedSwitch.name))
    | _ => none

/-- The form of a command to show what a repository tells about the package. -/
def versions : Form Command where
  name := "versions"
  read a := match a.words with
    | [repository] => some (.versions repository)
    | _ => none

/-- The form of a command to say where files would go. It takes one file or more. -/
def classify : Form Command where
  name := "classify"
  switches := [hintSwitch]
  read a := if a.words = [] then none else (hint? a).map (.classify a.words)

/-- All commands, in the order in which they are told to the user. -/
def forms : List (Form Command) := [upload, publish, prune, files, versions, classify]

/-- The command that arguments stand for, or why there is none. -/
def Command.ofArguments (args : List String) : Except Halt Command :=
  (readCommand [.version] [.help, debugSwitch] forms args).map (·.2)

/-- What a command reads from the tree of files. -/
def Command.source? : Command → Option Path
  | .upload _ file => some file
  | .publish directory _ => some directory
  | _ => none

/-! ### Classifying -/

/-- What is printed of a package: all that its upload depends on. -/
def packageLine (settings : Settings) (a : Artifact) : String :=
  let repository := settings.repositoryFor a.repository
  let directory := a.directory settings.package
  let parameters := a.parameters settings.component
  let flag := Publishing.publishFlag a
  s!"{a.basename}: repo={repository} version={a.version} path={directory}{parameters};publish={flag}"

/-- What is said of one file. -/
def verdict (settings : Settings) (hint : Option Repository) (file : String) :
    Except Artifact.Error String :=
  match Artifact.classify file hint with
  | .ok (.package a) => .ok (packageLine settings a)
  | .ok (.archive basename) => .ok s!"{basename}: archive, not published"
  | .error e => .error e

/-- A file that is no package is only warned about, so that the others are still told of. -/
def verdictLine : Except Artifact.Error String → Output
  | .ok text => Report.info text
  | .error e => Report.warning e.message

/-- The error of the first file that cannot be classified. -/
def firstError : List (Except Artifact.Error String) → Except Error Unit
  | [] => .ok ()
  | .error e :: _ => .error (.artifact e)
  | .ok _ :: rest => firstError rest

/-- Every file is looked at, whatever is wrong with one of them. -/
def classifyFiles (settings : Settings) (hint : Option Repository) (files : List String) :
    Session (Except Error Unit) :=
  let verdicts := files.map (verdict settings hint)
  (Session.sayAll (verdicts.map verdictLine)).bind fun () => .done (firstError verdicts)

/-! ### Commands with a server -/

/-- What was done, in one line. -/
def publishLine (s : Publishing.Summary) : Output :=
  Report.info
    s!"Published {s.uploaded.length} files ({s.conflicts.length} already present, {s.skipped.length} skipped)"

/-- How many files were kept, deleted and left alone. -/
def pruneLine (repository : String) (plan : Retention.Plan) : Output :=
  Report.info
    s!"{repository}: kept {plan.keep.length}, deleted {plan.delete.length}, ignored {plan.skipped.length}"

/-- A stored file in columns. One without a date has a dash there. -/
def fileLine (f : RemoteFile) : Output :=
  let created := match f.created with
    | some t => t.shortText
    | none => "-"
  .out s!"{f.version}\t{created}\t{f.size}\t{f.path}"

/-- Prints what a session comes to. -/
def telling {α : Type} (s : Session (Except Error α)) (lines : α → List Output) :
    Session (Except Error Unit) :=
  s.andThen fun a => (Session.sayAll (lines a)).bind fun () => .done (.ok ())

/-- Does a task that needs a server. Without user and password it is not begun. -/
def withPublisher (settings : Settings) (task : Publisher → Session (Except Error Unit)) :
    Session (Except Error Unit) :=
  match Publisher.ofSettings settings with
  | .error e => .done (.error e)
  | .ok p => task p

/-- Carries out a command. Only classifying needs no server. -/
def Command.carryOut (settings : Settings) (tree : FileTree) :
    Command → Session (Except Error Unit)
  | .classify names hint => classifyFiles settings hint names
  | .upload target file => withPublisher settings fun p =>
    telling (p.upload tree target file) fun _ => []
  | .publish directory hint => withPublisher settings fun p =>
    telling (p.publish tree directory hint) fun summary => [publishLine summary]
  | .prune repository keep unpublished dryRun => withPublisher settings fun p =>
    telling (p.prune repository (keep.getD settings.keep) unpublished dryRun) fun plan =>
      [pruneLine repository plan]
  | .files repository unpublished => withPublisher settings fun p =>
    telling (p.files repository unpublished) fun files => files.map fileLine
  | .versions repository => withPublisher settings fun p =>
    telling (p.versions repository) fun info => [.out info.pretty]

/-! ### The program -/

/-- What is said to arguments that name no command. -/
def knownCommands : String :=
  "Please, specify a valid command:" ++ String.join (forms.map fun f => "\n  " ++ f.name)

/-- How the program is to be called. -/
def usageText : String :=
  "Usage: bintray [--debug] <command> [arguments]\n\nCommands:\n" ++
    "  upload <target> <file>\n" ++
    "  publish <directory> [--repo-kind <kind>]\n" ++
    "  prune <repository> [-k <number>] [--include-unpublished] [--dry-run]\n" ++
    "  files <repository> [--include-unpublished]\n" ++
    "  versions <repository>\n" ++
    "  classify <file>... [--repo-kind <kind>]"

/-- What the program does instead of its work. Help and version are no errors. -/
def halted : Halt → Session Nat
  | .usage => .print (.err usageText) (.done 1)
  | .noCommand => .print (Report.error knownCommands) (.done 1)
  | .version => .print (.out "bintray 0.1.0") (.done 0)
  | .help => .print (.out usageText) (.done 0)

/-- Prints an error, and ends with its exit code. -/
def finish : Except Error Unit → Session Nat
  | .ok () => .done 0
  | .error e => .print (Report.error e.message) (.done e.exitCode)

/-- Reads the settings, and carries out a command with them. -/
def execute (env : Environment) (tree : FileTree) (command : Command) :
    Session (Except Error Unit) :=
  match Settings.load env tree with
  | .error e => .done (.error (.settings e))
  | .ok settings => command.carryOut settings tree

/-- The whole program; its answer is the exit code. -/
def run (env : Environment) (tree : FileTree) (args : List String) : Session Nat :=
  match Command.ofArguments args with
  | .error halt => halted halt
  | .ok command => (execute env tree command).bind finish

end Courier.Program.Packages
