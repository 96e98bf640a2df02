import Courier.Program.Packages
import Courier.Proofs.Artifact.BaseName
import Courier.Proofs.Http.Exchanges
import Courier.Proofs.Settings.Document

/-! User and password, and what is done without them.

A document of settings has no keys for the user and the password, so whatever a file says they are
those of the environment (`load_credentials`). Without one of them no publisher can be made, and
every command with a server needs one before it does anything. So nothing is sent, and all that is
printed is the error (`nothing_sent_without_credentials`). -/
namespace Courier

/-- The environment has no value for a variable, or one that is blank. -/
def Environment.Lacks (env : Environment) (name : String) : Prop :=
  ∀ value, env name = some value → ∀ c ∈ value.toList, Text.isBlank c = true

namespace Settings

/-! ### Documents -/

/-- Settings without a user and without a password. -/
structure Anonymous (s : Settings) : Prop where
  user : s.user = none
  pass : s.pass = none

/-- No key of a document sets the user or the password. -/
theorem Anonymous.setField {s s' : Settings} {field : Field} {node : Yaml.Node}
    (hs : s.Anonymous) (h : setField s field node = some s') : s'.Anonymous := by
  cases field <;> obtain ⟨_, -, rfl⟩ := Option.map_eq_some_iff.1 h <;> exact ⟨hs.user, hs.pass⟩

theorem Anonymous.setFields {s s' : Settings} {seen : List Field}
    {pairs : List (Yaml.Node × Yaml.Node)} (hs : s.Anonymous)
    (h : setFields s seen pairs = some s') : s'.Anonymous := by
  induction pairs generalizing s seen with
  | nil => exact Option.some.inj h ▸ hs
  | cons pair rest ih =>
    rcases setFields_cons h with ⟨-, hrest⟩ | ⟨field, set, -, -, -, hset, hrest⟩
    · exact ih hs hrest
    · exact ih (hs.setField hset) hrest

theorem anonymous_default : ({} : Settings).Anonymous := ⟨rfl, rfl⟩

/-- What a document says leaves both empty, as they are by default. -/
theorem ofNode?_anonymous {node : Yaml.Node} {s : Settings} (h : ofNode? node = some s) :
    s.Anonymous := by
  unfold ofNode? at h
  split at h
  · exact anonymous_default.setFields h
  · split at h
    · exact Option.some.inj h ▸ anonymous_default
    · cases h
  · cases h
  · cases h

theorem ofText?_anonymous {text : String} {s : Settings} (h : ofText? text = some s) :
    s.Anonymous := by
  unfold ofText? at h
  split at h
  · exact Option.some.inj h ▸ anonymous_default
  · exact ofNode?_anonymous h
  · cases h

/-- Settings from a file have neither user nor password. -/
theorem ofFile_anonymous {tree : FileTree} {path : String} {s : Settings}
    (h : ofFile tree path = .ok s) : s.Anonymous := by
  unfold ofFile at h
  split at h
  · cases h
  split at h
  · exact Except.ok.inj h ▸ ofText?_anonymous ‹_›
  · cases h

/-! ### The environment -/

/-- **User and password come from the environment only**, whatever file there is. -/
theorem load_credentials {env : Environment} {tree : FileTree} {s : Settings}
    (h : load env tree = .ok s) :
    s.user = value? env "BINTRAY_USER" ∧ s.pass = value? env "BINTRAY_PASS" := by
  have hoverride {base : Settings} (hbase : base.Anonymous) :
      (base.override env).user = value? env "BINTRAY_USER" ∧
        (base.override env).pass = value? env "BINTRAY_PASS" := by
    simp only [override, hbase.user, hbase.pass, Option.or_none, and_self]
  unfold load at h
  split at h
  · next path _ =>
    cases hfile : ofFile tree path with
    | error e =>
      rw [hfile] at h
      cases h
    | ok base =>
      rw [hfile] at h
      exact Except.ok.inj h ▸ hoverride (ofFile_anonymous hfile)
  · exact Except.ok.inj h ▸ hoverride anonymous_default

/-- A variable has no value where the environment lacks it, unset or blank. -/
theorem value?_eq_none_iff {env : Environment} {name : String} :
    value? env name = none ↔ env.Lacks name := by
  simp only [value?, Option.filter_eq_none_iff, Environment.Lacks, Text.isAllBlank,
    Bool.not_eq_true', Bool.not_eq_false, List.all_eq_true]

/-- Without one of the two variables the settings have no credentials, whatever file was read. -/
theorem credentials_of_lacks {env : Environment} {tree : FileTree} {s : Settings}
    (h : load env tree = .ok s) (hlacks : env.Lacks "BINTRAY_USER" ∨ env.Lacks "BINTRAY_PASS") :
    s.credentials = .error .missingCredentials := by
  obtain ⟨huser, hpass⟩ := load_credentials h
  rw [← value?_eq_none_iff, ← value?_eq_none_iff] at hlacks
  unfold credentials
  rcases hlacks with hnone | hnone
  · rw [huser, hnone]
  · rw [hpass, hnone]
    cases s.user <;> rfl

end Settings

namespace Program.Packages

open Http (Session Request Reply)
open Http.Session

/-! ### Commands -/

/-- Commands that ask a server. -/
def Command.asks : Command → Bool
  | .classify _ _ => false
  | _ => true

/-- What is wrong with the settings when a user or a password lacks. -/
def refusal (env : Environment) (tree : FileTree) : Settings.Error :=
  match Settings.load env tree with
  | .error e => e
  | .ok _ => .missingCredentials

/-- Without credentials a task that needs a publisher is not begun. -/
theorem withPublisher_of_credentials {settings : Settings} {e : Settings.Error}
    (h : settings.credentials = .error e)
    (task : Publishing.Publisher → Session (Except Publishing.Error Unit)) :
    withPublisher settings task = .done (.error (.settings e)) := by
  have hclient : Publishing.Client.ofSettings settings = .error (.settings e) := by
    rw [Publishing.Client.ofSettings, h]
  rw [withPublisher, Publishing.Publisher.ofSettings, hclient]
  rfl

/-- Nor is any command that asks for a server. -/
theorem carryOut_of_credentials {settings : Settings} {e : Settings.Error} {command : Command}
    (h : settings.credentials = .error e) (hasks : command.asks = true) (tree : FileTree) :
    command.carryOut settings tree = .done (.error (.settings e)) := by
  cases command with
  | classify names hint => cases hasks
  | _ => exact withPublisher_of_credentials h _

/-- Such a command is one error and nothing else, that of the settings or the missing credentials.
-/
theorem execute_of_lacks {env : Environment} {command : Command}
    (hasks : command.asks = true)
    (hlacks : env.Lacks "BINTRAY_USER" ∨ env.Lacks "BINTRAY_PASS") (tree : FileTree) :
    execute env tree command = .done (.error (.settings (refusal env tree))) := by
  unfold execute refusal
  cases hload : Settings.load env tree with
  | error e => rfl
  | ok settings =>
    exact carryOut_of_credentials (Settings.credentials_of_lacks hload hlacks) hasks tree

/-- Classifying only prints. -/
theorem log_of_classify {env : Environment} {tree : FileTree} {names : List String}
    {hint : Option Repository} {log : Log} {answer : Except Publishing.Error Unit}
    (h : Trace (execute env tree (.classify names hint)) log answer) : log = [] := by
  unfold execute at h
  split at h
  · exact (trace_done_iff.1 h).1
  · obtain ⟨before, _, after, hlines, hdone, rfl⟩ := trace_bind_iff.1 h
    rw [trace_sayAll_iff.1 hlines, (trace_done_iff.1 hdone).1, List.append_nil]

theorem log_of_finish {result : Except Publishing.Error Unit} {log : Log} {code : Nat}
    (h : Trace (finish result) log code) : log = [] := by
  cases result with
  | ok _ => exact (trace_done_iff.1 h).1
  | error e => exact (trace_done_iff.1 (trace_print_iff.1 h)).1

/-- **Nothing is sent without credentials.** A command with a server ends at once when the
environment lacks the user or the password, whatever the tree holds and the file of settings says:
with the code for settings and one line, which is an error. Classifying never sends anything. -/
theorem nothing_sent_without_credentials {σ : Type} (reply : σ → Request → Reply × σ) (server : σ)
    (env : Environment) (tree : FileTree) {args : List String} {command : Command}
    (h : Command.ofArguments args = .ok command) :
    let played := play (noting reply) (server, []) (run env tree args)
    (command.asks = true → env.Lacks "BINTRAY_USER" ∨ env.Lacks "BINTRAY_PASS" →
      played.answer = 2 ∧ played.server = (server, []) ∧
      played.lines = [Report.error (refusal env tree).message] ∧
      ∀ text, Output.out text ∉ played.lines) ∧
    (command.asks = false → played.server.2 = []) := by
  intro played
  have hrun : run env tree args = (execute env tree command).bind finish := by rw [run, h]
  constructor
  · intro hasks hlacks
    have hplayed : played = ⟨2, [Report.error (refusal env tree).message], (server, [])⟩ := by
      simp only [played, hrun, execute_of_lacks hasks hlacks tree]
      rfl
    rw [hplayed]
    exact ⟨rfl, rfl, rfl, fun text => by simp [Report.error]⟩
  · intro hasks
    cases command with
    | classify names hint =>
      obtain ⟨added, hlog, htrace, -⟩ := trace_play reply server [] (run env tree args)
      rw [hrun] at htrace
      obtain ⟨before, result, after, hexecute, hfinish, rfl⟩ := trace_bind_iff.1 htrace
      rw [log_of_classify hexecute, log_of_finish hfinish] at hlog
      exact hlog
    | _ => cases hasks

/-- A file with keys for the user and the password. -/
def secretFile : FileTree :=
  ⟨.dir [(Text.utf8 "bintray.yml", .file (Text.utf8 "user: u\npass: p\n"))], []⟩

/-- The password is blank, and the user is only in the file. -/
def blankEnvironment : Environment
  | "BINTRAY_CONFIG" => some "bintray.yml"
  | "BINTRAY_PASS" => some " \t"
  | _ => none

theorem nothing_sent_for_secret_file :
    let played := play (noting fun (n : Nat) _ => (.lost, n + 1)) (0, [])
      (run blankEnvironment secretFile ["prune", "ubuntu", "-k", "3"])
    played.answer = 2 ∧ played.server = (0, []) ∧ ∀ text, Output.out text ∉ played.lines := by
  have hlacks : blankEnvironment.Lacks "BINTRAY_PASS" := by
    have hblank : " \t".toList.all Text.isBlank = true := by decide
    intro value hvalue
    obtain rfl := Option.some.inj hvalue
    exact List.all_eq_true.1 hblank
  have hcommand : Command.ofArguments ["prune", "ubuntu", "-k", "3"] =
      .ok (.prune "ubuntu" (some 3) false false) := eq_ok_of_toOption (by decide +kernel)
  obtain ⟨hcode, hserver, -, hlines⟩ :=
    (nothing_sent_without_credentials (fun (n : Nat) _ => (.lost, n + 1)) 0 blankEnvironment
      secretFile hcommand).1 rfl (.inr hlacks)
  exact ⟨hcode, hserver, hlines⟩

end Program.Packages
end Courier
