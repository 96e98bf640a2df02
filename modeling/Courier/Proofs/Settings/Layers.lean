import Courier.Proofs.FileTree.LongPath
import Courier.Proofs.Program.Credentials
import Mathlib.Logic.Function.Basic

/-! The layers of settings: defaults, then a file, then the environment.

A document gives each field its own entry, and a field without one keeps its default (`Reads`). The
environment stands above: its user and password are the only ones, some of its variables take the
place of what the file says, and the package, the description and the count have no variable
(`Layered`). A variable counts by its value only where that is not blank, and of a document only the
fields count, so that what it says under the keys of a user and a password changes nothing
(`load_layered`). Entries are those of the complete document, where every alias already is the node
that it stands for. -/
namespace Courier.Settings

open Yaml (Node)

/-! ### Layers -/

/-- Settings as entries give them, and defaults where there is no entry. -/
structure Reads (pairs : List (Node × Node)) (s : Settings) : Prop where
  fields : ∀ field : Field,
    (entryOf? pairs field).elim (some (field.get {})) (field.read? ·) = some (field.get s)
  anonymous : s.Anonymous

/-- Settings of the environment on top of others. -/
structure Layered (env : Environment) (base s : Settings) : Prop where
  user : s.user = value? env "BINTRAY_USER"
  pass : s.pass = value? env "BINTRAY_PASS"
  apiUrl : s.apiUrl = (value? env "BINTRAY_API").getD base.apiUrl
  org : s.org = (value? env "BINTRAY_ORG").or base.org
  repository : s.repository = (value? env "BINTRAY_REPO").or base.repository
  component : s.component = (value? env "BINTRAY_COMPONENT").or base.component
  package : s.package = base.package
  description : s.description = base.description
  keep : s.keep = base.keep

/-- A document that is accepted says each field that it has an entry for. -/
theorem reads_of_ofText? {text : String} {s : Settings} (h : ofText? text = some s) :
    ∃ pairs, entries? text = some pairs ∧ Reads pairs s := by
  have hbind := h
  rw [ofText?_eq] at hbind
  obtain ⟨pairs, hpairs, hset⟩ := Option.bind_eq_some_iff.1 hbind
  exact ⟨pairs, hpairs, read_setFields hset, ofText?_anonymous h⟩

/-- The environment stands above settings that have neither user nor password. -/
theorem layered_override (env : Environment) {base : Settings} (h : base.Anonymous) :
    Layered env base (base.override env) := by
  constructor <;> simp only [override, h.user, h.pass, Option.or_none]

/-! ### The environment -/

theorem value?_eq_some_iff {env : Environment} {name value : String} :
    value? env name = some value ↔
      env name = some value ∧ ∃ c ∈ value.toList, Text.isBlank c = false := by
  simp [value?, Option.filter_eq_some_iff, Text.isAllBlank]

/-- Settings depend on the values of variables only, and not on which of the others are blank. -/
theorem load_congr {env env' : Environment} (h : ∀ name, value? env name = value? env' name)
    (tree : FileTree) : load env tree = load env' tree := by
  simp only [load, override, h]

/-- A variable that is blank is as good as none. -/
theorem value?_update_blank (env : Environment) {blank : String}
    (hblank : ∀ c ∈ blank.toList, Text.isBlank c = true) (name other : String) :
    value? (Function.update env name (some blank)) other =
      value? (Function.update env name none) other := by
  by_cases h : other = name
  · subst h
    rw [value?_eq_none_iff.2, value?_eq_none_iff.2]
    · intro value hvalue
      rw [Function.update_self] at hvalue
      cases hvalue
    · intro value hvalue
      rw [Function.update_self] at hvalue
      cases hvalue
      exact hblank
  · rw [value?, value?, Function.update_of_ne h, Function.update_of_ne h]

/-! ### Loading -/

/-- A path in the environment is where the settings are read, and nowhere else. -/
theorem load_of_path {env : Environment} {path : String}
    (h : value? env "BINTRAY_CONFIG" = some path) (tree : FileTree) :
    load env tree = (ofFile tree path).map (·.override env) := by
  simp only [load, h]

theorem ofFile_of_text {tree : FileTree} {path text : String}
    (h : tree.readText (Text.utf8 path) = .ok text) :
    ofFile tree path = (ofText? text).elim (.error (.malformed path)) .ok := by
  simp only [ofFile, h]
  cases ofText? text with
  | none => rfl
  | some s => rfl

/-- **Layers of settings.** With a file that can be read, each field is that of the file or its
default, and above these are the variables; without a file there are the defaults. Variables that
are blank are as good as unset, and documents that differ only in what they say of a user and a
password are as good as each other. -/
theorem load_layered (env : Environment) (tree : FileTree) :
    (∀ path text base, value? env "BINTRAY_CONFIG" = some path →
      tree.readText (Text.utf8 path) = .ok text → ofText? text = some base →
      (∃ pairs, entries? text = some pairs ∧ Reads pairs base) ∧
        ∃ s, load env tree = .ok s ∧ Layered env base s) ∧
    (value? env "BINTRAY_CONFIG" = none → ∃ s, load env tree = .ok s ∧ Layered env {} s) ∧
    (∀ name value, value? env name = some value ↔
      env name = some value ∧ ∃ c ∈ value.toList, Text.isBlank c = false) ∧
    (∀ name blank, (∀ c ∈ blank.toList, Text.isBlank c = true) →
      load (Function.update env name (some blank)) tree =
        load (Function.update env name none) tree) ∧
    ∀ (other : FileTree) path text text' pairs pairs', value? env "BINTRAY_CONFIG" = some path →
      tree.readText (Text.utf8 path) = .ok text → other.readText (Text.utf8 path) = .ok text' →
      entries? text = some pairs → entries? text' = some pairs' →
      pairs.filter (fun pair => !namesCredential pair) =
        pairs'.filter (fun pair => !namesCredential pair) →
      load env other = load env tree := by
  refine ⟨?_, ?_, fun _ _ => value?_eq_some_iff,
    fun name blank hblank => load_congr (value?_update_blank env hblank name) tree, ?_⟩
  · intro path text base hpath htext hbase
    refine ⟨reads_of_ofText? hbase, base.override env, ?_,
      layered_override env (ofText?_anonymous hbase)⟩
    rw [load_of_path hpath, ofFile_of_text htext, hbase]
    rfl
  · intro hpath
    have hload : load env tree = .ok (({} : Settings).override env) := by
      simp only [load, hpath]
      rfl
    exact ⟨_, hload, layered_override env anonymous_default⟩
  · intro other path text text' pairs pairs' hpath htext htext' hpairs hpairs' hothers
    rw [load_of_path hpath, load_of_path hpath, ofFile_of_text htext, ofFile_of_text htext',
      ofText?_congr hpairs hpairs' hothers]

/-- Pairs of scalars, if there are no others. -/
def scalars? : List (Node × Node) → Option (List (Yaml.Scalar × Yaml.Scalar))
  | [] => some []
  | (.scalar key, .scalar value) :: rest => (scalars? rest).map ((key, value) :: ·)
  | _ => none

theorem eq_of_scalars? {pairs : List (Node × Node)} {scalars : List (Yaml.Scalar × Yaml.Scalar)}
    (h : scalars? pairs = some scalars) :
    pairs = scalars.map fun (key, value) => (.scalar key, .scalar value) := by
  induction pairs generalizing scalars with
  | nil =>
    cases h
    rfl
  | cons pair rest ih =>
    unfold scalars? at h
    split at h
    · next heq => cases heq
    · next heq =>
      cases heq
      obtain ⟨more, hmore, rfl⟩ := Option.map_eq_some_iff.1 h
      rw [ih hmore]
      rfl
    · cases h

/-- A tree with a file of settings. -/
def settingsFile (text : String) : FileTree :=
  ⟨.dir [(Text.utf8 "bintray.yml", .file (Text.utf8 text))], []⟩

theorem readText_settingsFile (text : String) :
    (settingsFile text).readText (Text.utf8 "./bintray.yml") = .ok text := by
  have hpath : Text.utf8 "./bintray.yml" = FileTree.here 1 ++ Text.utf8 "bintray.yml" := by
    decide +kernel
  rw [FileTree.readText, settingsFile, hpath,
    FileTree.read_here (by decide) (by decide +kernel) (by decide +kernel)]
  simp only [Text.decode?_utf8]

/-- A variable that is blank, one with a value, and a password, with files that name a user or
another password. -/
theorem load_layered_blank :
    let env : Environment
      | "BINTRAY_CONFIG" => some "./bintray.yml"
      | "BINTRAY_ORG" => some " \t"
      | "BINTRAY_REPO" => some "staging"
      | "BINTRAY_PASS" => some "p"
      | _ => none
    let tree := settingsFile "user: eve\norg: acme\nrepo: main\nretention_keep: 7\n"
    let other := settingsFile "org: acme\npass: q\nrepo: main\nretention_keep: 7\n"
    (∃ s, load env tree = .ok s ∧ s.user = none ∧ s.pass = some "p" ∧ s.org = some "acme" ∧
      s.repository = some "staging" ∧ s.keep = 7) ∧
    load env other = load env tree ∧
    load (Function.update env "BINTRAY_CONFIG" (some " ")) tree =
      load (Function.update env "BINTRAY_CONFIG" none) tree := by
  intro env tree other
  have hpath : value? env "BINTRAY_CONFIG" = some "./bintray.yml" := by decide +kernel
  have hspace : " ".toList.all Text.isBlank = true := by decide
  obtain ⟨hfile, -, -, hblank, hothers⟩ := load_layered env tree
  refine ⟨?_, ?_, hblank _ " " (List.all_eq_true.1 hspace)⟩
  · let base : Settings := { org := some "acme", repository := some "main", keep := 7 }
    obtain ⟨-, s, hload, h⟩ := hfile _ _ base hpath (readText_settingsFile _) (by decide +kernel)
    refine ⟨s, hload, ?_, ?_, ?_, ?_, h.keep⟩
    · rw [h.user]
      decide +kernel
    · rw [h.pass]
      decide +kernel
    · rw [h.org]
      decide +kernel
    · rw [h.repository]
      decide +kernel
  · let plain (text : String) : Yaml.Scalar := ⟨text, .plain, none⟩
    have hfirst : (entries? "user: eve\norg: acme\nrepo: main\nretention_keep: 7\n").bind scalars? =
        some [(plain "user", plain "eve"), (plain "org", plain "acme"),
          (plain "repo", plain "main"), (plain "retention_keep", plain "7")] := by
      decide +kernel
    have hsecond : (entries? "org: acme\npass: q\nrepo: main\nretention_keep: 7\n").bind scalars? =
        some [(plain "org", plain "acme"), (plain "pass", plain "q"),
          (plain "repo", plain "main"), (plain "retention_keep", plain "7")] := by
      decide +kernel
    obtain ⟨pairs, hpairs, hscalars⟩ := Option.bind_eq_some_iff.1 hfirst
    obtain ⟨pairs', hpairs', hscalars'⟩ := Option.bind_eq_some_iff.1 hsecond
    have heq : pairs.filter (fun pair => !namesCredential pair) =
        pairs'.filter fun pair => !namesCredential pair := by
      rw [eq_of_scalars? hscalars, eq_of_scalars? hscalars']
      rfl
    exact hothers other _ _ _ pairs pairs' hpath (readText_settingsFile _)
      (readText_settingsFile _) hpairs hpairs' heq

end Courier.Settings
