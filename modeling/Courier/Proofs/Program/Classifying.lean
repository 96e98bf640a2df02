import Courier.Proofs.Program.Credentials
import Courier.Proofs.Program.Lines
import Courier.Proofs.Publishing.Partition
import Mathlib.Data.List.Forall2

/-! Classifying, which says what publishing would do.

Each name is judged by itself, and what is printed of it is what a plan of that name alone holds: an
upload with its repository, version and place, an archive, or an error (`Foretells`). The plan of
all names is made of these plans, so the error that ends the program is the first one of that plan
(`classifying_foretells`). -/
namespace Courier

theorem Path.text_utf8 (name : String) : Path.text (Text.utf8 name) = name := Text.lossy_utf8 name

namespace Program

/-! ### Arguments -/

/-- Behind `--` there are only words. -/
theorem Arguments.read_verbatim (known : List Switch) {a : Arguments}
    (hverbatim : a.verbatim = true) (hawaited : a.awaited = none) (words : List String) :
    a.read known words = .ok { a with words := a.words ++ words } := by
  induction words generalizing a with
  | nil => rw [List.append_nil, read, if_neg (by rw [hawaited]; decide)]
  | cons word words ih =>
    have htake : a.take known word = .ok { a with words := a.words ++ [word] } := by
      rw [take, if_pos hverbatim]
    have hrest := @ih { a with words := a.words ++ [word] } hverbatim hawaited
    rw [List.append_assoc, List.singleton_append] at hrest
    rw [read, htake]
    exact hrest

namespace Packages

open Http (Session Request Reply)
open Http.Session
open Publishing (Upload UploadPlan planUploads)

/-- The arguments that give a hint. -/
def hintArguments : Option Repository → List String
  | none => []
  | some r => ["--" ++ hintSwitch.name, r.name]

/-- Arguments for any files and any hint. -/
theorem ofArguments_classify {names : List String} (h : names ≠ []) (hint : Option Repository) :
    Command.ofArguments (classify.name :: (hintArguments hint ++ "--" :: names)) =
      .ok (.classify names hint) := by
  have hform : forms.find? (·.name == classify.name) = some classify := rfl
  have hcommand (rest : List String) :
      Arguments.readToCommand ([.version] ++ [.help, debugSwitch]) (forms.map (·.name)) {}
        (classify.name :: rest) = .ok ({}, classify.name, rest) := rfl
  let known := classify.switches ++ [.help, debugSwitch]
  let given : Arguments :=
    { switches := hint.toList.map fun r => (hintSwitch.name, r.name)
      words := names
      verbatim := true }
  have hread : Arguments.read known {} (hintArguments hint ++ "--" :: names) = .ok given := by
    cases hint with
    | none => exact Arguments.read_verbatim known rfl rfl names
    | some r =>
      have hvalue : Arguments.take known { awaited := some hintSwitch } r.name =
          .ok { switches := [(hintSwitch.name, r.name)] } := by
        cases r <;> rfl
      have hname : Arguments.take known {} ("--" ++ hintSwitch.name) =
          .ok { awaited := some hintSwitch } := rfl
      rw [hintArguments, List.cons_append, List.singleton_append, Arguments.read, hname]
      simp only
      rw [Arguments.read, hvalue]
      exact Arguments.read_verbatim known rfl rfl names
  have hgiven : classify.read given = some (.classify names hint) := by
    cases hint with
    | none => exact if_neg h
    | some r =>
      show (if names = [] then none else (Option.map some (Repository.ofText? r.name)).map _) = _
      rw [if_neg h, Repository.ofText?_name]
      rfl
  rw [Command.ofArguments, readCommand, hcommand]
  simp only [hform]
  rw [hread]
  simp only [hgiven]
  rfl

/-! ### What a line foretells -/

variable {settings : Settings} {hint : Option Repository}

/-- The base name that a line starts with. -/
def baseName (name : String) : String := String.ofList (Artifact.fileName name)

/-- What a line says of a name: what a plan of the file of that name holds. -/
inductive Foretells (settings : Settings) (hint : Option Repository) (name : String) :
    Output → Prop where
  | upload {u : Upload} {directory parameters flag : String}
      (plan : planUploads settings hint [Text.utf8 name] = ⟨[u], [], []⟩)
      (target : u.target = "/content/" ++ settings.owner ++ "/" ++ u.repository ++ "/" ++
        settings.package ++ "/" ++ u.version ++ "/" ++ directory ++ "/" ++ baseName name ++
          parameters ++ ";publish=" ++ flag)
      (off_or_on : flag = "0" ∨ flag = "1") :
      Foretells settings hint name (Report.info (baseName name ++ ": repo=" ++ u.repository ++
        " version=" ++ u.version ++ " path=" ++ directory ++ parameters ++ ";publish=" ++ flag))
  | archive (plan : planUploads settings hint [Text.utf8 name] = ⟨[], [Text.utf8 name], []⟩) :
      Foretells settings hint name (Report.info (baseName name ++ ": archive, not published"))
  | rejected {e : Artifact.Error}
      (plan : planUploads settings hint [Text.utf8 name] = ⟨[], [], [(Text.utf8 name, e)]⟩) :
      Foretells settings hint name (Report.warning e.message)

section

variable {name : String}

theorem verdictLine_of_error {e : Artifact.Error} (h : Artifact.classify name hint = .error e) :
    verdictLine (verdict settings hint name) = Report.warning e.message := by
  rw [verdict, h]
  rfl

theorem verdictLine_of_archive {basename : String}
    (h : Artifact.classify name hint = .ok (.archive basename)) :
    verdictLine (verdict settings hint name) =
      Report.info (baseName name ++ ": archive, not published") := by
  obtain ⟨rfl, -⟩ := Artifact.classify_eq_archive_iff.1 h
  rw [verdict, h]
  rfl

theorem verdictLine_of_package {a : Artifact}
    (h : Artifact.classify name hint = .ok (.package a)) :
    verdictLine (verdict settings hint name) = Report.info (a.basename ++ ": repo=" ++
      settings.repositoryFor a.repository ++ " version=" ++ a.version ++ " path=" ++
        a.directory settings.package ++ a.parameters settings.component ++ ";publish=" ++
          Publishing.publishFlag a) := by
  rw [verdict, h]
  rfl

end

/-- The line of a name foretells what the plan of that name alone holds. -/
theorem foretells_verdict (settings : Settings) (hint : Option Repository) (name : String) :
    Foretells settings hint name (verdictLine (verdict settings hint name)) := by
  have htext := Path.text_utf8 name
  cases hclass : Artifact.classify name hint with
  | error e =>
    rw [verdictLine_of_error hclass]
    exact .rejected (Publishing.plan_of_error (by rw [htext, hclass]))
  | ok c =>
    cases c with
    | archive basename =>
      rw [verdictLine_of_archive hclass]
      exact .archive (Publishing.plan_of_archive (by rw [htext, hclass]))
    | package a =>
      let u := Publishing.uploadOf settings (Text.utf8 name) a
      have hbase : baseName name = a.basename := (Artifact.classify_eq_package_iff.1 hclass).1.symm
      have hplan : planUploads settings hint [Text.utf8 name] = ⟨[u], [], []⟩ :=
        Publishing.plan_of_classify (by rw [htext, hclass])
      have hname : Publishing.storedName settings a = baseName name ++
          a.parameters settings.component ++ ";publish=" ++ Publishing.publishFlag a := by
        rw [hbase]
        rfl
      have htarget : u.target = "/content/" ++ settings.owner ++ "/" ++ u.repository ++ "/" ++
          settings.package ++ "/" ++ u.version ++ "/" ++ a.directory settings.package ++ "/" ++
            baseName name ++ a.parameters settings.component ++ ";publish=" ++
              Publishing.publishFlag a := by
        simp only [u, Publishing.uploadOf, hname, String.append_assoc]
      have hflag : Publishing.publishFlag a = "0" ∨ Publishing.publishFlag a = "1" := by
        unfold Publishing.publishFlag
        split
        · exact .inr rfl
        · exact .inl rfl
      have hforetells := Foretells.upload hplan htarget hflag
      rw [verdictLine_of_package hclass, ← hbase]
      exact hforetells

/-- No line is broken where neither the settings nor the name hold a line break. -/
theorem oneLine_verdictLine (hsettings : settings.WithinLines) {name : String}
    (hname : OneLine name.toList) :
    OneLine (verdictLine (verdict settings hint name)).text.toList := by
  have hfile : OneLine (Artifact.fileName name) := fun c hc =>
    hname c (Artifact.fileName_subset name hc)
  have hbase : OneLine (baseName name).toList := by rwa [baseName, String.toList_ofList]
  cases hclass : Artifact.classify name hint with
  | error e =>
    rw [verdictLine_of_error hclass]
    exact oneLine_report .warning (Artifact.Error.oneLine_message fun text htext =>
      hfile.of_isInfix (Artifact.texts_of_classify hclass text htext))
  | ok c =>
    cases c with
    | archive basename =>
      rw [verdictLine_of_archive hclass]
      refine oneLine_report .info ?_
      rw [String.toList_append, oneLine_append_iff]
      exact ⟨hbase, by decide⟩
    | package a =>
      rw [baseName, ← (Artifact.classify_eq_package_iff.1 hclass).1] at hbase
      have hrepository : OneLine (settings.repositoryFor a.repository).toList := by
        rw [Settings.repositoryFor]
        cases hgiven : settings.repository with
        | none => cases a.repository <;> decide
        | some r => exact hsettings.repository r hgiven
      have hflag : OneLine (Publishing.publishFlag a).toList := by
        unfold Publishing.publishFlag
        split
        · decide
        · decide
      rw [verdictLine_of_package hclass]
      refine oneLine_report .info ?_
      simp only [String.toList_append, oneLine_append_iff]
      exact ⟨⟨⟨⟨⟨⟨⟨⟨⟨hbase, by decide⟩, hrepository⟩, by decide⟩,
        hbase.of_isInfix (Artifact.inside_of_classify hclass).version⟩, by decide⟩,
        Artifact.oneLine_directory hclass hbase hsettings.package⟩,
        Artifact.oneLine_parameters hclass hbase hsettings.component⟩, by decide⟩, hflag⟩

/-! ### Runs -/

/-- The first error is that of the first rejected file. -/
theorem firstError_verdicts (settings : Settings) (hint : Option Repository)
    (names : List String) : firstError (names.map (verdict settings hint)) =
      match (planUploads settings hint (names.map Text.utf8)).rejected with
      | [] => .ok ()
      | (_, e) :: _ => .error (.artifact e) := by
  induction names with
  | nil => rfl
  | cons name rest ih =>
    have hplan : planUploads settings hint ((name :: rest).map Text.utf8) =
        (planUploads settings hint [Text.utf8 name]).append
          (planUploads settings hint (rest.map Text.utf8)) :=
      Publishing.planUploads_append settings hint [Text.utf8 name] _
    have htext := Path.text_utf8 name
    -- a name that is rejected decides, and behind any other the rest does
    rw [hplan, List.map_cons, verdict]
    cases hclass : Artifact.classify name hint with
    | error e =>
      rw [Publishing.plan_of_error (by rw [htext, hclass])]
      rfl
    | ok c =>
      cases c with
      | archive basename =>
        rw [Publishing.plan_of_archive (by rw [htext, hclass])]
        exact ih
      | package a =>
        rw [Publishing.plan_of_classify (by rw [htext, hclass])]
        exact ih

/-- Classifying prints the line of each name and ends in the first error; the server is not asked.
-/
theorem play_classifyFiles {σ : Type} (reply : σ → Request → Reply × σ) (server : σ)
    (names : List String) :
    let verdicts := names.map (verdict settings hint)
    play reply server (classifyFiles settings hint names) =
      ⟨firstError verdicts, verdicts.map verdictLine, server⟩ := by
  intro verdicts
  rw [classifyFiles, play_bind, play_sayAll]
  simp only [play, List.append_nil]
  rfl

/-- So does the program, whose exit code is that of this error. -/
theorem play_run {σ : Type} (reply : σ → Request → Reply × σ) (server : σ) {env : Environment}
    {tree : FileTree} (hload : Settings.load env tree = .ok settings) {args names : List String}
    (hargs : Command.ofArguments args = .ok (.classify names hint)) :
    let lines := names.map fun name => verdictLine (verdict settings hint name)
    play reply server (run env tree args) =
      match (planUploads settings hint (names.map Text.utf8)).rejected with
      | [] => ⟨0, lines, server⟩
      | (_, e) :: _ => ⟨3, lines ++ [Report.error e.message], server⟩ := by
  intro lines
  have hrun : run env tree args = (classifyFiles settings hint names).bind finish := by
    rw [run, hargs]
    show (execute env tree (.classify names hint)).bind finish = _
    rw [execute, hload]
    rfl
  rw [hrun, play_bind, play_classifyFiles, firstError_verdicts, List.map_map]
  cases (planUploads settings hint (names.map Text.utf8)).rejected with
  | nil =>
    simp only [finish, play, List.append_nil]
    rfl
  | cons first more => rfl

/-- What a plan rejects is a name that was given, with the error of its classification. -/
theorem classify_of_rejected {names : List String} {file : Path} {e : Artifact.Error}
    (h : (file, e) ∈ (planUploads settings hint (names.map Text.utf8)).rejected) :
    ∃ name ∈ names, Artifact.classify name hint = .error e := by
  obtain ⟨fate, hfate, hrejected⟩ := List.mem_filterMap.1 h
  obtain ⟨path, hpath, rfl⟩ := List.mem_map.1 hfate
  obtain ⟨name, hname, rfl⟩ := List.mem_map.1 hpath
  refine ⟨name, hname, ?_⟩
  rw [Publishing.fate, Path.text_utf8] at hrejected
  cases hclass : Artifact.classify name hint with
  | error e' =>
    rw [hclass] at hrejected
    cases hrejected
    rfl
  | ok c =>
    rw [hclass] at hrejected
    cases c <;> cases hrejected

/-- **Classifying foretells publishing.** Any files can be asked for, with any hint. Where the
settings can be loaded, each file is told of in one line, in order: a package with the place that
it is uploaded to, an archive, or a warning. Nothing is sent. The program ends well if a plan of
these files rejects none, and else with the error of the first one that it rejects. -/
theorem classifying_foretells {σ : Type} (reply : σ → Request → Reply × σ) (server : σ)
    {env : Environment} {tree : FileTree} (hload : Settings.load env tree = .ok settings)
    {names : List String} (hnames : names ≠ []) (hint : Option Repository) :
    (∃ args, Command.ofArguments args = .ok (.classify names hint)) ∧
    ∀ args, Command.ofArguments args = .ok (.classify names hint) →
      let played := play reply server (run env tree args)
      let rejected := (planUploads settings hint (names.map Text.utf8)).rejected
      played.server = server ∧
      (∃ said, List.Forall₂ (Foretells settings hint) names said ∧
        ((rejected = [] ∧ played.answer = 0 ∧ played.lines = said) ∨
          ∃ file e more, rejected = (file, e) :: more ∧ played.answer = 3 ∧
            played.lines = said ++ [Report.error e.message])) ∧
      (settings.WithinLines → (∀ name ∈ names, OneLine name.toList) →
        ∀ line ∈ played.lines, OneLine line.text.toList) := by
  refine ⟨⟨_, ofArguments_classify hnames hint⟩, fun args hargs => ?_⟩
  intro played rejected
  let said := names.map fun name => verdictLine (verdict settings hint name)
  have hplayed : played = match rejected with
      | [] => ⟨0, said, server⟩
      | (_, e) :: _ => ⟨3, said ++ [Report.error e.message], server⟩ :=
    play_run reply server hload hargs
  have hsaid : List.Forall₂ (Foretells settings hint) names said := by
    rw [List.forall₂_map_right_iff, List.forall₂_same]
    exact fun name _ => foretells_verdict settings hint name
  have hlines (hsettings : settings.WithinLines) (hall : ∀ name ∈ names, OneLine name.toList) :
      ∀ line ∈ said, OneLine line.text.toList := by
    intro line hline
    obtain ⟨name, hname, rfl⟩ := List.mem_map.1 hline
    exact oneLine_verdictLine hsettings (hall name hname)
  cases hrejected : rejected with
  | nil =>
    rw [hrejected] at hplayed
    rw [hplayed]
    exact ⟨rfl, ⟨said, hsaid, .inl ⟨rfl, rfl, rfl⟩⟩, hlines⟩
  | cons first more =>
    obtain ⟨file, e⟩ := first
    have hfirst : (file, e) ∈ rejected := hrejected ▸ List.mem_cons_self
    rw [hrejected] at hplayed
    rw [hplayed]
    refine ⟨rfl, ⟨said, hsaid, .inr ⟨file, e, more, rfl, rfl, rfl⟩⟩, ?_⟩
    intro hsettings hall line hline
    rcases List.mem_append.1 hline with hline | hline
    · exact hlines hsettings hall line hline
    · obtain rfl := List.mem_singleton.1 hline
      obtain ⟨name, hname, hclass⟩ := classify_of_rejected hfirst
      exact oneLine_report .error (Artifact.Error.oneLine_message fun text htext c hc =>
        hall name hname c (Artifact.fileName_subset name
          ((Artifact.texts_of_classify hclass text htext).subset hc)))

/-- A name without an extension that tells, a package and an archive, to a repository that takes
the place of all others. -/
theorem classifying_foretells_mixed :
    let env : Environment := fun name => if name = "BINTRAY_REPO" then some "staging" else none
    let names := ["demo.deb", "dist/demo_1.0-1_ubuntu20.04.amd64.deb", "demo.tar.gz"]
    let played := play (fun (n : Nat) _ => (.lost, n + 1)) 0
      (run env secretFile ("classify" :: names))
    played.answer = 3 ∧ played.server = 0 ∧
    (∃ said, List.Forall₂ (Foretells { repository := some "staging" } none) names said ∧
      played.lines = said ++
        [Report.error "demo.deb: cannot determine repository for '.deb' package"]) ∧
    ∀ line ∈ played.lines, OneLine line.text.toList := by
  intro env names played
  have hload : Settings.load env secretFile = .ok { repository := some "staging" } :=
    eq_ok_of_toOption (by decide +kernel)
  have hargs : Command.ofArguments ("classify" :: names) = .ok (.classify names none) :=
    eq_ok_of_toOption (by decide +kernel)
  have hne : names ≠ [] := List.cons_ne_nil _ _
  obtain ⟨hserver, ⟨said, hsaid, hend⟩, hlines⟩ :=
    (classifying_foretells (fun (n : Nat) _ => (.lost, n + 1)) 0 hload hne none).2 _ hargs
  have hdemo : Artifact.classify "demo.deb" none = .error (.unknownFamily "demo.deb" ".deb") := by
    rfl
  have hplan := Publishing.planUploads_append { repository := some "staging" } none
    [Text.utf8 "demo.deb"] (names.tail.map Text.utf8)
  rw [Publishing.plan_of_error (by rw [Path.text_utf8, hdemo])] at hplan
  have hwithin : ({ repository := some "staging" } : Settings).WithinLines :=
    ⟨by decide, by decide, by decide⟩
  have hfirst := congrArg UploadPlan.rejected hplan
  rcases hend with ⟨hnone, -⟩ | ⟨file, e, more, hrejected, hcode, hlast⟩
  · exact absurd (hfirst.symm.trans hnone) (List.cons_ne_nil _ _)
  · have hpair := (List.cons.inj (hfirst.symm.trans hrejected)).1
    obtain rfl : .unknownFamily "demo.deb" ".deb" = e := congrArg Prod.snd hpair
    exact ⟨hcode, hserver, ⟨said, hsaid, hlast⟩, hlines hwithin (by decide)⟩

end Packages
end Program
end Courier
