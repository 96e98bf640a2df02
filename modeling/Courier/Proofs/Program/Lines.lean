import Courier.Proofs.Publishing.Places
import Courier.Report

/-! Lines about files.

All that a line about a file quotes comes from the name of that file and from the settings. What an
artifact says stands in its base name (`Artifact.Inside`), and so does what an error quotes
(`texts_of_classify`). So where no name and no setting has a line break, no line has one. -/
namespace Courier

/-! ### Text within a line -/

/-- The characters at which a line ends. -/
def endsLine (c : Char) : Bool := c = '\n' || c = '\r'

/-- Text without line breaks. -/
def OneLine (text : List Char) : Prop := ∀ c ∈ text, endsLine c = false

instance (text : List Char) : Decidable (OneLine text) :=
  List.decidableBAll (fun c => endsLine c = false) text

theorem oneLine_append_iff {xs ys : List Char} :
    OneLine (xs ++ ys) ↔ OneLine xs ∧ OneLine ys := List.forall_mem_append

theorem oneLine_cons_iff {c : Char} {cs : List Char} :
    OneLine (c :: cs) ↔ endsLine c = false ∧ OneLine cs := List.forall_mem_cons

theorem OneLine.of_isInfix {xs ys : List Char} (h : OneLine ys) (hin : xs <:+: ys) : OneLine xs :=
  fun c hc => h c (hin.subset hc)

theorem oneLine_of_tame {cs : List Char} (h : cs.all isTame = true) : OneLine cs := by
  intro c hc
  refine Bool.eq_false_iff.2 fun hends => ?_
  simp only [endsLine, Bool.or_eq_true, decide_eq_true_eq] at hends
  rcases hends with rfl | rfl
  · exact absurd (List.all_eq_true.1 h _ hc) (by decide)
  · exact absurd (List.all_eq_true.1 h _ hc) (by decide)

namespace Artifact

/-! ### What errors quote -/

/-- What an error quotes. -/
def Error.texts : Error → List String
  | .unknownFamily file extension => [file, extension]
  | .unknownDistribution file distribution => [file, distribution]
  | .malformedName file _ => [file]
  | .invalidVersion version => [version]

/-- A message is one line if all that it quotes is. -/
theorem Error.oneLine_message {e : Error} (h : ∀ text ∈ e.texts, OneLine text.toList) :
    OneLine e.message.toList := by
  cases e with
  | unknownFamily file extension =>
    show OneLine (file ++ ": cannot determine repository for '" ++ extension ++ "' package").toList
    simp only [String.toList_append, oneLine_append_iff]
    exact ⟨⟨⟨h _ (by simp [texts]), by decide⟩, h _ (by simp [texts])⟩, by decide⟩
  | unknownDistribution file distribution =>
    show OneLine (file ++ ": unknown distribution '" ++ distribution ++ "'").toList
    simp only [String.toList_append, oneLine_append_iff]
    exact ⟨⟨⟨h _ (by simp [texts]), by decide⟩, h _ (by simp [texts])⟩, by decide⟩
  | malformedName file flaw =>
    show OneLine (file ++ ": malformed package name (" ++ flaw.text ++ ")").toList
    simp only [String.toList_append, oneLine_append_iff]
    exact ⟨⟨⟨h _ (by simp [texts]), by decide⟩, by cases flaw <;> decide⟩, by decide⟩
  | invalidVersion version =>
    show OneLine ("invalid version '" ++ version ++ "'").toList
    simp only [String.toList_append, oneLine_append_iff]
    exact ⟨⟨by decide, h _ (by simp [texts])⟩, by decide⟩

section

variable {file version : String} {r : Repository} {stem : List Char} {e : Error}

theorem readVersion_error (h : readVersion version = .error e) : e.texts = [version] := by
  unfold readVersion at h
  split at h
  · cases h
  · cases h
    rfl

/-- An error of a Debian name quotes the name, or a part of its stem. -/
theorem ofDebian_error (h : ofDebian file r stem = .error e) :
    ∀ text ∈ e.texts, text = file ∨ text.toList <:+: stem := by
  unfold ofDebian at h
  split at h
  · cases h
    simp [Error.texts]
  next parts hparts =>
  obtain ⟨hstem, -⟩ := readDebianName_eq_ok_iff.1 hparts
  split at h
  · have hdist : parts.distribution <:+: stem :=
      ⟨parts.name ++ '_' :: (parts.version ++ ['_']), '.' :: parts.arch, by rw [hstem]; simp⟩
    cases h
    simp [Error.texts, hdist]
  · have hversion : parts.version <:+: stem :=
      ⟨parts.name ++ ['_'], '_' :: (parts.distribution ++ '.' :: parts.arch), by rw [hstem]; simp⟩
    cases hnumber : readVersion (String.ofList parts.version) with
    | ok number =>
      simp only [hnumber] at h
      cases h
    | error e' =>
      simp only [hnumber] at h
      cases h
      simp [readVersion_error hnumber, hversion]

/-- So does an error of an RPM name. -/
theorem ofRpm_error (h : ofRpm file r stem = .error e) :
    ∀ text ∈ e.texts, text = file ∨ text.toList <:+: stem := by
  unfold ofRpm at h
  split at h
  · cases h
    simp [Error.texts]
  next parts hparts =>
  obtain ⟨hstem, -⟩ := readRpmName_eq_ok_iff.1 hparts
  have hversion : parts.version ++ '-' :: parts.release <:+: stem :=
    ⟨parts.name ++ ['-'], '.' :: (parts.dist ++ '.' :: parts.arch), by rw [hstem]; simp⟩
  cases hnumber : readVersion (String.ofList (parts.version ++ '-' :: parts.release)) with
  | ok number =>
    simp only [hnumber] at h
    cases h
  | error e' =>
    simp only [hnumber] at h
    cases h
    simp [readVersion_error hnumber, hversion]

end

/-- An error quotes parts of the base name. -/
theorem texts_of_classify {path : String} {hint : Option Repository} {e : Error}
    (h : classify path hint = .error e) : ∀ text ∈ e.texts, text.toList <:+: fileName path := by
  have happend := splitExtension_append (fileName path)
  have hstem : (splitExtension (fileName path)).1 <:+: fileName path := ⟨[], _, happend⟩
  have hmap {read : Except Error Artifact} (h : read.map Classification.package = .error e) :
      read = .error e := by
    cases read with
    | ok a => cases h
    | error e' =>
      cases h
      rfl
  have hquoted (h : ∀ text ∈ e.texts, text = String.ofList (fileName path) ∨
      text.toList <:+: (splitExtension (fileName path)).1) :
      ∀ text ∈ e.texts, text.toList <:+: fileName path := by
    intro text htext
    rcases h text htext with rfl | hin
    · rw [String.toList_ofList]
    · exact hin.trans hstem
  unfold classify at h
  simp only at h
  split at h
  · have hextension : (splitExtension (fileName path)).2 <:+: fileName path :=
      ⟨_, [], by rw [List.append_nil, happend]⟩
    cases h
    simp [Error.texts, hextension]
  split at h
  · exact hquoted (ofDebian_error (hmap h))
  split at h
  · exact hquoted (ofRpm_error (hmap h))
  · cases h

/-! ### What lines quote -/

section

variable {path : String} {hint : Option Repository} {a : Artifact}

/-- The directory of an artifact is one line if its name and the package are. -/
theorem oneLine_directory (ha : classify path hint = .ok (.package a))
    (hname : OneLine a.basename.toList) {package : String} (hpackage : OneLine package.toList) :
    OneLine (a.directory package).toList := by
  have hslash : endsLine '/' = false := by decide
  have hseries := oneLine_of_tame (Version.tame_directory a.number a.repository)
  obtain ⟨-, harch, hdist⟩ := inside_of_classify ha
  rcases family_of_classify ha with ⟨d, -, hfamily⟩ | ⟨release, dist, hfamily, -⟩
  · rw [directory_debian hfamily]
    simp only [oneLine_append_iff, oneLine_cons_iff]
    exact ⟨by decide, hslash, hseries, hslash, hpackage⟩
  · rw [directory_rpm hfamily]
    simp only [oneLine_append_iff, oneLine_cons_iff]
    exact ⟨by decide, hslash, hseries, hslash, hname.of_isInfix (hdist release dist hfamily),
      hslash, hname.of_isInfix harch⟩

/-- So are the parameters of its upload, if the component is as well. -/
theorem oneLine_parameters (ha : classify path hint = .ok (.package a))
    (hname : OneLine a.basename.toList) {component : Option String}
    (hcomponent : ∀ c ∈ component, OneLine c.toList) :
    OneLine (a.parameters component).toList := by
  rcases family_of_classify ha with ⟨d, hd, hfamily⟩ | ⟨release, dist, hfamily, -⟩
  · have hcodename : OneLine d.codename.toList :=
      (show ∀ d ∈ Distribution.known, OneLine d.codename.toList by decide) d hd
    have hcomponent : OneLine (component.getD a.number.component).toList := by
      cases component with
      | none => exact oneLine_of_tame (Version.tame_component a.number)
      | some c => exact hcomponent c rfl
    have hmark : endsLine ';' = false ∧ endsLine '=' = false := by decide
    rw [parameters_debian hfamily]
    simp only [oneLine_append_iff, oneLine_cons_iff, hmark, true_and]
    exact ⟨by decide, hcomponent, by decide, hcodename, by decide,
      hname.of_isInfix (inside_of_classify ha).arch⟩
  · rw [parameters_rpm hfamily]
    decide

end

end Artifact

/-! ### Printed lines -/

/-- Settings of which the lines about a file quote no line break. -/
structure Settings.WithinLines (s : Settings) : Prop where
  repository : ∀ r ∈ s.repository, OneLine r.toList
  component : ∀ c ∈ s.component, OneLine c.toList
  package : OneLine s.package.toList

theorem oneLine_report (level : Report.Level) {text : String} (h : OneLine text.toList) :
    OneLine (Report.line level text).toList := by
  simp only [Report.line, String.toList_append, oneLine_append_iff]
  exact ⟨⟨by cases level <;> decide, by decide⟩, h⟩

/-- A line without its end. -/
def Output.text : Output → String
  | .out text => text
  | .err text => text

end Courier
