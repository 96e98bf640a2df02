import Courier.Proofs.Publishing.Managed
import Courier.Proofs.Url.Literal
import Courier.Proofs.Version.NormalForm

/-! Places of uploads, and the names that they are made of.

All that a place takes from a file is its base name and parts of that (`inside_of_classify`). What
stands between these is literal, and so is the series of a version. Where the settings are plain,
then, a place is literal just when the base name is bare and no dist tag leads back
(`literal_target_iff`). -/
namespace Courier

open Url (Bare Literal Piece isMark literal_append_slash_iff)

/-! ### Series -/

/-- Letters, digits, and what stands between them in the name of a series. -/
def isTame (c : Char) : Bool := c.isAlphanum || c = '.' || c = '-'

/-- Tame text is written as it is, and leads nowhere else. -/
theorem piece_of_tame {cs : List Char} (h : cs.all isTame = true) : Piece cs := by
  have hne {c d : Char} (hc : c ∈ cs) (hd : isTame d = false) : c ≠ d := by
    rintro rfl
    exact absurd (List.all_eq_true.1 h c hc) (by simp [hd])
  refine ⟨Url.bare_of_forall fun c hc => ⟨hne hc (by decide), ?_⟩, fun hin => ?_⟩
  · simp only [isMark, Url.isIgnored, Bool.or_eq_false_iff, decide_eq_false_iff_not]
    exact ⟨⟨⟨hne hc (by decide), hne hc (by decide)⟩, hne hc (by decide)⟩,
      ⟨hne hc (by decide), hne hc (by decide)⟩, hne hc (by decide)⟩
  · exact hne hin (by decide) rfl

namespace Version

theorem tame_number (n : Nat) : (toString n).toList.all isTame = true := by
  refine List.all_eq_true.2 fun c hc => ?_
  simp [isTame, Char.isAlphanum, isDigit_of_mem_number hc]

theorem tame_numbers (major minor : Nat) : (s!"{major}.{minor}").toList.all isTame = true := by
  have hdot : isTame '.' = true := by decide
  rw [toList_numbers, List.all_append, List.all_cons, tame_number, tame_number, hdot]
  rfl

/-- The directory of a version is tame in every repository. -/
theorem tame_directory (v : Version) (r : Repository) :
    (v.directory r).toList.all isTame = true := by
  unfold directory
  split
  · rw [String.toList_append, List.all_append, tame_numbers, Bool.true_and]
    split
    · decide
    · decide
  · decide

theorem tame_component (v : Version) : v.component.toList.all isTame = true := by
  unfold component
  split
  · rw [String.toList_append, List.all_append, tame_numbers, Bool.and_true]
    split
    · decide
    · decide
  · decide

/-- The directory of a version is literal: it is tame, and no dots alone. -/
theorem literal_directory (v : Version) (r : Repository) : Literal (v.directory r).toList := by
  obtain ⟨c, hc, hdot⟩ : ∃ c ∈ (v.directory r).toList, c ≠ '.' := by
    unfold directory
    split
    · next major minor _ =>
      have hne : (toString major).toList ≠ [] := by
        rw [toList_number]
        exact Nat.toDigits_ne_nil
      obtain ⟨c, more, hmajor⟩ := List.exists_cons_of_ne_nil hne
      have hc : c ∈ (toString major).toList := hmajor ▸ List.mem_cons_self
      refine ⟨c, ?_, fun h => absurd (h ▸ isDigit_of_mem_number hc) (by decide)⟩
      rw [String.toList_append, toList_numbers]
      exact List.mem_append_left _ (List.mem_append_left _ hc)
    · exact ⟨'t', by decide, by decide⟩
  exact (piece_of_tame (tame_directory v r)).literal_of_mem hc hdot

end Version

namespace Artifact

/-! ### Parts of a base name -/

theorem splitExtension_append (name : List Char) :
    (splitExtension name).1 ++ (splitExtension name).2 = name := by
  unfold splitExtension
  split
  · next c stem extension h => exact (Text.cutLast_eq_some_iff.1 h).1.symm
  · exact List.append_nil name

/-- What the base name of a package holds. -/
structure Inside (a : Artifact) : Prop where
  version : a.version.toList <:+: a.basename.toList
  arch : a.arch.toList <:+: a.basename.toList
  dist : ∀ release dist, a.family = .rpm release dist → dist.toList <:+: a.basename.toList

variable {path : String} {hint : Option Repository} {a : Artifact}

/-- Version, dist tag and architecture of a package stand in its base name. -/
theorem inside_of_classify (h : classify path hint = .ok (.package a)) : a.Inside := by
  obtain ⟨hfile, -, htells⟩ := classify_eq_package_iff.1 h
  have hstem : (splitExtension (fileName path)).1 <:+: a.basename.toList := by
    rw [hfile, String.toList_ofList]
    exact ⟨[], (splitExtension (fileName path)).2, splitExtension_append _⟩
  rcases htells with ⟨-, d, h⟩ | ⟨-, release, dist, h⟩
  · rw [h.stem_eq] at hstem
    refine ⟨.trans ⟨a.name.toList ++ ['_'], '_' :: (d.name.toList ++ '.' :: a.arch.toList), ?_⟩
        hstem,
      .trans ⟨a.name.toList ++ '_' :: (a.version.toList ++ '_' :: (d.name.toList ++ ['.'])), [], ?_⟩
        hstem, fun release dist hfamily => ?_⟩
    · simp
    · simp
    · rw [h.family] at hfamily
      cases hfamily
  · rw [h.stem_eq] at hstem
    refine ⟨.trans ⟨a.name.toList ++ ['-'], '.' :: (dist.toList ++ '.' :: a.arch.toList), ?_⟩ hstem,
      .trans ⟨a.name.toList ++ '-' :: (a.version.toList ++ '.' :: (dist.toList ++ ['.'])), [], ?_⟩
        hstem, fun release' dist' hfamily => ?_⟩
    · simp
    · simp
    · rw [h.family] at hfamily
      cases hfamily
      exact .trans
        ⟨a.name.toList ++ '-' :: (a.version.toList ++ ['.']), '.' :: a.arch.toList, by simp⟩ hstem

/-- The version of a package can be read as one. -/
theorem number_of_classify (h : classify path hint = .ok (.package a)) :
    Version.parse? a.version = some a.number := by
  obtain ⟨-, -, ⟨-, d, h⟩ | ⟨-, release, dist, h⟩⟩ := classify_eq_package_iff.1 h
  · exact h.number
  · exact h.number

/-- A package is of a known distribution, or has an architecture without a dot. -/
theorem family_of_classify (h : classify path hint = .ok (.package a)) :
    (∃ d ∈ Distribution.known, a.family = .debian d) ∨
      ∃ release dist, a.family = .rpm release dist ∧ '.' ∉ a.arch.toList := by
  obtain ⟨-, -, ⟨-, d, h⟩ | ⟨-, release, dist, h⟩⟩ := classify_eq_package_iff.1 h
  · exact .inl ⟨d, h.known, h.family⟩
  · exact .inr ⟨release, dist, h.family, h.arch_free⟩

/-! ### Directories and names as texts -/

/-- The directory of a Debian package, name by name. -/
theorem directory_debian {d : Distribution} (h : a.family = .debian d) (package : String) :
    (a.directory package).toList = "pool".toList ++ '/' ::
      ((a.number.directory a.repository).toList ++ '/' :: package.toList) := by
  have htext : a.directory package =
      "pool/" ++ a.number.directory a.repository ++ "/" ++ package := by
    rw [directory, h]
    rfl
  simp [htext]

/-- The directory of an RPM package, name by name. -/
theorem directory_rpm {release dist : String} (h : a.family = .rpm release dist)
    (package : String) : (a.directory package).toList = "linux".toList ++ '/' ::
      ((a.number.directory a.repository).toList ++ '/' ::
        (dist.toList ++ '/' :: a.arch.toList)) := by
  have htext : a.directory package =
      "linux/" ++ a.number.directory a.repository ++ "/" ++ dist ++ "/" ++ a.arch := by
    rw [directory, h]
    rfl
  simp [htext]

/-- The parameters that a Debian package is uploaded with. -/
theorem parameters_debian {d : Distribution} (h : a.family = .debian d)
    (component : Option String) : (a.parameters component).toList = ';' ::
      ("deb_component".toList ++ '=' :: ((component.getD a.number.component).toList ++ ';' ::
        ("deb_distribution".toList ++ '=' :: (d.codename.toList ++ ';' ::
          ("deb_architecture".toList ++ '=' :: a.arch.toList))))) := by
  have htext : a.parameters component = ";deb_component=" ++
      component.getD a.number.component ++ ";deb_distribution=" ++ d.codename ++
        ";deb_architecture=" ++ a.arch := by
    rw [parameters, h]
    rfl
  simp [htext]

theorem parameters_rpm {release dist : String} (h : a.family = .rpm release dist)
    (component : Option String) : (a.parameters component).toList = [] := by
  rw [parameters, h]
  rfl

end Artifact

namespace Publishing

/-! ### Places -/

/-- Settings of which the texts say in an address what they are. -/
structure Plain (s : Settings) : Prop where
  owner : Literal s.owner.toList
  repository : ∀ r, Literal (s.repositoryFor r).toList
  package : Literal s.package.toList
  component : ∀ c ∈ s.component, Piece c.toList

/-- Whether the dist tag of a package leads back in a path. -/
def HasDotTag (a : Artifact) : Prop :=
  match a.family with
  | .debian _ => False
  | .rpm _ dist => dist = "." ∨ dist = ".."

/-- The last name of a place is the base name, and the parameters with the flag behind it. -/
theorem storedName_eq (settings : Settings) (a : Artifact) : (storedName settings a).toList =
    a.basename.toList ++ ((a.parameters settings.component).toList ++ ';' ::
      ("publish".toList ++ '=' :: (publishFlag a).toList)) := by
  have htext : storedName settings a =
      a.basename ++ a.parameters settings.component ++ ";publish=" ++ publishFlag a := rfl
  simp [htext]

section

variable {settings : Settings} {path : String} {hint : Option Repository} {a : Artifact}

/-- The version of a package is literal if its base name is a piece: it does not start with a dot.
-/
theorem literal_version (ha : Artifact.classify path hint = .ok (.package a))
    (h : Piece a.basename.toList) : Literal a.version.toList := by
  obtain ⟨c, rest, htext, hc⟩ := Version.parse?_start (Artifact.number_of_classify ha)
  have hdot : c ≠ '.' := by
    rintro rfl
    exact absurd hc (by decide)
  exact (h.of_isInfix (Artifact.inside_of_classify ha).version).literal_of_mem
    (htext ▸ List.mem_cons_self) hdot

/-- Only a dist tag can make the directory lead back. -/
theorem literal_directory_iff (hsettings : Plain settings)
    (ha : Artifact.classify path hint = .ok (.package a)) (h : Piece a.basename.toList) :
    Literal (a.directory settings.package).toList ↔ ¬HasDotTag a := by
  have hseries := Version.literal_directory a.number a.repository
  obtain ⟨-, harch, hdist⟩ := Artifact.inside_of_classify ha
  rcases Artifact.family_of_classify ha with ⟨d, -, hfamily⟩ | ⟨release, dist, hfamily, hdot⟩
  · have hpool : Literal "pool".toList := by decide
    rw [Artifact.directory_debian hfamily]
    simp only [literal_append_slash_iff, hpool, hseries, hsettings.package, HasDotTag, hfamily,
      and_self, not_false_eq_true]
  · have hlinux : Literal "linux".toList := by decide
    have harch : Literal a.arch.toList := (h.of_isInfix harch).literal_iff.2
      ⟨fun h => hdot (h ▸ by decide), fun h => hdot (h ▸ by decide)⟩
    have htag : HasDotTag a ↔ dist.toList = ['.'] ∨ dist.toList = ['.', '.'] := by
      simp only [HasDotTag, hfamily, ← String.toList_inj]
      rfl
    rw [Artifact.directory_rpm hfamily]
    simp only [literal_append_slash_iff, hlinux, hseries, harch, and_true, true_and]
    rw [(h.of_isInfix (hdist release dist hfamily)).literal_iff, htag, not_or]

/-- Nothing that stands behind the base name ends the path. -/
theorem piece_storedName (hsettings : Plain settings)
    (ha : Artifact.classify path hint = .ok (.package a)) (h : Piece a.basename.toList) :
    Piece (storedName settings a).toList := by
  have hjoin {xs ys : List Char} (hx : Piece xs) (hy : Piece ys) : Piece (xs ++ ';' :: ys) :=
    hx.append_cons (by decide) (by decide) (by decide) (by decide) hy
  have hset {xs ys : List Char} (hx : Piece xs) (hy : Piece ys) : Piece (xs ++ '=' :: ys) :=
    hx.append_cons (by decide) (by decide) (by decide) (by decide) hy
  have hflag : Piece (publishFlag a).toList := by
    unfold publishFlag
    split
    · decide
    · decide
  have hpublish : Piece ("publish".toList ++ '=' :: (publishFlag a).toList) :=
    hset (by decide) hflag
  rw [storedName_eq]
  rcases Artifact.family_of_classify ha with ⟨d, hd, hfamily⟩ | ⟨release, dist, hfamily, -⟩
  · have hcodename : Piece d.codename.toList :=
      (show ∀ d ∈ Distribution.known, Piece d.codename.toList by decide) d hd
    have hcomponent : Piece (settings.component.getD a.number.component).toList := by
      cases hc : settings.component with
      | none => exact piece_of_tame (Version.tame_component a.number)
      | some c => exact hsettings.component c hc
    have harch := h.of_isInfix (Artifact.inside_of_classify ha).arch
    rw [Artifact.parameters_debian hfamily]
    simp only [List.cons_append, List.append_assoc]
    exact hjoin h (hset (by decide) (hjoin hcomponent (hset (by decide) (hjoin hcodename
      (hset (by decide) (hjoin harch hpublish))))))
  · rw [Artifact.parameters_rpm hfamily]
    exact hjoin h hpublish

/-- The last name of a place is literal just when the base name is bare. -/
theorem literal_storedName_iff (hsettings : Plain settings)
    (ha : Artifact.classify path hint = .ok (.package a)) (hslash : '/' ∉ a.basename.toList) :
    Literal (storedName settings a).toList ↔ Bare a.basename.toList := by
  have hmark : ';' ∈ (storedName settings a).toList := by
    rw [storedName_eq]
    simp
  constructor
  · intro h
    rw [storedName_eq] at h
    exact h.toBare.of_isInfix (List.prefix_append _ _).isInfix
  · intro h
    exact (piece_storedName hsettings ha ⟨h, hslash⟩).literal_of_mem hmark (by decide)

/-- **Which files have literal places**, where the settings are plain. -/
theorem literal_target_iff (hsettings : Plain settings) (file : Path)
    (ha : Artifact.classify path hint = .ok (.package a)) (hslash : '/' ∉ a.basename.toList) :
    Literal (uploadOf settings file a).target.toList ↔ Bare a.basename.toList ∧ ¬HasDotTag a := by
  have htarget : (uploadOf settings file a).target.toList =
      "/content".toList ++ '/' :: (settings.owner.toList ++ '/' ::
        ((settings.repositoryFor a.repository).toList ++ '/' :: (settings.package.toList ++ '/' ::
          (a.version.toList ++ '/' :: ((a.directory settings.package).toList ++ '/' ::
            (storedName settings a).toList))))) := by
    simp [uploadOf]
  have hcontent : Literal "/content".toList := by decide
  rw [htarget]
  simp only [literal_append_slash_iff, hcontent, hsettings.owner, hsettings.repository,
    hsettings.package, true_and]
  rw [literal_storedName_iff hsettings ha hslash]
  constructor
  · rintro ⟨-, hdirectory, hbare⟩
    exact ⟨hbare, (literal_directory_iff hsettings ha ⟨hbare, hslash⟩).1 hdirectory⟩
  · rintro ⟨hbare, htag⟩
    have hpiece : Piece a.basename.toList := ⟨hbare, hslash⟩
    exact ⟨literal_version ha hpiece, (literal_directory_iff hsettings ha hpiece).2 htag, hbare⟩

end

end Publishing
end Courier
