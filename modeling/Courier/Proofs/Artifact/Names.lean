import Courier.Artifact.Classify

/-! What the name of a package says.

A stem is taken apart at separators, and it says the parts that it is put together from: the parts
with their separators are the stem, and as each of them is free of the separators around it there
is only one way to put it together (`readDebianName_eq_ok_iff`, `readRpmName_eq_ok_iff`). `IsDebian`
and `IsRpm` say the same of artifacts. What they say of an artifact leaves out its repository and
the name of its file, which reading only passes on. -/
namespace Courier

namespace Version

/-- What a number can start with. -/
def startsNumber (c : Char) : Bool := Text.isBlank c || c == '+' || c.isDigit

theorem readNumber_start {cs : List Char} {n : Nat} (h : readNumber cs = some n) :
    ∃ c rest, cs = c :: rest ∧ startsNumber c = true := by
  rw [readNumber, Text.readUnsigned, Text.readUpTo_eq] at h
  cases cs with
  | nil => cases h
  | cons c cs =>
    refine ⟨c, cs, rfl, ?_⟩
    by_cases hblank : Text.isBlank c = true
    · simp [startsNumber, hblank]
    rw [Text.trim_cons (Bool.eq_false_iff.2 hblank)] at h
    by_cases hplus : c = '+'
    · simp [startsNumber, hplus]
    have hdrop : Text.dropPlus (c :: Text.trimEnd cs) = c :: Text.trimEnd cs := by
      unfold Text.dropPlus
      split
      · next heq => exact absurd (List.cons.inj heq).1 hplus
      · rfl
    rw [hdrop, Text.readDigits] at h
    by_cases hdigit : c.isDigit = true
    · simp [startsNumber, hdigit]
    · simp [hdigit] at h

/-- What is left when the build is cut off stands at the start of the text. -/
theorem cutBuild_base (cs : List Char) : (cutBuild cs).1 <+: cs := by
  unfold cutBuild
  split
  · next b base build h =>
    obtain ⟨rfl, -⟩ := Text.cutFirst_eq_some_iff.1 h
    exact List.prefix_append _ _
  · exact List.prefix_rfl

theorem parse?_start {text : String} {v : Version} (h : parse? text = some v) :
    ∃ c rest, text.toList = c :: rest ∧ startsNumber c = true := by
  simp only [parse?, Option.map_eq_some_iff] at h
  obtain ⟨numbers, h, -⟩ := h
  unfold readNumbers at h
  split at h
  · cases h
  next major tail hcut =>
  obtain ⟨hbase, -⟩ := Text.cutFirst_eq_some_iff.1 hcut
  cases hmajor : readNumber major with
  | none => simp [hmajor] at h
  | some n =>
    obtain ⟨c, rest, rfl, hc⟩ := readNumber_start hmajor
    obtain ⟨more, hmore⟩ : c :: rest <+: text.toList :=
      (hbase ▸ List.prefix_append _ _).trans (cutBuild_base text.toList)
    exact ⟨c, rest ++ more, hmore.symm, hc⟩

end Version

namespace Distribution

theorem find?_eq_some_iff {name : String} {d : Distribution} :
    find? name = some d ↔ d ∈ known ∧ d.name = name := by
  constructor
  · intro h
    exact ⟨List.mem_of_find?_eq_some h, by simpa using List.find?_some h⟩
  · rintro ⟨hd, rfl⟩
    revert d
    decide

end Distribution

theorem Repository.not_isRpmFamily {r : Repository} (h : r.isDebianFamily = true) :
    r.isRpmFamily = false := by
  cases r <;> first | rfl | cases h

namespace Artifact

open Text (cutFirst cutLast cutFirst_eq_some_iff cutFirst_eq_none_iff cutLast_eq_some_iff)

/-! ### Names -/

/-- Reading a Debian stem gives the parts that make it up again, each free of the separators it was
found by; and any such parts are what reading gives. -/
theorem readDebianName_eq_ok_iff {stem : List Char} {parts : DebianName} :
    readDebianName stem = .ok parts ↔
      stem = parts.name ++ '_' :: (parts.version ++ '_' :: (parts.distribution ++
        '.' :: parts.arch)) ∧
      '_' ∉ parts.name ∧ '_' ∉ parts.distribution ∧ '.' ∉ parts.arch ∧ parts.arch ≠ [] := by
  obtain ⟨name, version, distribution, arch⟩ := parts
  constructor
  · intro h
    unfold readDebianName at h
    split at h
    · cases h
    · cases h
    next base arch' hne hdot =>
    split at h
    · cases h
    next front tail hfront =>
    split at h
    · cases h
    next version' distribution' htail =>
    cases h
    obtain ⟨rfl, hfree⟩ := cutLast_eq_some_iff.1 hdot
    obtain ⟨rfl, hlast⟩ := cutLast_eq_some_iff.1 htail
    cases hcut : cutFirst '_' base with
    | none =>
      -- the tail behind a hyphen holds an underscore, so that there is one to cut at
      rw [hcut, Option.none_or] at hfront
      obtain ⟨rfl, -⟩ := cutFirst_eq_some_iff.1 hfront
      exact absurd (by simp) (cutFirst_eq_none_iff.1 hcut)
    | some cut =>
      rw [hcut, Option.some_or] at hfront
      cases hfront
      obtain ⟨rfl, hfirst⟩ := cutFirst_eq_some_iff.1 hcut
      exact ⟨by simp, hfirst, hlast, hfree, hne⟩
  · rintro ⟨rfl, hfirst, hlast, hfree, hne⟩
    obtain ⟨c, arch, rfl⟩ := List.exists_cons_of_ne_nil hne
    have hdot : cutLast '.' (name ++ '_' :: (version ++ '_' :: (distribution ++ '.' :: (c :: arch))))
        = some (name ++ '_' :: (version ++ '_' :: distribution), c :: arch) :=
      cutLast_eq_some_iff.2 ⟨by simp, hfree⟩
    have hfront : cutFirst '_' (name ++ '_' :: (version ++ '_' :: distribution)) =
        some (name, version ++ '_' :: distribution) := cutFirst_eq_some_iff.2 ⟨rfl, hfirst⟩
    have htail : cutLast '_' (version ++ '_' :: distribution) = some (version, distribution) :=
      cutLast_eq_some_iff.2 ⟨rfl, hlast⟩
    simp only [readDebianName, hdot, hfront, htail, Option.some_or]

/-- The same for an RPM stem, whose parts are found from its end. -/
theorem readRpmName_eq_ok_iff {stem : List Char} {parts : RpmName} :
    readRpmName stem = .ok parts ↔
      stem = parts.name ++ '-' :: (parts.version ++ '-' :: (parts.release ++ '.' :: (parts.dist ++
        '.' :: parts.arch))) ∧
      '-' ∉ parts.version ∧ '-' ∉ parts.release ∧ '.' ∉ parts.release ∧ '-' ∉ parts.dist ∧
      '.' ∉ parts.arch := by
  obtain ⟨name, version, release, dist, arch⟩ := parts
  constructor
  · intro h
    unfold readRpmName at h
    split at h
    · cases h
    next base arch' hdot =>
    split at h
    · cases h
    next front tail htail =>
    split at h
    · cases h
    next name' version' hfront =>
    split at h
    · cases h
    next release' dist' hrest =>
    cases h
    obtain ⟨rfl, harch⟩ := cutLast_eq_some_iff.1 hdot
    obtain ⟨rfl, hhyphen⟩ := cutLast_eq_some_iff.1 htail
    obtain ⟨rfl, hversion⟩ := cutLast_eq_some_iff.1 hfront
    obtain ⟨rfl, hrelease⟩ := cutFirst_eq_some_iff.1 hrest
    simp only [List.mem_append, List.mem_cons, not_or] at hhyphen
    exact ⟨by simp, hversion, hhyphen.1, hrelease, hhyphen.2.2, harch⟩
  · rintro ⟨rfl, hversion, hrelease, hdotfree, hdist, harch⟩
    have hdot : cutLast '.' (name ++ '-' :: (version ++ '-' :: (release ++ '.' :: (dist ++
        '.' :: arch)))) = some (name ++ '-' :: (version ++ '-' :: (release ++ '.' :: dist)), arch) :=
      cutLast_eq_some_iff.2 ⟨by simp, harch⟩
    have htail : cutLast '-' (name ++ '-' :: (version ++ '-' :: (release ++ '.' :: dist))) =
        some (name ++ '-' :: version, release ++ '.' :: dist) :=
      cutLast_eq_some_iff.2 ⟨by simp, by simp only [List.mem_append, List.mem_cons]; grind⟩
    have hfront : cutLast '-' (name ++ '-' :: version) = some (name, version) :=
      cutLast_eq_some_iff.2 ⟨rfl, hversion⟩
    have hrest : cutFirst '.' (release ++ '.' :: dist) = some (release, dist) :=
      cutFirst_eq_some_iff.2 ⟨rfl, hdotfree⟩
    simp only [readRpmName, hdot, htail, hfront, hrest]

/-! ### Artifacts -/

/-- An artifact with all that the stem of a Debian package says. -/
structure IsDebian (stem : List Char) (d : Distribution) (a : Artifact) : Prop where
  stem_eq : stem = a.name.toList ++ '_' :: (a.version.toList ++ '_' :: (d.name.toList ++
    '.' :: a.arch.toList))
  name_free : '_' ∉ a.name.toList
  arch_free : '.' ∉ a.arch.toList
  arch_ne : a.arch.toList ≠ []
  known : d ∈ Distribution.known
  number : Version.parse? a.version = some a.number
  family : a.family = .debian d

/-- An artifact with all that the stem of an RPM package says. Its version is the one of the
program with the release behind it. -/
structure IsRpm (stem : List Char) (release dist : String) (a : Artifact) : Prop where
  stem_eq : stem = a.name.toList ++ '-' :: (a.version.toList ++ '.' :: (dist.toList ++
    '.' :: a.arch.toList))
  version_eq : ∃ program, a.version.toList = program ++ '-' :: release.toList ∧ '-' ∉ program
  release_free : '-' ∉ release.toList ∧ '.' ∉ release.toList
  dist_free : '-' ∉ dist.toList
  arch_free : '.' ∉ a.arch.toList
  number : Version.parse? a.version = some a.number
  family : a.family = .rpm release dist

theorem readVersion_eq_ok_iff {version : String} {number : Version} :
    readVersion version = .ok number ↔ Version.parse? version = some number := by
  unfold readVersion
  cases Version.parse? version <;> simp

theorem underscore_free_of_known {d : Distribution} (h : d ∈ Distribution.known) :
    '_' ∉ d.name.toList := by
  revert d
  decide

/-- A Debian package is read off just the stems that say it, and its file and repository are those
that were passed in. -/
theorem ofDebian_eq_ok_iff {file : String} {repository : Repository} {stem : List Char}
    {a : Artifact} : ofDebian file repository stem = .ok a ↔
      a.basename = file ∧ a.repository = repository ∧ ∃ d, IsDebian stem d a := by
  constructor
  · intro h
    unfold ofDebian at h
    split at h
    · cases h
    next parts hparts =>
    split at h
    · cases h
    next d hd =>
    obtain ⟨hstem, hname, -, harch, hne⟩ := readDebianName_eq_ok_iff.1 hparts
    obtain ⟨hknown, hdist⟩ := Distribution.find?_eq_some_iff.1 hd
    cases hnumber : readVersion (String.ofList parts.version) with
    | error e =>
      simp only [hnumber] at h
      cases h
    | ok number =>
      simp only [hnumber] at h
      cases h
      have hparts : d.name.toList = parts.distribution := by rw [hdist, String.toList_ofList]
      exact ⟨rfl, rfl, d, by simpa [hparts] using hstem, by simpa using hname, by simpa using harch,
        by simpa using hne, hknown, readVersion_eq_ok_iff.1 hnumber, rfl⟩
  · rintro ⟨rfl, rfl, d, h⟩
    have hparts : readDebianName stem =
        .ok ⟨a.name.toList, a.version.toList, d.name.toList, a.arch.toList⟩ :=
      readDebianName_eq_ok_iff.2 ⟨h.stem_eq, h.name_free, underscore_free_of_known h.known,
        h.arch_free, h.arch_ne⟩
    have hd : Distribution.find? d.name = some d :=
      Distribution.find?_eq_some_iff.2 ⟨h.known, rfl⟩
    simp only [ofDebian, hparts, String.ofList_toList, hd, readVersion_eq_ok_iff.2 h.number,
      ← h.family]
    rfl

/-- The same for RPM packages. -/
theorem ofRpm_eq_ok_iff {file : String} {repository : Repository} {stem : List Char}
    {a : Artifact} : ofRpm file repository stem = .ok a ↔
      a.basename = file ∧ a.repository = repository ∧ ∃ release dist, IsRpm stem release dist a := by
  constructor
  · intro h
    unfold ofRpm at h
    split at h
    · cases h
    next parts hparts =>
    obtain ⟨hstem, hversion, hrelease, hdot, hdist, harch⟩ := readRpmName_eq_ok_iff.1 hparts
    cases hnumber : readVersion (String.ofList (parts.version ++ '-' :: parts.release)) with
    | error e =>
      simp only [hnumber] at h
      cases h
    | ok number =>
      simp only [hnumber] at h
      cases h
      exact ⟨rfl, rfl, _, _, by simpa using hstem, ⟨parts.version, by simp, hversion⟩,
        by simpa using ⟨hrelease, hdot⟩, by simpa using hdist, by simpa using harch,
        readVersion_eq_ok_iff.1 hnumber, rfl⟩
  · rintro ⟨rfl, rfl, release, dist, h⟩
    obtain ⟨program, hversion, hprogram⟩ := h.version_eq
    have hparts : readRpmName stem =
        .ok ⟨a.name.toList, program, release.toList, dist.toList, a.arch.toList⟩ :=
      readRpmName_eq_ok_iff.2 ⟨by rw [h.stem_eq, hversion]; simp, hprogram, h.release_free.1,
        h.release_free.2, h.dist_free, h.arch_free⟩
    simp only [ofRpm, hparts, ← hversion, String.ofList_toList, readVersion_eq_ok_iff.2 h.number,
      ← h.family]
    rfl

/-! ### Classification -/

/-- An artifact with all that the stem says to readers of packages for its repository. -/
def Tells (stem : List Char) (a : Artifact) : Prop :=
  (a.repository.isDebianFamily = true ∧ ∃ d, IsDebian stem d a) ∨
    (a.repository.isRpmFamily = true ∧ ∃ release dist, IsRpm stem release dist a)

theorem map_package_eq_ok_iff {read : Except Error Artifact} {a : Artifact} :
    read.map Classification.package = .ok (.package a) ↔ read = .ok a := by
  cases read <;> simp [Except.map]

/-- Classification gives a package when its repository is the hint, or else what is detected, and
the stem says the rest of it. -/
theorem classify_eq_package_iff {path : String} {hint : Option Repository} {a : Artifact} :
    classify path hint = .ok (.package a) ↔
      a.basename = String.ofList (fileName path) ∧
      hint.or (detect (splitExtension (fileName path)).1 (splitExtension (fileName path)).2) =
        some a.repository ∧
      Tells (splitExtension (fileName path)).1 a := by
  unfold classify Tells
  simp only
  generalize fileName path = name
  generalize splitExtension name = cut
  cases hint.or (detect cut.1 cut.2) with
  | none => simp
  | some r =>
    simp only [Option.some.injEq]
    by_cases hdebian : r.isDebianFamily = true
    · have hrpm := Repository.not_isRpmFamily hdebian
      rw [if_pos hdebian, map_package_eq_ok_iff, ofDebian_eq_ok_iff]
      constructor
      · rintro ⟨hfile, rfl, htells⟩
        exact ⟨hfile, rfl, .inl ⟨hdebian, htells⟩⟩
      · rintro ⟨hfile, rfl, ⟨-, htells⟩ | ⟨hfamily, -⟩⟩
        · exact ⟨hfile, rfl, htells⟩
        · rw [hrpm] at hfamily
          cases hfamily
    · rw [if_neg hdebian]
      by_cases hrpm : r.isRpmFamily = true
      · rw [if_pos hrpm, map_package_eq_ok_iff, ofRpm_eq_ok_iff]
        constructor
        · rintro ⟨hfile, rfl, htells⟩
          exact ⟨hfile, rfl, .inr ⟨hrpm, htells⟩⟩
        · rintro ⟨hfile, rfl, ⟨hfamily, -⟩ | ⟨-, htells⟩⟩
          · exact absurd hfamily hdebian
          · exact ⟨hfile, rfl, htells⟩
      · rw [if_neg hrpm]
        simp only [Except.ok.injEq, reduceCtorEq, false_iff]
        rintro ⟨-, rfl, ⟨hfamily, -⟩ | ⟨hfamily, -⟩⟩
        · exact hdebian hfamily
        · exact hrpm hfamily

theorem map_package_ne_archive {read : Except Error Artifact} {basename : String} :
    read.map Classification.package ≠ .ok (.archive basename) := by
  cases read <;> simp [Except.map]

/-- An archive is what goes to a repository of neither family; nothing is read from its stem. -/
theorem classify_eq_archive_iff {path : String} {hint : Option Repository} {basename : String} :
    classify path hint = .ok (.archive basename) ↔ basename = String.ofList (fileName path) ∧
      ∃ r, hint.or (detect (splitExtension (fileName path)).1 (splitExtension (fileName path)).2) =
        some r ∧ r.isDebianFamily = false ∧ r.isRpmFamily = false := by
  unfold classify
  simp only
  generalize fileName path = name
  generalize splitExtension name = cut
  cases hint.or (detect cut.1 cut.2) with
  | none => simp
  | some r =>
    simp only [Option.some.injEq, exists_eq_left']
    by_cases hdebian : r.isDebianFamily = true
    · rw [if_pos hdebian]
      simp [map_package_ne_archive, hdebian]
    · rw [if_neg hdebian]
      by_cases hrpm : r.isRpmFamily = true
      · rw [if_pos hrpm]
        simp [map_package_ne_archive, hrpm]
      · rw [if_neg hrpm, Except.ok.injEq, Classification.archive.injEq]
        constructor
        · intro h
          exact ⟨h.symm, Bool.eq_false_iff.2 hdebian, Bool.eq_false_iff.2 hrpm⟩
        · intro h
          exact h.1.symm

end Artifact
end Courier
