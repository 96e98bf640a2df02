import Courier.Proofs.Artifact.Detection

/-! The grammar of RPM package names.

A stem is put together from name, version, release, dist tag and architecture. The name takes all
that is left, whatever hyphens and dots are in it; the other parts are free of the separators by
which they are found from the end (`RpmName.Proper`), so that there is one way at most to read a
stem (`RpmName.Proper.eq_of_stem_eq`). Under a hint for one of the RPM repositories these stems are
all that is accepted. Without one a marker has to be in the stem as well, and there are stems that
have none; any other name is refused (`rpm_names`). -/
namespace Courier.Artifact

/-! ### Proper names -/

/-- The stem that a name is written as. -/
def RpmName.stem (n : RpmName) : List Char :=
  n.name ++ '-' :: (n.version ++ '-' :: (n.release ++ '.' :: (n.dist ++ '.' :: n.arch)))

/-- The version of a package is that of the program with the release behind it. -/
def RpmName.fullVersion (n : RpmName) : List Char := n.version ++ '-' :: n.release

/-- Names that packages can have. -/
structure RpmName.Proper (n : RpmName) : Prop where
  version_free : '-' ∉ n.version
  release_free : '-' ∉ n.release ∧ '.' ∉ n.release
  dist_free : '-' ∉ n.dist
  arch_free : '.' ∉ n.arch
  version : (Version.parse? (String.ofList n.fullVersion)).isSome

/-- The name of an RPM package has these parts. -/
structure IsNamed (a : Artifact) (n : RpmName) : Prop where
  name : a.name = String.ofList n.name
  version : a.version = String.ofList n.fullVersion
  arch : a.arch = String.ofList n.arch
  family : a.family = .rpm (String.ofList n.release) (String.ofList n.dist)

/-- An artifact has one name. -/
theorem IsNamed.unique {a : Artifact} {n m : RpmName} (hn : a.IsNamed n) (hm : a.IsNamed m) :
    n = m := by
  have hname : n.name = m.name := String.ofList_inj.1 (hn.name.symm.trans hm.name)
  have harch : n.arch = m.arch := String.ofList_inj.1 (hn.arch.symm.trans hm.arch)
  have hfamily := hn.family.symm.trans hm.family
  rw [Family.rpm.injEq, String.ofList_inj, String.ofList_inj] at hfamily
  obtain ⟨hrelease, hdist⟩ := hfamily
  have hfull : n.fullVersion = m.fullVersion :=
    String.ofList_inj.1 (hn.version.symm.trans hm.version)
  rw [RpmName.fullVersion, RpmName.fullVersion, hrelease] at hfull
  have hversion : n.version = m.version := List.append_cancel_right hfull
  cases n
  cases m
  simp only [RpmName.mk.injEq]
  exact ⟨hname, hversion, hrelease, hdist, harch⟩

/-- Reading gives back the parts that a stem was properly put together from. -/
theorem RpmName.Proper.read {n : RpmName} (h : n.Proper) : readRpmName n.stem = .ok n :=
  readRpmName_eq_ok_iff.2
    ⟨rfl, h.version_free, h.release_free.1, h.release_free.2, h.dist_free, h.arch_free⟩

/-- There is only one way to read a stem. -/
theorem RpmName.Proper.eq_of_stem_eq {n m : RpmName} (hn : n.Proper) (hm : m.Proper)
    (h : n.stem = m.stem) : n = m :=
  Except.ok.inj (hn.read.symm.trans ((congrArg readRpmName h).trans hm.read))

/-- An artifact that a stem tells is named by proper parts that make up the stem. -/
theorem IsRpm.named {stem : List Char} {release dist : String} {a : Artifact}
    (h : IsRpm stem release dist a) : ∃ n : RpmName, n.Proper ∧ n.stem = stem ∧ a.IsNamed n := by
  obtain ⟨program, hversion, hprogram⟩ := h.version_eq
  let n : RpmName := ⟨a.name.toList, program, release.toList, dist.toList, a.arch.toList⟩
  have hfull : String.ofList n.fullVersion = a.version := by
    rw [RpmName.fullVersion, ← hversion, String.ofList_toList]
  have hproper : n.Proper :=
    { version_free := hprogram
      release_free := h.release_free
      dist_free := h.dist_free
      arch_free := h.arch_free
      version := by rw [hfull, h.number, Option.isSome_some] }
  have hnamed : a.IsNamed n :=
    { name := String.ofList_toList.symm
      version := hfull.symm
      arch := String.ofList_toList.symm
      family := by rw [h.family, String.ofList_toList, String.ofList_toList] }
  refine ⟨n, hproper, ?_, hnamed⟩
  rw [h.stem_eq, hversion, RpmName.stem, List.append_assoc, List.cons_append]

/-- Conversely an artifact that proper parts name is told by their stem. -/
theorem IsNamed.isRpm {a : Artifact} {n : RpmName} (h : a.IsNamed n) (hn : n.Proper)
    (hnumber : Version.parse? a.version = some a.number) :
    IsRpm n.stem (String.ofList n.release) (String.ofList n.dist) a := by
  have hversion : a.version.toList = n.version ++ '-' :: n.release := by
    rw [h.version, String.toList_ofList, RpmName.fullVersion]
  refine ⟨?_, ⟨n.version, ?_, hn.version_free⟩, ?_, ?_, ?_, hnumber, h.family⟩
  · rw [hversion, h.name, h.arch, RpmName.stem]
    simp only [String.toList_ofList, List.append_assoc, List.cons_append]
  · rw [hversion, String.toList_ofList]
  · rw [String.toList_ofList]
    exact hn.release_free
  · rw [String.toList_ofList]
    exact hn.dist_free
  · rw [h.arch, String.toList_ofList]
    exact hn.arch_free

/-- The package of a proper name. -/
theorem RpmName.Proper.artifact {n : RpmName} (h : n.Proper) (file : String) (r : Repository) :
    ∃ a : Artifact, a.basename = file ∧ a.repository = r ∧ a.IsNamed n ∧
      Version.parse? a.version = some a.number := by
  obtain ⟨number, hnumber⟩ := Option.isSome_iff_exists.1 h.version
  let a : Artifact :=
    { basename := file, repository := r, name := String.ofList n.name
      version := String.ofList n.fullVersion, arch := String.ofList n.arch, number
      family := .rpm (String.ofList n.release) (String.ofList n.dist) }
  exact ⟨a, rfl, rfl, ⟨rfl, rfl, rfl, rfl⟩, hnumber⟩

/-! ### Stems and their repositories -/

/-- A name in two: the extension starts at the last dot, unless that is in front. -/
inductive CutsInto : (name stem extension : List Char) → Prop where
  | extended {stem extension} : stem ≠ [] → '.' ∉ extension →
      CutsInto (stem ++ '.' :: extension) stem ('.' :: extension)
  | whole {name} : '.' ∉ name.tail → CutsInto name name []

theorem cutsInto_splitExtension (name : List Char) :
    CutsInto name (splitExtension name).1 (splitExtension name).2 := by
  unfold splitExtension
  split
  · next c stem extension h =>
    obtain ⟨rfl, hfree⟩ := Text.cutLast_eq_some_iff.1 h
    exact .extended (List.cons_ne_nil _ _) hfree
  · next hnone =>
    apply CutsInto.whole
    cases hcut : Text.cutLast '.' name with
    | none => exact fun hin => Text.cutLast_eq_none_iff.1 hcut (List.mem_of_mem_tail hin)
    | some cut =>
      obtain ⟨stem, extension⟩ := cut
      obtain ⟨rfl, hfree⟩ := Text.cutLast_eq_some_iff.1 hcut
      cases stem with
      | nil => exact hfree
      | cons c stem => exact absurd hcut (hnone c stem extension)

/-- One of the markers of RPM packages is in a stem, and not first at its start. -/
def Marked (stem : List Char) : Prop :=
  ∃ m ∈ rpmMarkers, m.1.toList <:+: stem ∧ ¬m.1.toList <+: stem

theorem isSome_findMarker_iff {stem : List Char} :
    (findMarker rpmMarkers stem).isSome ↔ Marked stem := by
  rw [findMarker, Option.isSome_map, List.find?_isSome]
  simp only [Text.occursInside_iff, Marked]

theorem isRpmFamily_of_findMarker {stem : List Char} {r : Repository}
    (h : findMarker rpmMarkers stem = some r) : r.isRpmFamily = true := by
  have hall : ∀ m ∈ rpmMarkers, m.2.isRpmFamily = true := by decide
  exact of_findMarker hall h

section

variable {path : String} {hint : Option Repository} {stem extension : List Char}
  (hhint : ∀ r ∈ hint, r.isRpmFamily = true) (hextension : hint = none → extension = ".rpm".toList)
include hextension

/-- Where there is no hint the markers of RPM packages are asked. -/
theorem asked_eq :
    hint.or (detect stem extension) = hint.or (findMarker rpmMarkers stem) := by
  cases hint with
  | none =>
    rw [hextension rfl]
    rfl
  | some r => rfl

/-- A repository is known under any hint, and without one when the stem is marked. -/
theorem exists_asked_iff :
    (∃ r, hint.or (detect stem extension) = some r) ↔ (hint = none → Marked stem) := by
  rw [asked_eq hextension, ← Option.isSome_iff_exists]
  cases hint with
  | none => simp [isSome_findMarker_iff]
  | some r => simp

include hhint

theorem isRpmFamily_of_asked {r : Repository} (h : hint.or (detect stem extension) = some r) :
    r.isRpmFamily = true := by
  rw [asked_eq hextension] at h
  cases hint with
  | none => exact isRpmFamily_of_findMarker h
  | some s =>
    obtain rfl : s = r := Option.some.inj h
    exact hhint s rfl

/-! ### Classification -/

/-- What becomes of a name that is to be that of an RPM package. -/
theorem classify_rpm (hsplit : splitExtension (fileName path) = (stem, extension))
    {c : Classification} : classify path hint = .ok c ↔ ∃ a n, c = .package a ∧ a.IsNamed n ∧
      n.Proper ∧ n.stem = stem ∧ a.basename = String.ofList (fileName path) ∧
      Version.parse? a.version = some a.number ∧
      hint.or (detect stem extension) = some a.repository := by
  cases c with
  | package a =>
    rw [classify_eq_package_iff, hsplit]
    constructor
    · intro h
      obtain ⟨hfile, hasked, ⟨hdebian, -⟩ | ⟨-, release, dist, h⟩⟩ := h
      · have hrpm := isRpmFamily_of_asked hhint hextension hasked
        rw [Repository.not_isRpmFamily hdebian] at hrpm
        cases hrpm
      · obtain ⟨n, hproper, hstem, hnamed⟩ := h.named
        exact ⟨a, n, rfl, hnamed, hproper, hstem, hfile, h.number, hasked⟩
    · intro h
      obtain ⟨b, n, hab, hnamed, hproper, rfl, hfile, hnumber, hasked⟩ := h
      cases hab
      exact ⟨hfile, hasked, .inr ⟨isRpmFamily_of_asked hhint hextension hasked, _, _,
        hnamed.isRpm hproper hnumber⟩⟩
  | archive basename =>
    simp only [reduceCtorEq, false_and, exists_false, iff_false]
    intro h
    rw [classify_eq_archive_iff, hsplit] at h
    obtain ⟨-, r, hasked, -, hfamily⟩ := h
    rw [isRpmFamily_of_asked hhint hextension hasked] at hfamily
    cases hfamily

end

/-- **The names of RPM packages.** In any directory, a base name under a hint for an RPM repository,
or with the extension and no hint, is that of a package with given parts just when these are proper
and its stem is written with them, and without a hint a marker is in it. No other parts are; the
repository is that of the hint or else that of the marker; and every other name is refused. -/
theorem rpm_names {dir name : List Char} {hint : Option Repository}
    (hdir : dir = [] ∨ dir.getLast? = some '/') (hne : name ≠ []) (hdot : name ≠ ['.'])
    (hdots : name ≠ ['.', '.']) (hslash : '/' ∉ name) (htrim : Text.trim name = name)
    (hhint : ∀ r ∈ hint, r.isRpmFamily = true)
    (hextension : hint = none → (splitExtension name).2 = ".rpm".toList) :
    let stem := (splitExtension name).1
    let answer := classify (String.ofList (dir ++ name)) hint
    CutsInto name stem (splitExtension name).2 ∧
    (∀ n : RpmName, (∃ a, answer = .ok (.package a) ∧ a.IsNamed n) ↔
      n.Proper ∧ n.stem = stem ∧ (hint = none → Marked stem)) ∧
    (∀ n m : RpmName, n.Proper → n.stem = stem → m.Proper → m.stem = stem → n = m) ∧
    (∀ c, answer = .ok c → ∃ a n, c = .package a ∧ a.IsNamed n ∧
      a.basename = String.ofList name ∧ Version.parse? a.version = some a.number ∧
      hint.or (findMarker rpmMarkers stem) = some a.repository) ∧
    ((∀ n : RpmName, n.Proper → n.stem = stem → ¬(hint = none → Marked stem)) →
      ∃ e, answer = .error e) := by
  intro stem answer
  have hname : fileName (String.ofList (dir ++ name)) = name :=
    fileName_append hdir hslash hne hdot hdots htrim
  have hsplit : splitExtension (fileName (String.ofList (dir ++ name))) =
      (stem, (splitExtension name).2) := by rw [hname]
  have hclass {c : Classification} := classify_rpm hhint hextension hsplit (c := c)
  rw [hname] at hclass
  have hmarked : (∃ r, hint.or (detect stem (splitExtension name).2) = some r) ↔
      (hint = none → Marked stem) := exists_asked_iff hextension
  refine ⟨cutsInto_splitExtension name, fun n => ⟨?_, ?_⟩, ?_, ?_, ?_⟩
  · intro h
    obtain ⟨a, ha, hn⟩ := h
    obtain ⟨b, m, hab, hm, hproper, hstem, -, -, hasked⟩ := hclass.1 ha
    cases hab
    obtain rfl : n = m := hn.unique hm
    exact ⟨hproper, hstem, hmarked.1 ⟨_, hasked⟩⟩
  · intro h
    obtain ⟨hproper, hstem, hmarker⟩ := h
    obtain ⟨r, hasked⟩ := hmarked.2 hmarker
    obtain ⟨a, hfile, rfl, hnamed, hnumber⟩ := hproper.artifact (String.ofList name) r
    exact ⟨a, hclass.2 ⟨a, n, rfl, hnamed, hproper, hstem, hfile, hnumber, hasked⟩, hnamed⟩
  · intro n m hn hnstem hm hmstem
    exact hn.eq_of_stem_eq hm (hnstem.trans hmstem.symm)
  · intro c hc
    obtain ⟨a, n, rfl, hnamed, -, -, hfile, hnumber, hasked⟩ := hclass.1 hc
    rw [asked_eq hextension] at hasked
    exact ⟨a, n, rfl, hnamed, hfile, hnumber, hasked⟩
  · intro hnone
    cases hc : answer with
    | error e => exact ⟨e, rfl⟩
    | ok c =>
      obtain ⟨a, n, -, -, hproper, hstem, -, -, hasked⟩ := hclass.1 hc
      exact absurd (hmarked.1 ⟨_, hasked⟩) (hnone n hproper hstem)

/-- Hyphens and dots in the name, and dots in the dist tag. -/
def dottedName : RpmName :=
  ⟨"lib-x.y".toList, "1.0.2".toList, "3".toList, "el7.7.centos".toList, "x86_64".toList⟩

/-- A package in a directory, which a marker tells, and one that is refused for want of a marker. -/
theorem rpm_names_dotted :
    dottedName.Proper ∧
    (∃ a, classify "build/lib-x.y-1.0.2-3.el7.7.centos.x86_64.rpm" none = .ok (.package a) ∧
      a.IsNamed dottedName) ∧
    (∃ a, classify "demo-1.0-1.el7.x86_64.rpm" (some .rhel) = .ok (.package a) ∧
      a.IsNamed ⟨"demo".toList, "1.0".toList, "1".toList, "el7".toList, "x86_64".toList⟩) ∧
    ∃ e, classify "demo-1.0-1.el7.x86_64.rpm" none = .error e := by
  have hdotted : dottedName.Proper :=
    ⟨by decide, by decide, by decide, by decide, by decide⟩
  have hdemo : RpmName.Proper
      ⟨"demo".toList, "1.0".toList, "1".toList, "el7".toList, "x86_64".toList⟩ :=
    ⟨by decide, by decide, by decide, by decide, by decide⟩
  have hmarked : Marked dottedName.stem := ⟨(".centos", .centos), by decide, by decide +kernel⟩
  have hunmarked : ¬Marked "demo-1.0-1.el7.x86_64".toList := by
    unfold Marked
    decide +kernel
  obtain ⟨-, hin, -⟩ := @rpm_names "build/".toList
    "lib-x.y-1.0.2-3.el7.7.centos.x86_64.rpm".toList none (.inr (by decide)) (by decide)
    (by decide) (by decide) (by decide) (by decide) nofun (fun _ => by decide)
  obtain ⟨-, hhinted, -⟩ := @rpm_names [] "demo-1.0-1.el7.x86_64.rpm".toList (some .rhel)
    (.inl rfl) (by decide) (by decide) (by decide) (by decide) (by decide) (by decide) nofun
  obtain ⟨-, -, -, -, hout⟩ := @rpm_names [] "demo-1.0-1.el7.x86_64.rpm".toList none
    (.inl rfl) (by decide) (by decide) (by decide) (by decide) (by decide) nofun
    (fun _ => by decide)
  exact ⟨hdotted, (hin dottedName).2 ⟨hdotted, by decide, fun _ => hmarked⟩,
    (hhinted _).2 ⟨hdemo, by decide, nofun⟩, hout fun _ _ _ h => hunmarked (h rfl)⟩

end Courier.Artifact
