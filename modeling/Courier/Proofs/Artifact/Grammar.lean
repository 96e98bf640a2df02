import Courier.Proofs.Artifact.Detection

/-! The grammar of Debian package names.

A stem is put together from name, version, distribution and architecture. Those that a package can
have (`DebianName.Proper`) are the ones that reading gives back, so there is one way at most to read
a stem (`Proper.eq_of_stem_eq`). Detection looks for a marker in the stem first, and it finds one in
each that is put together properly: the distribution stands behind an underscore and is one of
Ubuntu or of Debian, and the marker of it cannot be at the very start, as a version does not start
with a letter (`IsDebian.detected`). So the names of Debian packages are just these stems with their
extension, in any directory; every other name with the extension is refused (`debian_names`). -/
namespace Courier.Artifact

/-! ### Proper names -/

/-- The stem that a name is written as. -/
def DebianName.stem (n : DebianName) : List Char :=
  n.name ++ '_' :: (n.version ++ '_' :: (n.distribution ++ '.' :: n.arch))

/-- Names that packages can have. -/
structure DebianName.Proper (n : DebianName) : Prop where
  name_free : '_' ∉ n.name
  version : (Version.parse? (String.ofList n.version)).isSome
  known : ∃ d ∈ Distribution.known, d.name.toList = n.distribution
  arch_ne : n.arch ≠ []
  arch_free : '.' ∉ n.arch

/-- The parts of its name that a Debian package has. -/
def debianName? (a : Artifact) : Option DebianName :=
  match a.family with
  | .debian d => some ⟨a.name.toList, a.version.toList, d.name.toList, a.arch.toList⟩
  | .rpm _ _ => none

/-- Reading gives back the parts that a stem was properly put together from. -/
theorem DebianName.Proper.read {n : DebianName} (h : n.Proper) :
    readDebianName n.stem = .ok n := by
  obtain ⟨d, hd, hname⟩ := h.known
  exact readDebianName_eq_ok_iff.2
    ⟨rfl, h.name_free, hname ▸ underscore_free_of_known hd, h.arch_free, h.arch_ne⟩

/-- There is only one way to read a stem. -/
theorem DebianName.Proper.eq_of_stem_eq {n m : DebianName} (hn : n.Proper) (hm : m.Proper)
    (h : n.stem = m.stem) : n = m :=
  Except.ok.inj (hn.read.symm.trans ((congrArg readDebianName h).trans hm.read))

theorem IsDebian.debianName?_eq {stem : List Char} {d : Distribution} {a : Artifact}
    (h : IsDebian stem d a) : a.debianName? =
      some ⟨a.name.toList, a.version.toList, d.name.toList, a.arch.toList⟩ := by
  simp only [debianName?, h.family]

/-- The parts of an artifact that a stem tells are proper, and make up the stem. -/
theorem IsDebian.proper {stem : List Char} {d : Distribution} {a : Artifact}
    (h : IsDebian stem d a) : ∃ n, a.debianName? = some n ∧ n.Proper ∧ n.stem = stem :=
  ⟨_, h.debianName?_eq,
    ⟨h.name_free, by simp [h.number], ⟨d, h.known, rfl⟩, h.arch_ne, h.arch_free⟩,
    h.stem_eq.symm⟩

/-- The package of a proper name. -/
theorem DebianName.Proper.isDebian {n : DebianName} (h : n.Proper) (file : String)
    (r : Repository) : ∃ d a, a.basename = file ∧ a.repository = r ∧ a.debianName? = some n ∧
      IsDebian n.stem d a := by
  obtain ⟨d, hknown, hd⟩ := h.known
  obtain ⟨number, hnumber⟩ := Option.isSome_iff_exists.1 h.version
  let a : Artifact :=
    { basename := file, repository := r, name := String.ofList n.name
      version := String.ofList n.version, arch := String.ofList n.arch, number,
      family := .debian d }
  refine ⟨d, a, rfl, rfl, ?_, ?_, ?_, ?_, ?_, hknown, hnumber, rfl⟩
  · simp only [debianName?, a, String.toList_ofList, hd]
  · simp only [DebianName.stem, a, String.toList_ofList, hd]
  · simpa [a] using h.name_free
  · simpa [a] using h.arch_free
  · simpa [a] using h.arch_ne

/-! ### Detection -/

/-- The marker that a distribution starts with is found behind the underscore in front of it. -/
theorem occursInside_of_distribution {stem : List Char} {d : Distribution} {a : Artifact}
    (h : IsDebian stem d a) {c : Char} {word : List Char} (hc : Version.startsNumber c = false)
    (hunderscore : '_' ∉ c :: word) (hdot : '.' ∉ c :: word) (hd : c :: word <+: d.name.toList) :
    Text.occursInside ('_' :: c :: word) stem = true :=
  Text.occursInside_iff.2 ⟨(h.infix_iff hc hunderscore hdot).2 (.inl hd),
    h.not_in_front hc hunderscore⟩

/-- **Detection refuses no Debian package.** -/
theorem IsDebian.detected {stem : List Char} {d : Distribution} {a : Artifact}
    (h : IsDebian stem d a) :
    ∃ r, detect stem ".deb".toList = some r ∧ r.isDebianFamily = true := by
  have hdetect : detect stem ".deb".toList = findMarker debianMarkers stem := rfl
  rw [hdetect, debianMarkers, findMarker_cons, findMarker_cons]
  by_cases hubuntu : Text.occursInside "_ubuntu".toList stem = true
  · exact ⟨.ubuntu, if_pos hubuntu, rfl⟩
  · have hdebian : "debian".toList <+: d.name.toList := (not_ubuntu_iff h.known).1 fun hd =>
      hubuntu (occursInside_of_distribution h (by decide) (by decide) (by decide) hd)
    have hmarker : Text.occursInside "_debian".toList stem = true :=
      occursInside_of_distribution h (by decide) (by decide) (by decide) hdebian
    exact ⟨.debian, by rw [if_neg hubuntu, if_pos hmarker], rfl⟩

/-- Whatever its name, a properly put together Debian stem is detected. -/
theorem DebianName.Proper.detected {n : DebianName} (h : n.Proper) :
    ∃ r, detect n.stem ".deb".toList = some r ∧ r.isDebianFamily = true := by
  -- detection sees the stem only, so that the package may be of any file and repository
  obtain ⟨d, a, -, -, -, hdebian⟩ := h.isDebian "" .debian
  exact hdebian.detected

/-! ### Classification -/

/-- The base name of a Debian package. -/
def debianFile (stem : List Char) : List Char := stem ++ ".deb".toList

theorem splitExtension_debianFile {stem : List Char} (h : stem ≠ []) :
    splitExtension (debianFile stem) = (stem, ".deb".toList) := by
  obtain ⟨c, stem, rfl⟩ := List.exists_cons_of_ne_nil h
  exact splitExtension_of_cut (by decide)

/-- A Debian file name is found again behind any directory. -/
theorem fileName_debianFile {dir stem : List Char} (hdir : dir = [] ∨ dir.getLast? = some '/')
    (hne : stem ≠ []) (hslash : '/' ∉ stem)
    (htrim : Text.trim (debianFile stem) = debianFile stem) :
    fileName (String.ofList (dir ++ debianFile stem)) = debianFile stem := by
  obtain ⟨c, rest, rfl⟩ := List.exists_cons_of_ne_nil hne
  refine fileName_append hdir ?_ (List.cons_ne_nil _ _) ?_ ?_ htrim
  · rw [debianFile, List.mem_append, not_or]
    exact ⟨hslash, by decide⟩
  · exact fun h => absurd (congrArg List.length h) (by simp [debianFile])
  · exact fun h => absurd (congrArg List.length h) (by simp [debianFile])

theorem isDebianFamily_of_detect {stem : List Char} {r : Repository}
    (h : detect stem ".deb".toList = some r) : r.isDebianFamily = true := by
  have hall : ∀ m ∈ debianMarkers, m.2.isDebianFamily = true := by decide
  exact of_findMarker hall h

/-- What becomes of a name with the extension of Debian packages. -/
theorem classify_debianFile {path : String} {stem : List Char}
    (hname : fileName path = debianFile stem) (hne : stem ≠ []) {c : Classification} :
    classify path none = .ok c ↔ ∃ a d, c = .package a ∧
      a.basename = String.ofList (debianFile stem) ∧
      detect stem ".deb".toList = some a.repository ∧ IsDebian stem d a := by
  have hsplit := splitExtension_debianFile hne
  cases c with
  | package a =>
    rw [classify_eq_package_iff, hname, hsplit, Option.none_or]
    constructor
    · rintro ⟨hfile, hdetect, ⟨-, d, h⟩ | ⟨hrpm, -⟩⟩
      · exact ⟨a, d, rfl, hfile, hdetect, h⟩
      · have hdebian := Repository.not_isRpmFamily (isDebianFamily_of_detect hdetect)
        rw [hrpm] at hdebian
        cases hdebian
    · rintro ⟨b, d, hab, hfile, hdetect, h⟩
      cases hab
      exact ⟨hfile, hdetect, .inl ⟨isDebianFamily_of_detect hdetect, d, h⟩⟩
  | archive basename =>
    simp only [reduceCtorEq, false_and, exists_false, iff_false]
    intro h
    rw [classify_eq_archive_iff, hname, hsplit, Option.none_or] at h
    obtain ⟨-, r, hdetect, hfamily, -⟩ := h
    rw [isDebianFamily_of_detect hdetect] at hfamily
    cases hfamily

/-- **The names of Debian packages.** In any directory, a name with the extension is that of
a package with given parts just when these are proper and its stem is written with them; no other
parts are, the codename is the one of the distribution, and the marker that detection goes by is
there. Every other name with the extension is refused. -/
theorem debian_names {dir stem : List Char} (hdir : dir = [] ∨ dir.getLast? = some '/')
    (hne : stem ≠ []) (hslash : '/' ∉ stem)
    (htrim : Text.trim (debianFile stem) = debianFile stem) :
    let answer := classify (String.ofList (dir ++ debianFile stem)) none
    (∀ n, (∃ a, answer = .ok (.package a) ∧ a.debianName? = some n) ↔ n.Proper ∧ n.stem = stem) ∧
    (∀ n m : DebianName, n.Proper → n.stem = stem → m.Proper → m.stem = stem → n = m) ∧
    (∀ c, answer = .ok c → ∃ a n d, c = .package a ∧ a.debianName? = some n ∧
      a.basename = String.ofList (debianFile stem) ∧
      Version.parse? (String.ofList n.version) = some a.number ∧
      Distribution.find? (String.ofList n.distribution) = some d ∧ a.family = .debian d) ∧
    (∀ n : DebianName, n.Proper → n.stem = stem → (detect stem ".deb".toList).isSome) ∧
    ((∀ n : DebianName, n.Proper → n.stem ≠ stem) → ∃ e, answer = .error e) := by
  intro answer
  have hname := fileName_debianFile hdir hne hslash htrim
  have hclass {c : Classification} := classify_debianFile hname hne (c := c)
  refine ⟨fun n => ⟨?_, ?_⟩, ?_, ?_, ?_, ?_⟩
  · rintro ⟨a, ha, hn⟩
    obtain ⟨b, d, hab, -, -, h⟩ := hclass.1 ha
    cases hab
    obtain ⟨m, hm, hproper, hstem⟩ := h.proper
    obtain rfl : n = m := Option.some.inj (hn.symm.trans hm)
    exact ⟨hproper, hstem⟩
  · rintro ⟨hproper, rfl⟩
    obtain ⟨r, hdetect, -⟩ := hproper.detected
    obtain ⟨d, a, hfile, rfl, hn, h⟩ :=
      hproper.isDebian (String.ofList (debianFile n.stem)) r
    exact ⟨a, hclass.2 ⟨a, d, rfl, hfile, hdetect, h⟩, hn⟩
  · intro n m hn hnstem hm hmstem
    exact hn.eq_of_stem_eq hm (hnstem.trans hmstem.symm)
  · intro c hc
    obtain ⟨a, d, rfl, hfile, -, h⟩ := hclass.1 hc
    refine ⟨a, _, d, rfl, h.debianName?_eq, hfile, ?_, ?_, h.family⟩
    · rw [String.ofList_toList]
      exact h.number
    · rw [String.ofList_toList]
      exact Distribution.find?_eq_some_iff.2 ⟨h.known, rfl⟩
  · rintro n hproper rfl
    obtain ⟨r, hdetect, -⟩ := hproper.detected
    exact Option.isSome_iff_exists.2 ⟨r, hdetect⟩
  · intro hnone
    cases hc : answer with
    | error e => exact ⟨e, rfl⟩
    | ok c =>
      obtain ⟨a, d, -, -, -, h⟩ := hclass.1 hc
      obtain ⟨n, -, hproper, hstem⟩ := h.proper
      exact absurd hstem (hnone n hproper)

/-- A version and an architecture with separators in them. -/
def crowdedName : DebianName :=
  ⟨"demo".toList, "1.0-1_debian.2".toList, "ubuntu18.04".toList, "amd64_v3".toList⟩

theorem debian_names_crowded :
    crowdedName.Proper ∧
    ∃ a, classify "build/demo_1.0-1_debian.2_ubuntu18.04.amd64_v3.deb" none = .ok (.package a) ∧
      a.debianName? = some crowdedName := by
  have hproper : crowdedName.Proper :=
    ⟨by decide, by decide, by decide, by decide, by decide⟩
  have h := @debian_names "build/".toList crowdedName.stem (.inr (by decide)) (by decide)
    (by decide) (by decide)
  exact ⟨hproper, (h.1 crowdedName).2 ⟨hproper, rfl⟩⟩

end Courier.Artifact
