import Courier.Proofs.Artifact.Detection
import Courier.Publishing.Plan
import Courier.Retention.Key

/-! What retention makes of the packages that are uploaded.

A file is classified when it is uploaded, by its path and a hint, and again when it is pruned, by
its base name alone. Both see the same stem (`splitExtension_basename`), so what decides is the
family of the repository: within a family a stem tells the same of every artifact, and read as a
name of the other family it is of another group, since a version does not start like a distribution
(`IsDebian.group_ne`). Packages that only a hint makes packages of have no key. -/
namespace Courier

theorem Repository.not_isDebianFamily {r : Repository} (h : r.isRpmFamily = true) :
    r.isDebianFamily = false := by
  cases r <;> first | rfl | cases h

/-- Whether two repositories take packages of the same kind. -/
def Repository.SameFamily (r s : Repository) : Prop :=
  r.isDebianFamily = s.isDebianFamily ∧ r.isRpmFamily = s.isRpmFamily

namespace Artifact

/-! ### Base names -/

/-- In front of the last dot in the stem of a package there is something. -/
theorem Tells.stem_eq {stem : List Char} {a : Artifact} (h : Tells stem a) :
    ∃ c front arch, stem = c :: front ++ '.' :: arch ∧ '.' ∉ arch := by
  obtain ⟨front, arch, hstem, harch, hfront⟩ : ∃ front arch, stem = front ++ '.' :: arch ∧
      '.' ∉ arch ∧ front ≠ [] := by
    rcases h with ⟨-, d, h⟩ | ⟨-, release, dist, h⟩
    · exact ⟨a.name.toList ++ '_' :: (a.version.toList ++ '_' :: d.name.toList), _,
        by simp [h.stem_eq], h.arch_free, by simp⟩
    · exact ⟨a.name.toList ++ '-' :: (a.version.toList ++ '.' :: dist.toList), _,
        by simp [h.stem_eq], h.arch_free, by simp⟩
  obtain ⟨c, front, rfl⟩ := List.exists_cons_of_ne_nil hfront
  exact ⟨c, front, arch, hstem, harch⟩

/-- The name of a package file has an extension, as there is a dot in its stem. -/
theorem Tells.name_eq {name : List Char} {a : Artifact} (h : Tells (splitExtension name).1 a) :
    ∃ c stem extension, name = c :: stem ++ '.' :: extension ∧ '.' ∉ extension := by
  rcases hcut : Text.cutLast '.' name with _ | ⟨_ | ⟨c, stem⟩, extension⟩
  · rw [splitExtension, hcut] at h
    obtain ⟨c, front, arch, rfl, harch⟩ := h.stem_eq
    exact ⟨c, front, arch, rfl, harch⟩
  · rw [splitExtension, hcut] at h
    obtain ⟨c, front, arch, rfl, harch⟩ := h.stem_eq
    exact ⟨c, front, arch, rfl, harch⟩
  · obtain ⟨rfl, hfree⟩ := Text.cutLast_eq_some_iff.1 hcut
    exact ⟨c, stem, extension, rfl, hfree⟩

/-- The base name alone has the stem that the path has, if it does not start with a blank; of the
extension blanks at the end go. -/
theorem splitExtension_basename {path : String} {a : Artifact}
    (h : Tells (splitExtension (fileName path)).1 a)
    (hblank : ∀ c ∈ (fileName path).head?, Text.isBlank c = false) :
    ∃ extension, (splitExtension (fileName path)).2 = '.' :: extension ∧
      splitExtension (fileName (String.ofList (fileName path))) =
        ((splitExtension (fileName path)).1, '.' :: Text.trimEnd extension) := by
  obtain ⟨c, stem, extension, hname, hfree⟩ := h.name_eq
  rw [fileName_basename]
  rw [hname] at hblank ⊢
  have hc : Text.isBlank c = false := hblank c rfl
  have htrim : Text.trim (c :: stem ++ '.' :: extension) =
      c :: stem ++ '.' :: Text.trimEnd extension := by
    rw [List.cons_append, Text.trim_cons hc, Text.trimEnd_append_cons (by decide)]
    rfl
  have hfree' : '.' ∉ Text.trimEnd extension := fun hin =>
    hfree (List.mem_reverse.1 ((List.dropWhile_sublist _).subset (List.mem_reverse.1 hin)))
  rw [htrim, splitExtension_of_cut hfree, splitExtension_of_cut hfree']
  exact ⟨extension, rfl, rfl⟩

/-! ### Groups -/

theorem IsDebian.group_eq {stem : List Char} {d : Distribution} {a : Artifact}
    (h : IsDebian stem d a) :
    a.group.toList = a.name.toList ++ '_' :: (d.name.toList ++ '.' :: a.arch.toList) := by
  simp only [group, h.family, String.toList_append, List.append_assoc]
  rfl

theorem IsRpm.group_eq {stem : List Char} {release dist : String} {a : Artifact}
    (h : IsRpm stem release dist a) :
    a.group.toList = a.name.toList ++ '.' :: (dist.toList ++ '.' :: a.arch.toList) := by
  simp only [group, h.family, String.toList_append, List.append_assoc]
  rfl

theorem start_of_known {d : Distribution} (h : d ∈ Distribution.known) :
    ∃ c rest, d.name.toList = c :: rest ∧ Version.startsNumber c = false ∧ c ≠ '.' := by
  simp only [Distribution.known, List.mem_cons, List.not_mem_nil, or_false] at h
  rcases h with rfl | rfl | rfl | rfl | rfl <;> exact ⟨_, _, rfl, by decide, by decide⟩

/-- One stem, read as a name of either family. -/
theorem IsDebian.group_ne {stem : List Char} {d : Distribution} {release dist : String}
    {a b : Artifact} (ha : IsDebian stem d a) (hb : IsRpm stem release dist b) :
    a.group ≠ b.group := by
  intro hgroup
  have hgroups := congrArg String.toList hgroup
  have hstems := ha.stem_eq.symm.trans hb.stem_eq
  rw [ha.group_eq, hb.group_eq] at hgroups
  rcases Text.append_cons_eq_append_cons_iff.1 hgroups with
    ⟨-, hsep, -⟩ | ⟨more, hname, hdist⟩ | ⟨more, hname, -⟩
  · cases hsep
  · -- the other name is longer: it goes on with what the distribution starts with
    rw [hname, List.append_assoc, List.append_cancel_left_eq] at hstems
    have hversion := (List.cons.inj hstems).2
    obtain ⟨c, _, hd, hc, hdot⟩ := start_of_known ha.known
    obtain ⟨v, _, hv, hstart⟩ := Version.parse?_start ha.number
    rw [hd] at hdist
    rw [hv] at hversion
    rcases more with _ | ⟨x, more⟩
    · exact hdot (List.cons.inj hdist).1
    · have hcx : c = x := (List.cons.inj hdist).1
      have hvx : v = x := (List.cons.inj hversion).1
      rw [hvx, ← hcx, hc] at hstart
      cases hstart
  · rw [hname, List.append_assoc, List.append_cancel_left_eq] at hstems
    simp at hstems

/-! ### Families -/

/-- What a stem tells of an artifact it tells whichever repository of the family it goes to. -/
theorem Tells.congr {stem : List Char} {a : Artifact} {r : Repository} (h : Tells stem a)
    (hfamily : r.SameFamily a.repository) (file : String) :
    Tells stem { a with basename := file, repository := r } := by
  rcases h with ⟨hdebian, d, h⟩ | ⟨hrpm, release, dist, h⟩
  · exact .inl ⟨hfamily.1.trans hdebian, d, h.stem_eq, h.name_free, h.arch_free, h.arch_ne, h.known,
      h.number, h.family⟩
  · exact .inr ⟨hfamily.2.trans hrpm, release, dist, h.stem_eq, h.version_eq, h.release_free,
      h.dist_free, h.arch_free, h.number, h.family⟩

/-- Two artifacts of one stem and one group are of one family. -/
theorem Tells.sameFamily {stem : List Char} {a b : Artifact} (ha : Tells stem a)
    (hb : Tells stem b) (hgroup : a.group = b.group) : b.repository.SameFamily a.repository := by
  rcases ha with ⟨ha, d, hdebian⟩ | ⟨ha, release, dist, hrpm⟩ <;>
    rcases hb with ⟨hb, d', hdebian'⟩ | ⟨hb, release', dist', hrpm'⟩
  · exact ⟨hb.trans ha.symm, (Repository.not_isRpmFamily hb).trans
      (Repository.not_isRpmFamily ha).symm⟩
  · exact absurd hgroup (hdebian.group_ne hrpm')
  · exact absurd hgroup.symm (hdebian'.group_ne hrpm)
  · exact ⟨(Repository.not_isDebianFamily hb).trans (Repository.not_isDebianFamily ha).symm,
      hb.trans ha.symm⟩

/-- The repository that a name is for without a hint. -/
def detected (name : String) : Option Repository :=
  let cut := splitExtension (fileName name)
  detect cut.1 cut.2

/-- Without a hint a package is what its name is detected as, and says. -/
theorem classify_none_iff {name : String} {a : Artifact} :
    classify name none = .ok (.package a) ↔ a.basename = String.ofList (fileName name) ∧
      detected name = some a.repository ∧ Tells (splitExtension (fileName name)).1 a := by
  rw [classify_eq_package_iff, Option.none_or, detected]

/-- What detection says of the path of a package it says of its base name. -/
theorem detected_basename {path : String} {a : Artifact}
    (h : classify path none = .ok (.package a))
    (hblank : ∀ c ∈ (fileName path).head?, Text.isBlank c = false) :
    detected (String.ofList (fileName path)) = some a.repository := by
  obtain ⟨-, hdetect, htells⟩ := classify_none_iff.1 h
  rw [detected] at hdetect
  obtain ⟨extension, hextension, hsplit⟩ := splitExtension_basename htells hblank
  have hpackage : '.' :: extension = ".deb".toList ∨ '.' :: extension = ".rpm".toList := by
    rw [← hextension]
    rcases htells with ⟨hdebian, -⟩ | ⟨hrpm, -⟩
    · exact .inl (detect_debian hdetect hdebian).1
    · exact .inr (detect_rpm hdetect hrpm).1
  have htrim : Text.trimEnd extension = extension := by
    rcases hpackage with h | h <;> (rw [(List.cons.inj h).2]; decide)
  rw [detected, hsplit, htrim, ← hextension]
  exact hdetect

end Artifact

namespace Publishing

open Artifact (classify detected)
open Retention (Key versionKey)

/-- A file has the key of the package that its name alone makes it. -/
theorem ofFile?_eq_some_iff {name : String} {k : Key} :
    Key.ofFile? name = some k ↔
      ∃ b, classify name none = .ok (.package b) ∧ Key.ofArtifact b = k := by
  unfold Key.ofFile?
  constructor
  · intro h
    split at h
    · next b hb => exact ⟨b, hb, Option.some.inj h⟩
    · cases h
  · rintro ⟨b, hb, rfl⟩
    rw [hb]

/-- What is uploaded are the files that are packages under the hint. -/
theorem mem_uploads_iff {settings : Settings} {hint : Option Repository} {files : List Path}
    {u : Upload} : u ∈ (planUploads settings hint files).uploads ↔
      ∃ file ∈ files, ∃ a, classify file.text hint = .ok (.package a) ∧
        u = uploadOf settings file a := by
  rw [planUploads, List.mem_filterMap]
  simp only [List.mem_map, exists_exists_and_eq_and]
  refine exists_congr fun file => and_congr_right fun _ => ?_
  rw [fate]
  rcases classify file.text hint with e | a | basename
  · simp
  · simp [eq_comm]
  · simp

/-- A package has the key of its artifact just when its base name is detected to be one of the
family that it was uploaded as. -/
theorem key_basename_iff {path : String} {hint : Option Repository} {a : Artifact}
    (h : classify path hint = .ok (.package a))
    (hblank : ∀ c ∈ a.basename.toList.head?, Text.isBlank c = false) :
    Key.ofFile? a.basename = some ⟨a.group, versionKey a.version⟩ ↔
      ∃ r, detected a.basename = some r ∧ r.SameFamily a.repository := by
  obtain ⟨hfile, -, htells⟩ := Artifact.classify_eq_package_iff.1 h
  rw [hfile, String.toList_ofList] at hblank
  obtain ⟨extension, -, hsplit⟩ := Artifact.splitExtension_basename htells hblank
  rw [← hfile] at hsplit
  rw [ofFile?_eq_some_iff]
  constructor
  · rintro ⟨b, hb, hkey⟩
    obtain ⟨-, hdetect, htells'⟩ := Artifact.classify_none_iff.1 hb
    rw [hsplit] at htells'
    exact ⟨b.repository, hdetect, htells.sameFamily htells' (congrArg Key.group hkey).symm⟩
  · rintro ⟨r, hdetect, hfamily⟩
    let file := String.ofList (Artifact.fileName a.basename)
    have htells' := htells.congr hfamily file
    rw [← congrArg Prod.fst hsplit] at htells'
    have hb : classify a.basename none =
        .ok (.package { a with basename := file, repository := r }) :=
      Artifact.classify_none_iff.2 ⟨rfl, hdetect, htells'⟩
    exact ⟨_, hb, by simp only [Key.ofArtifact, Artifact.group]⟩

/-- **What retention makes of uploads.** A package that is uploaded has the key of its artifact if
its base name is detected to be one of the same family, and in particular if there was no hint. It
has no key at all if nothing, or an archive, is detected. -/
theorem uploads_are_managed {settings : Settings} {hint : Option Repository} {files : List Path}
    {u : Upload} (h : u ∈ (planUploads settings hint files).uploads) :
    ∃ a, classify u.file.text hint = .ok (.package a) ∧ u = uploadOf settings u.file a ∧
      ((∀ c ∈ a.basename.toList.head?, Text.isBlank c = false) →
        (Key.ofFile? a.basename = some ⟨a.group, versionKey a.version⟩ ↔
          ∃ r, detected a.basename = some r ∧ r.SameFamily a.repository) ∧
        (hint = none → Key.ofFile? a.basename = some ⟨a.group, versionKey a.version⟩)) ∧
      (detected a.basename = none ∨ detected a.basename = some .tar →
        Key.ofFile? a.basename = none) := by
  obtain ⟨file, -, a, ha, rfl⟩ := mem_uploads_iff.1 h
  refine ⟨a, ha, rfl, fun hblank => ⟨key_basename_iff ha hblank, ?_⟩, ?_⟩
  · rintro rfl
    refine (key_basename_iff ha hblank).2 ⟨a.repository, ?_, rfl, rfl⟩
    have hfile := (Artifact.classify_eq_package_iff.1 ha).1
    rw [hfile, String.toList_ofList] at hblank
    rw [hfile]
    exact Artifact.detected_basename ha hblank
  · intro hdetected
    refine Option.eq_none_iff_forall_ne_some.2 fun k hk => ?_
    obtain ⟨b, hb, -⟩ := ofFile?_eq_some_iff.1 hk
    obtain ⟨-, hdetect, htells⟩ := Artifact.classify_none_iff.1 hb
    rcases hdetected with hnone | htar
    · rw [hnone] at hdetect
      cases hdetect
    · rw [htar] at hdetect
      rw [Artifact.Tells, ← Option.some.inj hdetect] at htells
      rcases htells with ⟨hfamily, -⟩ | ⟨hfamily, -⟩ <;> cases hfamily

def asciiPath (text : String) : Path := text.toList.map fun c => UInt8.ofNat c.toNat

theorem text_asciiPath {text : String} (h : text.toList.all (·.toNat < 0x80) = true) :
    (asciiPath text).text = text := by
  have hascii : ∀ c ∈ text.toList, c.toNat < 0x80 := by simpa using h
  rw [Path.text, asciiPath, Text.lossy_ascii hascii, String.ofList_toList]

/-- What a file is uploaded as, computed from its name. -/
theorem upload_of_toOption (text : String) (hint : Option Repository) (a : Artifact)
    (hascii : text.toList.all (·.toNat < 0x80) = true)
    (hclass : (classify text hint).toOption = some (.package a)) :
    uploadOf {} (asciiPath text) a ∈ (planUploads {} hint [asciiPath text]).uploads ∧
      classify (asciiPath text).text hint = .ok (.package a) := by
  have ha : classify (asciiPath text).text hint = .ok (.package a) := by
    rw [text_asciiPath hascii]
    exact eq_ok_of_toOption hclass
  exact ⟨mem_uploads_iff.2 ⟨_, List.mem_singleton_self _, a, ha, rfl⟩, ha⟩

/-- A package for Ubuntu that is uploaded as one for Debian. -/
theorem uploads_are_managed_other_release :
    let name := "demo_1.0-1_ubuntu20.04.amd64.deb"
    ∃ u ∈ (planUploads {} (some .debian) [asciiPath name]).uploads, u.repository = "debian" ∧
      Key.ofFile? name = some ⟨"demo_ubuntu20.04.amd64", versionKey "1.0-1"⟩ := by
  intro name
  let a : Artifact :=
    { basename := name, repository := .debian, name := "demo", version := "1.0-1", arch := "amd64",
      number := ⟨1, 0, "", some "1"⟩, family := .debian ⟨"ubuntu20.04", "focal"⟩ }
  obtain ⟨hu, ha⟩ : uploadOf {} (asciiPath name) a ∈
      (planUploads {} (some .debian) [asciiPath name]).uploads ∧ _ :=
    upload_of_toOption name (some .debian) a (by decide +kernel) (by decide +kernel)
  obtain ⟨b, hb, -, hkey, -⟩ := uploads_are_managed hu
  have hab : b = a := by
    have hboth := hb.symm.trans ha
    cases hboth
    rfl
  rw [hab] at hkey
  have hhead : name.toList.head? = some 'd' := by decide +kernel
  have hblank : ∀ c ∈ name.toList.head?, Text.isBlank c = false := by
    intro c hc
    rw [hhead] at hc
    cases hc
    rfl
  refine ⟨_, hu, rfl, ?_⟩
  exact (hkey hblank).1.2 ⟨.ubuntu, by decide +kernel, rfl, rfl⟩

/-- A package that a hint alone makes one, which has no key, and one with a blank in front of its
base name, which has the key of another group. -/
theorem uploads_without_their_key :
    (∃ u ∈ (planUploads {} (some .rhel) [asciiPath "demo-1.0-1.el7.x86_64.rpm"]).uploads, ∃ a,
      classify u.file.text (some .rhel) = .ok (.package a) ∧ Key.ofFile? a.basename = none) ∧
    ∃ u ∈ (planUploads {} none [asciiPath "build/ demo_1.0-1_ubuntu20.04.amd64.deb"]).uploads, ∃ a,
      classify u.file.text none = .ok (.package a) ∧
      ∃ k, Key.ofFile? a.basename = some k ∧ k.group ≠ a.group := by
  constructor
  · let a : Artifact :=
      { basename := "demo-1.0-1.el7.x86_64.rpm", repository := .rhel, name := "demo",
        version := "1.0-1", arch := "x86_64", number := ⟨1, 0, "", some "1"⟩,
        family := .rpm "1" "el7" }
    obtain ⟨hu, ha⟩ := upload_of_toOption "demo-1.0-1.el7.x86_64.rpm" (some .rhel) a
      (by decide +kernel) (by decide +kernel)
    exact ⟨_, hu, a, ha, by decide +kernel⟩
  · let a : Artifact :=
      { basename := " demo_1.0-1_ubuntu20.04.amd64.deb", repository := .ubuntu, name := " demo",
        version := "1.0-1", arch := "amd64", number := ⟨1, 0, "", some "1"⟩,
        family := .debian ⟨"ubuntu20.04", "focal"⟩ }
    obtain ⟨hu, ha⟩ := upload_of_toOption "build/ demo_1.0-1_ubuntu20.04.amd64.deb" none a
      (by decide +kernel) (by decide +kernel)
    exact ⟨_, hu, a, ha, ⟨"demo_ubuntu20.04.amd64", versionKey "1.0-1"⟩, by decide +kernel,
      by decide +kernel⟩

end Publishing
end Courier
