import Courier.Proofs.Publishing.Managed
import Courier.Proofs.Retention.Selection

/-! Which packages share a group.

A group is to hold the files of one build line: packages of one family, name, distribution and
architecture. Its text has these parts one behind the other, and a part may hold the separators.
The architecture is free of them, so it can be told from the rest; what is in front of it can be
cut wrongly in one way only, with the front of one tag read as the end of the other name
(`Line.RunsInto`). Lines that are in one group are equal or one runs into the other
(`Line.group_eq_iff`). A line that does neither with any line of a listing is planned as if it was
alone (`lines_kept_apart`). -/
namespace Courier.Retention

open Artifact (classify)

/-- A build line of packages. The tag is the distribution of Debian packages and the dist tag of
RPM packages. -/
@[ext] structure Line where
  isDebian : Bool
  name : String
  tag : String
  arch : String
  deriving DecidableEq, Repr

/-- The line of an artifact. -/
def Line.ofArtifact (a : Artifact) : Line :=
  match a.family with
  | .debian distribution => ⟨true, a.name, distribution.name, a.arch⟩
  | .rpm _ dist => ⟨false, a.name, dist, a.arch⟩

/-- The build line of a file. -/
def lineOf? (f : RemoteFile) : Option Line := (packageOf? f).map Line.ofArtifact

namespace Line

/-! ### Groups of lines -/

/-- What stands between the name and the tag. -/
def separator (l : Line) : Char := if l.isDebian then '_' else '.'

def group (l : Line) : String :=
  String.ofList (l.name.toList ++ l.separator :: (l.tag.toList ++ '.' :: l.arch.toList))

/-- The name of the second line is that of the first one and the front of its tag, and the tag of
the second line is what is left of that tag. `python3` with the tag `6.fc30` runs into `python3.6`
with the tag `fc30`. -/
def RunsInto (k l : Line) : Prop :=
  k.arch = l.arch ∧ ∃ front, l.name.toList = k.name.toList ++ k.separator :: front ∧
    k.tag.toList = front ++ l.separator :: l.tag.toList

/-- The separators that a name of a file cannot have in its parts. -/
structure Readable (l : Line) : Prop where
  arch_free : '.' ∉ l.arch.toList
  name_free : l.isDebian = true → '_' ∉ l.name.toList

theorem separator_inj {k l : Line} (h : k.separator = l.separator) : k.isDebian = l.isDebian := by
  unfold separator at h
  cases hk : k.isDebian <;> cases hl : l.isDebian <;> simp [hk, hl] at h ⊢

theorem group_toList (l : Line) : l.group.toList =
    (l.name.toList ++ l.separator :: l.tag.toList) ++ '.' :: l.arch.toList := by
  rw [group, String.toList_ofList, List.append_assoc, List.cons_append]

theorem RunsInto.group_eq {k l : Line} (h : k.RunsInto l) : k.group = l.group := by
  obtain ⟨harch, front, hname, htag⟩ := h
  rw [← String.toList_inj, group_toList, group_toList, hname, htag, harch]
  simp

/-- The architecture can be told from the rest of the group. -/
theorem cutLast_group {l : Line} (h : l.Readable) : Text.cutLast '.' l.group.toList =
    some (l.name.toList ++ l.separator :: l.tag.toList, l.arch.toList) :=
  Text.cutLast_eq_some_iff.2 ⟨l.group_toList, h.arch_free⟩

theorem group_eq_iff {k l : Line} (hk : k.Readable) (hl : l.Readable) :
    k.group = l.group ↔ k = l ∨ k.RunsInto l ∨ l.RunsInto k := by
  constructor
  · intro h
    have hcut := cutLast_group hl
    rw [← h, cutLast_group hk] at hcut
    obtain ⟨hfront, harch⟩ := Prod.mk.inj (Option.some.inj hcut)
    have harch := String.toList_inj.1 harch
    -- one text in front of the architecture, cut at the separator of each line
    rcases Text.append_cons_eq_append_cons_iff.1 hfront with
      ⟨hname, hsep, htag⟩ | ⟨front, hname, htag⟩ | ⟨front, hname, htag⟩
    · have hname := String.toList_inj.1 hname
      have htag := String.toList_inj.1 htag
      exact .inl (Line.ext (separator_inj hsep) hname htag harch)
    · exact .inr (.inl ⟨harch, front, hname, htag⟩)
    · exact .inr (.inr ⟨harch.symm, front, hname, htag⟩)
  · rintro (rfl | h | h)
    · rfl
    · exact h.group_eq
    · exact h.group_eq.symm

/-- The name of a Debian package has no room for the separator. -/
theorem not_runsInto_of_debian {k l : Line} (hk : k.isDebian = true) (hl : l.isDebian = true)
    (h : l.Readable) : ¬k.RunsInto l := by
  rintro ⟨-, front, hname, -⟩
  refine h.name_free hl ?_
  rw [hname, separator, if_pos hk]
  simp

/-- The tag of the other line is shorter. -/
theorem not_runsInto_of_tag {k l : Line} (h : k.tag = l.tag) : ¬k.RunsInto l := by
  rintro ⟨-, front, -, htag⟩
  have hlength := congrArg List.length htag
  rw [h, List.length_append, List.length_cons] at hlength
  omega

/-! ### Lines of packages -/

theorem group_ofArtifact (a : Artifact) : (ofArtifact a).group = a.group := by
  rw [← String.toList_inj, group_toList]
  unfold ofArtifact Artifact.group
  cases a.family with
  | debian d =>
    simp only [String.toList_append, List.append_assoc]
    rfl
  | rpm release dist =>
    simp only [String.toList_append, List.append_assoc]
    rfl

/-- Lines of packages can be told apart at the architecture. -/
theorem readable_of_classify {name : String} {a : Artifact}
    (h : classify name none = .ok (.package a)) : (ofArtifact a).Readable := by
  obtain ⟨-, -, htells⟩ := Artifact.classify_none_iff.1 h
  rcases htells with ⟨-, d, h⟩ | ⟨-, release, dist, h⟩
  · rw [ofArtifact, h.family]
    exact ⟨h.arch_free, fun _ => h.name_free⟩
  · rw [ofArtifact, h.family]
    exact ⟨h.arch_free, nofun⟩

end Line

theorem packageOf?_eq_some_iff {f : RemoteFile} {a : Artifact} :
    packageOf? f = some a ↔ classify f.fileName none = .ok (.package a) := by
  unfold packageOf?
  split
  · next b hb => simp [hb]
  · next h => exact ⟨nofun, fun ha => absurd ha (h a)⟩

theorem lineOf?_of_classify {f : RemoteFile} {a : Artifact}
    (h : classify f.fileName none = .ok (.package a)) : lineOf? f = some (Line.ofArtifact a) := by
  rw [lineOf?, packageOf?_eq_some_iff.2 h]
  rfl

theorem readable_of_lineOf? {f : RemoteFile} {l : Line} (h : lineOf? f = some l) : l.Readable := by
  obtain ⟨a, ha, rfl⟩ := Option.map_eq_some_iff.1 h
  exact Line.readable_of_classify (packageOf?_eq_some_iff.1 ha)

/-- The group of a file is that of its line. -/
theorem groupOf?_eq (f : RemoteFile) : groupOf? f = (lineOf? f).map Line.group := by
  rw [groupOf?, keyOf?_eq, lineOf?, Option.map_map, Option.map_map]
  congr 1
  funext a
  exact (Line.group_ofArtifact a).symm

/-! ### Planning a part of a listing -/

/-- A group is sorted by itself. -/
theorem members_of_group (files : List RemoteFile) (group : String) :
    members (keyed (files.filter fun f => groupOf? f = some group)) group =
      members (keyed files) group := by
  rw [members, members, keyed_of_group, List.filter_filter]
  simp only [Bool.and_self]

section

variable {choose : List RemoteFile → List RemoteFile} (hchoose : ∀ fs, choose fs ⊆ fs)
include hchoose

/-- What is chosen in a group does not depend on the files of other groups. -/
theorem chosen_of_group (files : List RemoteFile) (group : String) :
    (chosen choose files).filter (fun f => groupOf? f = some group) =
      chosen choose (files.filter fun f => groupOf? f = some group) := by
  -- both sides are what is chosen of the members of the group
  have hall : (chosen choose (files.filter fun f => groupOf? f = some group)).filter
      (fun f => groupOf? f = some group) =
        chosen choose (files.filter fun f => groupOf? f = some group) :=
    List.filter_eq_self.2 fun f hf => (List.mem_filter.1 (chosen_subset hchoose _ hf)).2
  rw [← hall, filter_chosen _ hchoose, filter_chosen _ hchoose, members_of_group]

/-- Nor on those of other lines, when the line has its group for itself. -/
theorem chosen_of_line {files : List RemoteFile} {l : Line} (hl : l.Readable)
    (hapart : ∀ m ∈ files.filterMap lineOf?, ¬m.RunsInto l ∧ ¬l.RunsInto m) :
    (chosen choose files).filter (fun f => lineOf? f = some l) =
      chosen choose (files.filter fun f => lineOf? f = some l) := by
  have hgroup : ∀ f ∈ files, decide (lineOf? f = some l) = decide (groupOf? f = some l.group) := by
    intro f hf
    rw [decide_eq_decide, groupOf?_eq]
    cases hm : lineOf? f with
    | none => simp
    | some m =>
      obtain ⟨hml, hlm⟩ := hapart m (List.mem_filterMap.2 ⟨f, hf, hm⟩)
      rw [Option.map_some, Option.some.injEq, Option.some.injEq,
        Line.group_eq_iff (readable_of_lineOf? hm) hl]
      simp [hml, hlm]
  rw [List.filter_congr hgroup,
    List.filter_congr fun f hf => hgroup f (chosen_subset hchoose files hf)]
  exact chosen_of_group hchoose files l.group

end

/-- **Which packages are told apart.** Two package files are in one group exactly when they are of
one build line, or the line of one runs into that of the other. Lines of Debian packages never do
that, nor do lines with one tag. Whatever a listing holds, as long as none of its lines runs into
that of a file or the other way round: what is kept and deleted of the line is what would be if
there was no other. -/
theorem lines_kept_apart {f g : String} {k l : Key} (hf : Key.ofFile? f = some k)
    (hg : Key.ofFile? g = some l) :
    ∃ a b, classify f none = .ok (.package a) ∧ classify g none = .ok (.package b) ∧
      (k.group = l.group ↔ Line.ofArtifact a = Line.ofArtifact b ∨
        (Line.ofArtifact a).RunsInto (Line.ofArtifact b) ∨
        (Line.ofArtifact b).RunsInto (Line.ofArtifact a)) ∧
      (((Line.ofArtifact a).isDebian = true ∧ (Line.ofArtifact b).isDebian = true) ∨
          (Line.ofArtifact a).tag = (Line.ofArtifact b).tag →
        (k.group = l.group ↔ Line.ofArtifact a = Line.ofArtifact b)) ∧
      ∀ files keep, (∀ m ∈ files.filterMap lineOf?,
          ¬m.RunsInto (Line.ofArtifact a) ∧ ¬(Line.ofArtifact a).RunsInto m) →
        (plan files keep).keep.filter (fun h => lineOf? h = some (Line.ofArtifact a)) =
          (plan (files.filter fun h => lineOf? h = some (Line.ofArtifact a)) keep).keep ∧
        (plan files keep).delete.filter (fun h => lineOf? h = some (Line.ofArtifact a)) =
          (plan (files.filter fun h => lineOf? h = some (Line.ofArtifact a)) keep).delete := by
  obtain ⟨a, ha, rfl⟩ := Publishing.ofFile?_eq_some_iff.1 hf
  obtain ⟨b, hb, rfl⟩ := Publishing.ofFile?_eq_some_iff.1 hg
  have hra := Line.readable_of_classify ha
  have hrb := Line.readable_of_classify hb
  have hgroup : (Key.ofArtifact a).group = (Key.ofArtifact b).group ↔
      Line.ofArtifact a = Line.ofArtifact b ∨ (Line.ofArtifact a).RunsInto (Line.ofArtifact b) ∨
        (Line.ofArtifact b).RunsInto (Line.ofArtifact a) := by
    rw [← Line.group_eq_iff hra hrb, Line.group_ofArtifact, Line.group_ofArtifact]
    exact Iff.rfl
  refine ⟨a, b, ha, hb, hgroup, ?_, fun files keep hapart => ⟨?_, ?_⟩⟩
  · rintro (⟨hda, hdb⟩ | htag)
    · rw [hgroup]
      simp [Line.not_runsInto_of_debian hda hdb hrb, Line.not_runsInto_of_debian hdb hda hra]
    · rw [hgroup]
      simp [Line.not_runsInto_of_tag htag, Line.not_runsInto_of_tag htag.symm]
  · exact chosen_of_line (fun fs => List.take_subset keep fs) hra hapart
  · exact chosen_of_line (fun fs => List.drop_subset keep fs) hra hapart

/-- Two lines with one dist tag. -/
theorem lines_kept_apart_python :
    let old : RemoteFile := { path := "python3-1.0-1.fc30.x86_64.rpm" }
    let new : RemoteFile := { path := "python3.6-1.0-1.fc30.x86_64.rpm" }
    (∃ k l, keyOf? old = some k ∧ keyOf? new = some l ∧ k.group ≠ l.group) ∧
      ∀ keep, (plan [old, new] keep).delete.filter (fun f => lineOf? f = lineOf? old) =
        (plan [old] keep).delete := by
  intro old new
  let m : Line := ⟨false, "python3", "fc30", "x86_64"⟩
  let n : Line := ⟨false, "python3.6", "fc30", "x86_64"⟩
  have hold : lineOf? old = some m := by decide +kernel
  have hnew : lineOf? new = some n := by decide +kernel
  have hne : n ≠ m := by decide
  obtain ⟨k, hk⟩ : ∃ k, keyOf? old = some k := Option.isSome_iff_exists.1 (by decide +kernel)
  obtain ⟨l, hl⟩ : ∃ l, keyOf? new = some l := Option.isSome_iff_exists.1 (by decide +kernel)
  obtain ⟨a, b, ha, hb, -, hgroup, hplan⟩ := lines_kept_apart hk hl
  have hm : Line.ofArtifact a = m := Option.some.inj ((lineOf?_of_classify ha).symm.trans hold)
  have hn : Line.ofArtifact b = n := Option.some.inj ((lineOf?_of_classify hb).symm.trans hnew)
  rw [hm, hn] at hgroup
  rw [hm] at hplan
  refine ⟨⟨k, l, hk, hl, fun h => hne ((hgroup (.inr rfl)).1 h).symm⟩, fun keep => ?_⟩
  have hfilter : [old, new].filter (fun f => lineOf? f = lineOf? old) = [old] := by
    simp [hold, hnew, hne]
  rw [← hfilter, hold]
  refine (hplan [old, new] keep fun o ho => ?_).2
  have htag : o.tag = m.tag := by
    simp only [List.filterMap_cons, List.filterMap_nil, hold, hnew, List.mem_cons,
      List.not_mem_nil, or_false] at ho
    rcases ho with rfl | rfl <;> rfl
  exact ⟨Line.not_runsInto_of_tag htag, Line.not_runsInto_of_tag htag.symm⟩

/-- A release with a dot in front of its dist tag, whose package is deleted in favour of another
one, and a Debian package in one group with an RPM package. -/
theorem lines_mixed :
    (∃ old new : RemoteFile,
      lineOf? old = some ⟨false, "python3", "6.fc30", "x86_64"⟩ ∧
      lineOf? new = some ⟨false, "python3.6", "fc30", "x86_64"⟩ ∧
      groupOf? old = some "python3.6.fc30.x86_64" ∧ groupOf? new = some "python3.6.fc30.x86_64" ∧
      plan [old, new] 1 = ⟨[new], [old], []⟩) ∧
    ∃ deb rpm : RemoteFile,
      lineOf? deb = some ⟨true, "demo", "ubuntu20.04", "amd64"⟩ ∧
      lineOf? rpm = some ⟨false, "demo_ubuntu20", "04", "amd64"⟩ ∧
      groupOf? deb = some "demo_ubuntu20.04.amd64" ∧
      groupOf? rpm = some "demo_ubuntu20.04.amd64" := by
  let old : RemoteFile := { path := "python3-1.0-0.6.fc30.x86_64.rpm" }
  let new : RemoteFile := { path := "python3.6-1.0-1.fc30.x86_64.rpm" }
  let deb : RemoteFile := { path := "demo_1.0-1_ubuntu20.04.amd64.deb" }
  let rpm : RemoteFile := { path := "demo_ubuntu20-1.0.fc30-1.04.amd64.rpm" }
  have hold : keyOf? old = some ⟨"python3.6.fc30.x86_64", versionKey "1.0-0"⟩ := by decide +kernel
  have hnew : keyOf? new = some ⟨"python3.6.fc30.x86_64", versionKey "1.0-1"⟩ := by decide +kernel
  refine ⟨⟨old, new, by decide +kernel, by decide +kernel, groupOf?_of_key hold,
    groupOf?_of_key hnew, plan_pair hold hnew rfl (by decide +kernel)⟩, deb, rpm, ?_⟩
  exact ⟨by decide +kernel, by decide +kernel, by decide +kernel, by decide +kernel⟩

end Courier.Retention
