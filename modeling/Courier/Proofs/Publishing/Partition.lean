import Courier.Proofs.Publishing.Managed
import Courier.Proofs.Publishing.Protocol

/-! What planning makes of a list of files.

Each file goes one way, which its name and the hint decide alone (`wayOf`). So a plan is the input
cut into three lists, and plans of two inputs put together are the plan of both. The place of an
upload starts with the version that is created for it, and ends with a flag that is off for dirty
builds only (`planning_partitions`). -/
namespace Courier

/-! ### Dirty builds -/

namespace Artifact

/-- A name with the mark of dirty builds, in any case of its ASCII letters. -/
def IsDirty (name : List Char) : Prop :=
  ∃ mark, mark <:+: name ∧ mark.map Char.toLower = dirtyMark

/-- What is published at once is what is not a dirty build. -/
theorem isPublishable_iff {basename : String} :
    isPublishable basename = true ↔ ¬IsDirty basename.toList := by
  rw [isPublishable, Option.isNone_iff_eq_none, ← Option.not_isSome_iff_eq_none,
    Text.isSome_indexOf_iff, not_iff_not]
  constructor
  · rintro ⟨front, back, h⟩
    obtain ⟨start, last, hname, hstart, -⟩ := List.map_eq_append_iff.1 h.symm
    obtain ⟨first, mark, rfl, -, hmark⟩ := List.map_eq_append_iff.1 hstart
    exact ⟨mark, ⟨first, last, hname.symm⟩, hmark⟩
  · rintro ⟨mark, ⟨front, back, h⟩, hmark⟩
    exact ⟨front.map Char.toLower, back.map Char.toLower, by rw [← h, ← hmark]; simp⟩

end Artifact

namespace Publishing

open Http (Session)
open Http.Session (Log Trace)

variable {settings : Settings} {hint : Option Repository}

/-! ### Ways -/

/-- What becomes of a file when it is planned. -/
inductive Way where
  | upload
  | archive
  | rejected
  deriving DecidableEq, Repr

/-- Where a file goes. -/
def wayOf (hint : Option Repository) (file : Path) : Way :=
  match Artifact.classify file.text hint with
  | .ok (.package _) => .upload
  | .ok (.archive _) => .archive
  | .error _ => .rejected

/-- The files that go one way. -/
def going (hint : Option Repository) (way : Way) (files : List Path) : List Path :=
  files.filter (wayOf hint · = way)

/-- Each file goes one way: those of the three ways together are all files. -/
theorem going_perm (hint : Option Repository) (files : List Path) :
    (going hint .upload files ++ going hint .archive files ++ going hint .rejected files).Perm
      files := by
  let others := files.filter fun file => !decide (wayOf hint file = .upload)
  have harchive : going hint .archive files = others.filter (wayOf hint · = .archive) := by
    rw [List.filter_filter, going]
    refine List.filter_congr fun file _ => ?_
    cases wayOf hint file <;> rfl
  have hrejected : going hint .rejected files =
      others.filter fun file => !decide (wayOf hint file = .archive) := by
    rw [List.filter_filter, going]
    refine List.filter_congr fun file _ => ?_
    cases wayOf hint file <;> rfl
  have hothers : (going hint .archive files ++ going hint .rejected files).Perm others := by
    rw [harchive, hrejected]
    exact List.filter_append_perm _ others
  rw [List.append_assoc]
  exact (hothers.append_left _).trans (List.filter_append_perm _ files)

/-! ### Plans -/

/-- One plan behind another, list by list. -/
def UploadPlan.append (p q : UploadPlan) : UploadPlan :=
  ⟨p.uploads ++ q.uploads, p.archives ++ q.archives, p.rejected ++ q.rejected⟩

/-- Planning goes file by file, so the plan of two lists is that of both put together. -/
theorem planUploads_append (settings : Settings) (hint : Option Repository) (xs ys : List Path) :
    planUploads settings hint (xs ++ ys) =
      (planUploads settings hint xs).append (planUploads settings hint ys) := by
  simp only [planUploads, UploadPlan.append, List.map_append, List.filterMap_append]

theorem plan_of_archive {file : Path} {basename : String}
    (h : Artifact.classify file.text hint = .ok (.archive basename)) :
    planUploads settings hint [file] = ⟨[], [file], []⟩ := by
  simp only [planUploads, fate, h, List.map_cons, List.map_nil, List.filterMap_cons,
    List.filterMap_nil]

theorem plan_of_error {file : Path} {e : Artifact.Error}
    (h : Artifact.classify file.text hint = .error e) :
    planUploads settings hint [file] = ⟨[], [], [(file, e)]⟩ := by
  simp only [planUploads, fate, h, List.map_cons, List.map_nil, List.filterMap_cons,
    List.filterMap_nil]

/-- A plan with the files of another list in each of its three. -/
structure UploadPlan.Cuts (plan : UploadPlan) (hint : Option Repository) (files : List Path) :
    Prop where
  uploads : plan.uploads.map Upload.file = going hint .upload files
  archives : plan.archives = going hint .archive files
  rejected : plan.rejected.map Prod.fst = going hint .rejected files

theorem UploadPlan.Cuts.append {p q : UploadPlan} {xs ys : List Path} (hp : p.Cuts hint xs)
    (hq : q.Cuts hint ys) : (p.append q).Cuts hint (xs ++ ys) := by
  refine ⟨?_, ?_, ?_⟩
  · rw [UploadPlan.append, List.map_append, hp.uploads, hq.uploads, going, going, going,
      List.filter_append]
  · rw [UploadPlan.append, hp.archives, hq.archives, going, going, going, List.filter_append]
  · rw [UploadPlan.append, List.map_append, hp.rejected, hq.rejected, going, going, going,
      List.filter_append]

theorem cuts_singleton (settings : Settings) (hint : Option Repository) (file : Path) :
    (planUploads settings hint [file]).Cuts hint [file] := by
  cases hclass : Artifact.classify file.text hint with
  | error e =>
    have hway : wayOf hint file = .rejected := by simp only [wayOf, hclass]
    rw [plan_of_error hclass]
    refine ⟨?_, ?_, ?_⟩ <;> simp [going, hway]
  | ok c =>
    cases c with
    | package a =>
      have hway : wayOf hint file = .upload := by simp only [wayOf, hclass]
      rw [plan_of_classify hclass]
      refine ⟨?_, ?_, ?_⟩ <;> simp [going, hway, uploadOf]
    | archive basename =>
      have hway : wayOf hint file = .archive := by simp only [wayOf, hclass]
      rw [plan_of_archive hclass]
      refine ⟨?_, ?_, ?_⟩ <;> simp [going, hway]

/-- Planning cuts any list by the way of each file. -/
theorem cuts_planUploads (settings : Settings) (hint : Option Repository) (files : List Path) :
    (planUploads settings hint files).Cuts hint files := by
  induction files with
  | nil => exact ⟨rfl, rfl, rfl⟩
  | cons file rest ih =>
    have hcons : file :: rest = [file] ++ rest := rfl
    rw [hcons, planUploads_append]
    exact (cuts_singleton settings hint file).append ih

/-! ### Versions -/

/-- Whichever upload is next, its version is created before it. -/
theorem created_of_stepsAfter {uploads : List Upload} {earlier : List (String × String)}
    {u : Upload} {done rest : List Step} (h : stepsAfter earlier uploads = done ++ .put u :: rest) :
    u.release ∈ earlier ∨ .create u.release ∈ done := by
  induction uploads generalizing earlier done with
  | nil => simp [stepsAfter] at h
  | cons v more ih =>
    -- the first upload follows its version, and for all behind it that version is an earlier one
    have hbehind {done : List Step}
        (h : .put v :: stepsAfter (earlier ++ [v.release]) more = done ++ .put u :: rest) :
        u.release ∈ earlier ∨ u.release = v.release ∨ .create u.release ∈ done := by
      cases done with
      | nil =>
        cases h
        exact .inr (.inl rfl)
      | cons step done =>
        rw [List.cons_append, List.cons.injEq] at h
        rcases ih h.2 with hin | hin
        · rcases List.mem_append.1 hin with hin | hin
          · exact .inl hin
          · exact .inr (.inl (List.mem_singleton.1 hin))
        · exact .inr (.inr (List.mem_cons_of_mem _ hin))
    rw [stepsAfter] at h
    by_cases hknown : v.release ∈ earlier
    · rw [if_pos (by simpa using hknown), List.nil_append] at h
      rcases hbehind h with hin | heq | hin
      · exact .inl hin
      · exact .inl (heq ▸ hknown)
      · exact .inr hin
    · rw [if_neg (by simpa using hknown), List.singleton_append] at h
      cases done with
      | nil => cases h
      | cons step done =>
        rw [List.cons_append, List.cons.injEq] at h
        obtain ⟨rfl, h⟩ := h
        rcases hbehind h with hin | heq | hin
        · exact .inl hin
        · exact .inr (heq ▸ List.mem_cons_self)
        · exact .inr (List.mem_cons_of_mem _ hin)

/-- A version is created for the uploads that go to it, and for nothing else. -/
theorem create_mem_iff (plan : UploadPlan) (release : String × String) :
    .create release ∈ plan.steps ↔ ∃ u ∈ plan.uploads, u.release = release := by
  have hcreated : created plan.steps = (plan.uploads.map Upload.release).eraseDups := by
    simpa [UploadPlan.steps] using created_stepsAfter [] plan.uploads
  have hmem : .create release ∈ plan.steps ↔ release ∈ created plan.steps := by
    rw [created, List.mem_filterMap]
    constructor
    · exact fun h => ⟨_, h, rfl⟩
    · rintro ⟨step, hstep, h⟩
      cases step with
      | create other => exact Option.some.inj h ▸ hstep
      | put u => cases h
  rw [hmem, hcreated, List.mem_eraseDups, List.mem_map]

/-! ### Places -/

/-- The place of an upload leads through its repository, its package and its version. -/
theorem target_front {files : List Path} {u : Upload}
    (hu : u ∈ (planUploads settings hint files).uploads) :
    ∃ rest, u.target = "/content/" ++ settings.owner ++ "/" ++ u.repository ++ "/" ++
      settings.package ++ "/" ++ u.version ++ "/" ++ rest := by
  obtain ⟨file, -, a, -, rfl⟩ := mem_uploads_iff.1 hu
  refine ⟨a.directory settings.package ++ "/" ++ storedName settings a, ?_⟩
  simp only [uploadOf, String.append_assoc]

/-- The place of an upload ends with the flag. -/
theorem target_flag (settings : Settings) (file : Path) (a : Artifact) :
    ∃ front, (uploadOf settings file a).target = front ++ ";publish=" ++ publishFlag a := by
  have hname : storedName settings a =
      a.basename ++ a.parameters settings.component ++ ";publish=" ++ publishFlag a := rfl
  refine ⟨"/content/" ++ settings.owner ++ "/" ++ settings.repositoryFor a.repository ++ "/" ++
    settings.package ++ "/" ++ a.version ++ "/" ++ a.directory settings.package ++ "/" ++
    (a.basename ++ a.parameters settings.component), ?_⟩
  simp only [uploadOf, hname, String.append_assoc]

theorem flag_cases (a : Artifact) :
    (Artifact.IsDirty a.basename.toList ∧ publishFlag a = "0") ∨
      (¬Artifact.IsDirty a.basename.toList ∧ publishFlag a = "1") := by
  have hpublishable : Artifact.isPublishable a.basename = true ↔
      ¬Artifact.IsDirty a.basename.toList := Artifact.isPublishable_iff
  by_cases hdirty : Artifact.IsDirty a.basename.toList
  · exact .inl ⟨hdirty, if_neg fun h => hpublishable.1 h hdirty⟩
  · exact .inr ⟨hdirty, if_pos (hpublishable.2 hdirty)⟩

/-- The last character of a place is its flag. -/
theorem target_ends_iff (settings : Settings) (file : Path) {a : Artifact} {c d : Char}
    (hflag : publishFlag a = String.ofList [c]) :
    (∃ front, (uploadOf settings file a).target = front ++ (";publish=" ++ String.ofList [d])) ↔
      c = d := by
  obtain ⟨front, htarget⟩ := target_flag settings file a
  rw [htarget, hflag]
  constructor
  · rintro ⟨other, hother⟩
    have hlast := congrArg (fun s : String => s.toList.getLast?) hother
    simpa using hlast
  · rintro rfl
    exact ⟨front, String.append_assoc ..⟩

/-- **Planning partitions its input.** The three lists of a plan are the files that go each way, in
their order and as often as they are given; a longer input has a longer plan. The place of an
upload starts with owner, repository, package and version, of which repository and version are the
ones that were created when publishing comes to it, and it ends with the flag of its base name. -/
theorem planning_partitions (settings : Settings) (hint : Option Repository) (files : List Path) :
    let plan := planUploads settings hint files
    plan.Cuts hint files ∧
    (plan.uploads.map Upload.file ++ plan.archives ++ plan.rejected.map Prod.fst).Perm files ∧
    (∀ more, planUploads settings hint (files ++ more) =
      plan.append (planUploads settings hint more)) ∧
    (∀ u ∈ plan.uploads,
      (∃ rest, u.target = "/content/" ++ settings.owner ++ "/" ++ u.repository ++ "/" ++
        settings.package ++ "/" ++ u.version ++ "/" ++ rest) ∧
      (∀ done later : List Step, plan.steps = done ++ .put u :: later →
        .create (u.repository, u.version) ∈ done) ∧
      ((∃ front, u.target = front ++ ";publish=0") ↔
        Artifact.IsDirty (Artifact.fileName u.file.text)) ∧
      ((∃ front, u.target = front ++ ";publish=1") ↔
        ¬Artifact.IsDirty (Artifact.fileName u.file.text))) ∧
    (∀ repository version, .create (repository, version) ∈ plan.steps →
      ∃ u ∈ plan.uploads, u.repository = repository ∧ u.version = version) ∧
    ∀ (client : Client) (tree : FileTree) (directory : Path),
      collect tree directory = .ok files → ∀ log answer,
        Trace (Publisher.publish ⟨client, settings⟩ tree directory hint) log answer →
        log.map (fun x => .ok x.1) <+: plan.steps.map (Step.request ⟨client, settings⟩ tree) := by
  intro plan
  have hcuts := cuts_planUploads settings hint files
  refine ⟨hcuts, ?_, planUploads_append settings hint files, fun u hu => ?_, ?_, ?_⟩
  · rw [hcuts.uploads, hcuts.archives, hcuts.rejected]
    exact going_perm hint files
  · refine ⟨target_front hu, fun done later hsteps =>
      (created_of_stepsAfter hsteps).resolve_left List.not_mem_nil, ?_⟩
    obtain ⟨file, -, a, ha, rfl⟩ := mem_uploads_iff.1 hu
    have hname : Artifact.fileName file.text = a.basename.toList := by
      rw [(Artifact.classify_eq_package_iff.1 ha).1, String.toList_ofList]
    show (_ ↔ Artifact.IsDirty (Artifact.fileName file.text)) ∧
      (_ ↔ ¬Artifact.IsDirty (Artifact.fileName file.text))
    rw [hname]
    rcases flag_cases a with ⟨hdirty, hflag⟩ | ⟨hclean, hflag⟩
    · have hoff := target_ends_iff settings file (d := '0') hflag
      have hon := target_ends_iff settings file (d := '1') hflag
      exact ⟨iff_of_true (hoff.2 rfl) hdirty,
        iff_of_false (fun h => absurd (hon.1 h) (by decide)) (not_not_intro hdirty)⟩
    · have hoff := target_ends_iff settings file (d := '0') hflag
      have hon := target_ends_iff settings file (d := '1') hflag
      exact ⟨iff_of_false (fun h => absurd (hoff.1 h) (by decide)) hclean,
        iff_of_true (hon.2 rfl) hclean⟩
  · intro repository version hcreate
    obtain ⟨u, hu, hrelease⟩ := (create_mem_iff plan (repository, version)).1 hcreate
    exact ⟨u, hu, congrArg Prod.fst hrelease, congrArg Prod.snd hrelease⟩
  · intro client tree directory hcollect log answer htrace
    rw [Publisher.publish, hcollect] at htrace
    rcases trace_publishPlan htrace with ⟨-, rfl, -⟩ | ⟨-, verdict, hrun, -⟩
    · exact List.nil_prefix
    · exact hrun.requests

/-- A dirty build, told by a mark in mixed case, with its version in front of it. -/
theorem planning_partitions_dirty :
    let file := asciiPath "dist/demo_1.0-1-Dirty_ubuntu20.04.amd64.deb"
    let plan := planUploads {} none [file]
    ∃ u ∈ plan.uploads, (∃ front, u.target = front ++ ";publish=0") ∧
      (¬∃ front, u.target = front ++ ";publish=1") ∧
      ∀ done later : List Step, plan.steps = done ++ .put u :: later →
        .create ("ubuntu", "1.0-1-Dirty") ∈ done := by
  intro file plan
  let a : Artifact :=
    { basename := "demo_1.0-1-Dirty_ubuntu20.04.amd64.deb", repository := .ubuntu, name := "demo",
      version := "1.0-1-Dirty", arch := "amd64", number := ⟨1, 0, "", some "1-Dirty"⟩,
      family := .debian ⟨"ubuntu20.04", "focal"⟩ }
  obtain ⟨hu, ha⟩ := upload_of_toOption "dist/demo_1.0-1-Dirty_ubuntu20.04.amd64.deb" none a
    (by decide +kernel) (by decide +kernel)
  obtain ⟨-, -, -, hplaces, -, -⟩ := planning_partitions {} none [file]
  obtain ⟨-, hcreated, hoff, hon⟩ := hplaces _ hu
  have hname : Artifact.fileName file.text = a.basename.toList := by
    rw [(Artifact.classify_eq_package_iff.1 ha).1, String.toList_ofList]
  have hdirty : Artifact.IsDirty (Artifact.fileName file.text) := by
    rw [hname]
    exact ⟨"-Dirty".toList, ⟨"demo_1.0-1".toList, "_ubuntu20.04.amd64.deb".toList,
      by decide +kernel⟩, by decide +kernel⟩
  exact ⟨_, hu, hoff.2 hdirty, fun h => hon.1 h hdirty, hcreated⟩

end Publishing
end Courier
