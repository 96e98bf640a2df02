import Courier.Proofs.Retention.VersionOrder
import Courier.Retention.Plan
import Mathlib.Data.List.Perm.Basic

/-! What a plan does with the files of a listing.

The three lists of a plan are the listing in another order. Of every group the plan keeps as many
files as it may, and these are the first ones of the sorted group; so nothing that is deleted is
newer than anything that is kept (`plan_keeps_newest`). -/
namespace Courier.Retention

/-- The package in a file. -/
def packageOf? (f : RemoteFile) : Option Artifact :=
  match Artifact.classify f.fileName none with
  | .ok (.package a) => some a
  | _ => none

def groupOf? (f : RemoteFile) : Option String := (keyOf? f).map (·.group)

theorem keyOf?_eq (f : RemoteFile) : keyOf? f = (packageOf? f).map Key.ofArtifact := by
  unfold keyOf? Key.ofFile? packageOf?
  cases Artifact.classify f.fileName none with
  | error e => rfl
  | ok c => cases c <;> rfl

theorem keyOf?_of_package {f : RemoteFile} {a : Artifact} (h : packageOf? f = some a) :
    keyOf? f = some (Key.ofArtifact a) := by
  rw [keyOf?_eq, h]
  rfl

theorem groupOf?_of_key {f : RemoteFile} {k : Key} (h : keyOf? f = some k) :
    groupOf? f = some k.group := by
  rw [groupOf?, h]
  rfl

/-! ### Groups -/

theorem nodup_eraseDups {α : Type} [BEq α] [LawfulBEq α] (xs : List α) : xs.eraseDups.Nodup := by
  match xs with
  | [] => exact List.nodup_nil
  | x :: xs =>
    rw [List.eraseDups_cons, List.nodup_cons]
    refine ⟨fun hx => ?_, nodup_eraseDups _⟩
    have hx := List.of_mem_filter (List.mem_eraseDups.1 hx)
    simp at hx
termination_by xs.length
decreasing_by exact Nat.lt_succ_of_le (List.length_filter_le ..)

theorem nodup_groups (files : List Keyed) : (groups files).Nodup :=
  (List.mergeSort_perm ..).nodup_iff.2 (nodup_eraseDups _)

theorem pairwise_groups (files : List Keyed) : (groups files).Pairwise fun a b => a ≤ b := by
  have htrans : ∀ a b c : String, decide (a ≤ b) = true → decide (b ≤ c) = true →
      decide (a ≤ c) = true := fun a b c hab hbc =>
    decide_eq_true (String.le_trans (of_decide_eq_true hab) (of_decide_eq_true hbc))
  have htotal : ∀ a b : String, (decide (a ≤ b) || decide (b ≤ a)) = true := fun a b => by
    rw [Bool.or_eq_true, decide_eq_true_eq, decide_eq_true_eq]
    exact String.le_total a b
  exact (List.pairwise_mergeSort htrans htotal _).imp of_decide_eq_true

/-- Which the groups are says in what order they are. -/
theorem eq_groups {gs : List String} {files : List Keyed} (hsorted : gs.Pairwise fun a b => a ≤ b)
    (hnodup : gs.Nodup) (hmem : ∀ g, g ∈ gs ↔ g ∈ groups files) : gs = groups files := by
  have hperm : gs.Perm (groups files) :=
    (List.perm_ext_iff_of_nodup hnodup (nodup_groups files)).2 hmem
  apply hperm.eq_of_pairwise _ hsorted (pairwise_groups files)
  intro a b _ _ hab hba
  exact String.le_antisymm hab hba

theorem mem_keyed {files : List RemoteFile} {k : Key} {f : RemoteFile} :
    (k, f) ∈ keyed files ↔ f ∈ files ∧ keyOf? f = some k := by
  simp only [keyed, List.mem_filterMap, Option.map_eq_some_iff, Prod.mk.injEq]
  constructor
  · rintro ⟨g, hg, k', hk, rfl, rfl⟩
    exact ⟨hg, hk⟩
  · rintro ⟨hf, hk⟩
    exact ⟨f, hf, k, hk, rfl, rfl⟩

theorem mem_groups {files : List RemoteFile} {group : String} :
    group ∈ groups (keyed files) ↔ ∃ f ∈ files, groupOf? f = some group := by
  rw [groups, List.mem_mergeSort, List.mem_eraseDups, List.mem_map]
  constructor
  · rintro ⟨⟨k, f⟩, hf, rfl⟩
    obtain ⟨hf, hk⟩ := mem_keyed.1 hf
    exact ⟨f, hf, groupOf?_of_key hk⟩
  · rintro ⟨f, hf, hgroup⟩
    obtain ⟨k, hk, rfl⟩ := Option.map_eq_some_iff.1 hgroup
    exact ⟨(k, f), mem_keyed.2 ⟨hf, hk⟩, rfl⟩

theorem keyed_filter_part (files : List RemoteFile) (q : RemoteFile → Bool) :
    keyed (files.filter q) = (keyed files).filter fun f => q f.2 := by
  rw [keyed, keyed, List.filterMap_filter, List.filter_filterMap]
  refine List.filterMap_congr fun f _ => ?_
  cases keyOf? f with
  | none => simp
  | some k => rw [Option.map_some, Option.filter_some]

/-- The files of a group with their keys are the keyed files of that group. -/
theorem keyed_of_group (files : List RemoteFile) (group : String) :
    keyed (files.filter fun f => groupOf? f = some group) =
      (keyed files).filter fun f => f.1.group == group := by
  rw [keyed_filter_part]
  refine List.filter_congr fun f hf => ?_
  rw [groupOf?_of_key (mem_keyed.1 hf).2]
  simp only [Option.some.injEq, Bool.beq_eq_decide_eq]

theorem map_keyed {files : List RemoteFile} (h : ∀ f ∈ files, (keyOf? f).isSome) :
    (keyed files).map (·.2) = files := by
  induction files with
  | nil => rfl
  | cons f files ih =>
    obtain ⟨hf, hfiles⟩ := List.forall_mem_cons.1 h
    obtain ⟨k, hk⟩ := Option.isSome_iff_exists.1 hf
    have hkeyed : keyed (f :: files) = (k, f) :: keyed files := by simp [keyed, hk]
    rw [hkeyed, List.map_cons, ih hfiles]

theorem keyed_filter (files : List RemoteFile) (group : String) :
    ((keyed files).filter fun f => f.1.group == group).map (·.2) =
      files.filter fun f => groupOf? f = some group := by
  rw [← keyed_of_group]
  apply map_keyed
  intro f hf
  have hgroup : groupOf? f = some group := of_decide_eq_true (List.mem_filter.1 hf).2
  obtain ⟨k, hk, -⟩ := Option.map_eq_some_iff.1 hgroup
  rw [hk, Option.isSome_some]

/-- The members of a group are its files in another order. -/
theorem members_perm (files : List RemoteFile) (group : String) :
    (members (keyed files) group).Perm (files.filter fun f => groupOf? f = some group) := by
  rw [← keyed_filter]
  exact (List.mergeSort_perm ..).map _

theorem mem_members {files : List RemoteFile} {group : String} {f : RemoteFile} :
    f ∈ members (keyed files) group ↔ f ∈ files ∧ groupOf? f = some group := by
  rw [(members_perm files group).mem_iff, List.mem_filter, decide_eq_true_eq]

/-- The classes of a listing, for some groups, are together the files of those groups. -/
theorem classes_perm (files : List RemoteFile) {gs : List String} (h : gs.Nodup) :
    (gs.flatMap fun g => files.filter fun f => groupOf? f = some g).Perm
      (files.filter fun f => (groupOf? f).any (· ∈ gs)) := by
  induction gs with
  | nil =>
    have hnone : (files.filter fun f => (groupOf? f).any (· ∈ [])) = [] := by simp
    rw [hnone]
    exact .refl _
  | cons g gs ih =>
    obtain ⟨hg, hgs⟩ := List.nodup_cons.1 h
    -- the files of all the groups, cut into those of the first and the others
    have hcut := List.filter_append_perm (fun f => groupOf? f = some g)
      (files.filter fun f => (groupOf? f).any (· ∈ g :: gs))
    rw [List.filter_filter, List.filter_filter] at hcut
    refine .trans ?_ hcut
    rw [List.flatMap_cons]
    refine .append (.of_eq (List.filter_congr ?_)) ((ih hgs).trans (.of_eq (List.filter_congr ?_)))
    · intro f _
      by_cases hf : groupOf? f = some g
      · simp [hf]
      · simp [hf]
    · intro f _
      cases hf : groupOf? f with
      | none => simp
      | some g' =>
        by_cases hsame : g' = g
        · simp [hsame, hg]
        · simp [hsame]

/-! ### The order in a group -/

/-- Newer files come first, and of one version those with the greater path. -/
theorem newerFirst_iff {a b : Keyed} : newerFirst a b = true ↔
    b.1.version < a.1.version ∨ b.1.version = a.1.version ∧ b.2.path ≤ a.2.path := by
  simp only [newerFirst, Bool.or_eq_true, Bool.and_eq_true, decide_eq_true_eq, beq_iff_eq]

theorem newerFirst_total (a b : Keyed) : (newerFirst a b || newerFirst b a) = true := by
  rw [Bool.or_eq_true, newerFirst_iff, newerFirst_iff]
  by_cases hlt : b.1.version < a.1.version
  · exact .inl (.inl hlt)
  by_cases hgt : a.1.version < b.1.version
  · exact .inr (.inl hgt)
  have heq : b.1.version = a.1.version :=
    String.le_antisymm (String.not_lt.1 hgt) (String.not_lt.1 hlt)
  rcases String.le_total b.2.path a.2.path with hpath | hpath
  · exact .inl (.inr ⟨heq, hpath⟩)
  · exact .inr (.inr ⟨heq.symm, hpath⟩)

theorem newerFirst_trans (a b c : Keyed) (hab : newerFirst a b = true)
    (hbc : newerFirst b c = true) : newerFirst a c = true := by
  rw [newerFirst_iff] at *
  rcases hab with hab | ⟨hab, hpath⟩
  · rcases hbc with hbc | ⟨hbc, -⟩
    · exact .inl (String.lt_trans hbc hab)
    · exact .inl (hbc ▸ hab)
  · rcases hbc with hbc | ⟨hbc, hpath'⟩
    · exact .inl (hab ▸ hbc)
    · exact .inr ⟨hbc.trans hab, String.le_trans hpath' hpath⟩

/-- What decides the place of a file in its group. -/
def rank (f : Keyed) : String × String := (f.1.version, f.2.path)

/-- The order of ranks, with the greater ones in front. -/
def above (p q : String × String) : Prop := q.1 < p.1 ∨ q.1 = p.1 ∧ q.2 ≤ p.2

theorem above_antisymm {p q : String × String} (hpq : above p q) (hqp : above q p) : p = q := by
  rcases hpq with hlt | ⟨hversion, hpath⟩
  · rcases hqp with hgt | ⟨hversion, -⟩
    · exact absurd hgt (String.lt_asymm hlt)
    · exact absurd hversion.symm (String.ne_of_lt hlt)
  · rcases hqp with hgt | ⟨-, hpath'⟩
    · exact absurd hversion.symm (String.ne_of_lt hgt)
    · exact Prod.ext hversion.symm (String.le_antisymm hpath' hpath)

/-- A group with its keys, newest first. -/
def ranked (files : List Keyed) (group : String) : List Keyed :=
  (files.filter fun f => f.1.group == group).mergeSort newerFirst

theorem members_eq (files : List Keyed) (group : String) :
    members files group = (ranked files group).map (·.2) := rfl

theorem mem_of_mem_ranked {files : List Keyed} {group : String} {f : Keyed}
    (h : f ∈ ranked files group) : f ∈ files :=
  List.mem_of_mem_filter (List.mem_mergeSort.1 h)

theorem pairwise_ranked (files : List Keyed) (group : String) :
    (ranked files group).Pairwise fun a b => newerFirst a b = true :=
  List.pairwise_mergeSort newerFirst_trans newerFirst_total _

/-- What is cut off a sorted group comes behind all that is left of it. -/
theorem newerFirst_of_take_of_drop {files : List Keyed} {group : String} {n : Nat}
    {f g : RemoteFile} (hf : f ∈ (members files group).take n)
    (hg : g ∈ (members files group).drop n) :
    ∃ k l, (k, f) ∈ files ∧ (l, g) ∈ files ∧ newerFirst (k, f) (l, g) = true := by
  have hsorted : ((ranked files group).take n ++ (ranked files group).drop n).Pairwise
      fun a b => newerFirst a b = true := by
    rw [List.take_append_drop]
    exact pairwise_ranked files group
  rw [members_eq, ← List.map_take, List.mem_map] at hf
  rw [members_eq, ← List.map_drop, List.mem_map] at hg
  obtain ⟨⟨k, f⟩, hk, rfl⟩ := hf
  obtain ⟨⟨l, g⟩, hl, rfl⟩ := hg
  exact ⟨k, l, mem_of_mem_ranked (List.mem_of_mem_take hk),
    mem_of_mem_ranked (List.mem_of_mem_drop hl), (List.pairwise_append.1 hsorted).2.2 _ hk _ hl⟩

/-! ### The plan -/

/-- Each file is in one of the three lists of a plan, as often as it is listed. -/
theorem plan_perm (files : List RemoteFile) (keep : Nat) :
    ((plan files keep).keep ++ (plan files keep).delete ++ (plan files keep).skipped).Perm
      files := by
  have hgroups : ((plan files keep).keep ++ (plan files keep).delete).Perm
      ((groups (keyed files)).flatMap (members (keyed files))) := by
    refine (List.flatMap_append_perm ..).trans (.of_eq ?_)
    simp only [List.take_append_drop]
  have hclasses := List.Perm.flatMap_left (groups (keyed files)) fun g _ => members_perm files g
  have hkeyed : (files.filter fun f => (groupOf? f).any (· ∈ groups (keyed files))) =
      files.filter fun f => !(keyOf? f).isNone := by
    refine List.filter_congr fun f hf => ?_
    cases hk : keyOf? f with
    | none => simp [groupOf?, hk]
    | some k =>
      have hgroup : groupOf? f = some k.group := groupOf?_of_key hk
      rw [hgroup]
      simpa using mem_groups.2 ⟨f, hf, hgroup⟩
  have hall := hgroups.trans (hclasses.trans (classes_perm files (nodup_groups _)))
  rw [hkeyed] at hall
  exact ((hall.append_right _).trans List.perm_append_comm).trans
    (List.filter_append_perm (fun f => (keyOf? f).isNone) files)

/-- Of what is chosen group by group, that of one group is what was chosen there. -/
theorem filter_flatMap_groups (files : List RemoteFile) {gs : List String} (h : gs.Nodup)
    {chosen : String → List RemoteFile}
    (hchosen : ∀ g, ∀ f ∈ chosen g, f ∈ members (keyed files) g) {group : String}
    (hgroup : group ∉ gs → chosen group = []) :
    (gs.flatMap chosen).filter (fun f => groupOf? f = some group) = chosen group := by
  induction gs with
  | nil => exact (hgroup (List.not_mem_nil)).symm
  | cons g gs ih =>
    obtain ⟨hg, hgs⟩ := List.nodup_cons.1 h
    have hof : ∀ g, ∀ f ∈ chosen g, groupOf? f = some g := fun g f hf =>
      (mem_members.1 (hchosen g f hf)).2
    rw [List.flatMap_cons, List.filter_append]
    by_cases hsame : g = group
    · subst hsame
      have hall : (chosen g).filter (fun f => groupOf? f = some g) = chosen g :=
        List.filter_eq_self.2 fun f hf => decide_eq_true (hof g f hf)
      have hnone : (gs.flatMap chosen).filter (fun f => groupOf? f = some g) = [] := by
        refine List.filter_eq_nil_iff.2 fun f hf hfg => ?_
        obtain ⟨g', hg', hf⟩ := List.mem_flatMap.1 hf
        have hsome : some g' = some g := (hof g' f hf).symm.trans (of_decide_eq_true hfg)
        exact hg (Option.some.inj hsome ▸ hg')
      rw [hall, hnone, List.append_nil]
    · have hnone : (chosen g).filter (fun f => groupOf? f = some group) = [] := by
        refine List.filter_eq_nil_iff.2 fun f hf hfg => hsame ?_
        exact Option.some.inj ((hof g f hf).symm.trans (of_decide_eq_true hfg))
      rw [hnone, List.nil_append]
      exact ih hgs fun hout => hgroup fun hin => (List.mem_cons.1 hin).elim (hsame ·.symm) hout

/-- What is chosen in every group of a listing. -/
def chosen (choose : List RemoteFile → List RemoteFile) (files : List RemoteFile) :
    List RemoteFile :=
  (groups (keyed files)).flatMap fun group => choose (members (keyed files) group)

theorem members_of_not_mem {files : List RemoteFile} {group : String}
    (h : group ∉ groups (keyed files)) : members (keyed files) group = [] := by
  apply List.eq_nil_iff_forall_not_mem.2
  intro f hf
  exact h (mem_groups.2 ⟨f, mem_members.1 hf⟩)

theorem chosen_subset {choose : List RemoteFile → List RemoteFile} (hchoose : ∀ fs, choose fs ⊆ fs)
    (files : List RemoteFile) : chosen choose files ⊆ files := by
  intro f hf
  obtain ⟨group, -, hf⟩ := List.mem_flatMap.1 hf
  exact (mem_members.1 (hchoose _ hf)).1

/-- What is chosen of a group depends on that group alone. -/
theorem filter_chosen (files : List RemoteFile) {choose : List RemoteFile → List RemoteFile}
    (hchoose : ∀ fs, choose fs ⊆ fs) (group : String) :
    (chosen choose files).filter (fun f => groupOf? f = some group) =
      choose (members (keyed files) group) := by
  refine filter_flatMap_groups files (nodup_groups _) (fun g f hf => hchoose _ hf) fun hout => ?_
  rw [members_of_not_mem hout]
  exact List.subset_nil.1 (hchoose [])

/-- Of each group as many files are kept as may be. -/
theorem length_kept (files : List RemoteFile) (keep : Nat) (group : String) :
    ((plan files keep).keep.filter fun f => groupOf? f = some group).length =
      min keep (files.filter fun f => groupOf? f = some group).length := by
  rw [← (members_perm files group).length_eq, ← List.length_take]
  exact congrArg _ (filter_chosen files (fun fs => List.take_subset keep fs) group)

/-- No file that is kept has an older key than one that is deleted from its group. -/
theorem not_older_of_kept_of_deleted (files : List RemoteFile) (keep : Nat) {f g : RemoteFile}
    {a b : Artifact} (hf : f ∈ (plan files keep).keep) (hg : g ∈ (plan files keep).delete)
    (ha : packageOf? f = some a) (hb : packageOf? g = some b) (hgroup : a.group = b.group) :
    ¬versionKey a.version < versionKey b.version := by
  have hkey := keyOf?_of_package ha
  have hkey' := keyOf?_of_package hb
  obtain ⟨group, -, hf⟩ := List.mem_flatMap.1 hf
  obtain ⟨group', -, hg⟩ := List.mem_flatMap.1 hg
  obtain rfl : a.group = group := Option.some.inj <|
    (groupOf?_of_key hkey).symm.trans (mem_members.1 (List.mem_of_mem_take hf)).2
  obtain rfl : b.group = group' := Option.some.inj <|
    (groupOf?_of_key hkey').symm.trans (mem_members.1 (List.mem_of_mem_drop hg)).2
  rw [← hgroup] at hg
  obtain ⟨k, l, hk, hl, hnewer⟩ := newerFirst_of_take_of_drop hf hg
  obtain rfl : k = Key.ofArtifact a := Option.some.inj ((mem_keyed.1 hk).2.symm.trans hkey)
  obtain rfl : l = Key.ofArtifact b := Option.some.inj ((mem_keyed.1 hl).2.symm.trans hkey')
  rcases newerFirst_iff.1 hnewer with hlt | ⟨heq, -⟩
  · exact String.lt_asymm hlt
  · intro hlt
    exact String.ne_of_lt hlt heq.symm

/-- Of two files in one group only the newer one is kept. -/
theorem plan_pair {f g : RemoteFile} {k l : Key} (hf : keyOf? f = some k) (hg : keyOf? g = some l)
    (hgroup : k.group = l.group) (horder : newerFirst (k, f) (l, g) = false) :
    plan [f, g] 1 = ⟨[g], [f], []⟩ := by
  have hkeyed : keyed [f, g] = [(k, f), (l, g)] := by simp [keyed, hf, hg]
  have hgroups : groups (keyed [f, g]) = [l.group] := by
    simp [hkeyed, groups, List.eraseDups_cons, hgroup]
  have hmembers : members (keyed [f, g]) l.group = [g, f] := by
    simp [hkeyed, members, List.mergeSort, List.MergeSort.Internal.splitInTwo, horder, hgroup]
  simp [plan, hgroups, hmembers, hf, hg]

/-- **A plan loses nothing and keeps the newest.** The files to keep, to delete and skipped are
the listing in another order; skipped are the files without a key; of each group as many files are
kept as may be; and no file is deleted in favour of an older one of its group. -/
theorem plan_keeps_newest (files : List RemoteFile) (keep : Nat) :
    ((plan files keep).keep ++ (plan files keep).delete ++ (plan files keep).skipped).Perm files ∧
    (plan files keep).skipped = files.filter (fun f => (keyOf? f).isNone) ∧
    (∀ group, ((plan files keep).keep.filter fun f => groupOf? f = some group).length =
      min keep (files.filter fun f => groupOf? f = some group).length) ∧
    ∀ f ∈ (plan files keep).keep, ∀ g ∈ (plan files keep).delete, ∀ a b,
      packageOf? f = some a → packageOf? g = some b → a.group = b.group →
      Plain a.version.toList → Plain b.version.toList →
      older (tokens a.version.toList) (tokens b.version.toList) = false := by
  refine ⟨plan_perm files keep, rfl, length_kept files keep, ?_⟩
  intro f hf g hg a b ha hb hgroup hplain hplain'
  have hkeys := not_older_of_kept_of_deleted files keep hf hg ha hb hgroup
  rw [versionKey_lt_iff hplain hplain'] at hkeys
  exact Bool.eq_false_iff.2 hkeys

/-- A listing of two versions, of which the later one is the smaller text. -/
theorem plan_keeps_newest_two :
    ∃ nine ten : RemoteFile, ∃ a b, ten ∈ (plan [nine, ten] 1).keep ∧
      nine ∈ (plan [nine, ten] 1).delete ∧ packageOf? ten = some a ∧ packageOf? nine = some b ∧
      a.group = b.group ∧ Plain a.version.toList ∧ Plain b.version.toList ∧
      older (tokens a.version.toList) (tokens b.version.toList) = false := by
  let nine : RemoteFile := { path := "demo-1.9-1.fc30.x86_64.rpm" }
  let ten : RemoteFile := { path := "demo-1.10-1.fc30.x86_64.rpm" }
  let a : Artifact :=
    { basename := "demo-1.10-1.fc30.x86_64.rpm", repository := .fedora, name := "demo",
      version := "1.10-1", arch := "x86_64", number := ⟨1, 10, "", some "1"⟩,
      family := .rpm "1" "fc30" }
  let b : Artifact :=
    { basename := "demo-1.9-1.fc30.x86_64.rpm", repository := .fedora, name := "demo",
      version := "1.9-1", arch := "x86_64", number := ⟨1, 9, "", some "1"⟩,
      family := .rpm "1" "fc30" }
  have ha : packageOf? ten = some a := by decide +kernel
  have hb : packageOf? nine = some b := by decide +kernel
  have hgroup : a.group = b.group := by decide
  have hka : (Key.ofArtifact a).group = a.group := rfl
  have hkb : (Key.ofArtifact b).group = a.group := hgroup.symm
  have hkeyed : keyed [nine, ten] = [(Key.ofArtifact b, nine), (Key.ofArtifact a, ten)] := by
    simp only [keyed, keyOf?_eq, ha, hb, List.filterMap_cons, List.filterMap_nil, Option.map_some]
  have horder : newerFirst (Key.ofArtifact b, nine) (Key.ofArtifact a, ten) = false := by
    decide +kernel
  have hgroups : groups (keyed [nine, ten]) = [a.group] := by
    simp [hkeyed, groups, List.eraseDups_cons, hka, hkb]
  have hmembers : members (keyed [nine, ten]) a.group = [ten, nine] := by
    simp [hkeyed, members, List.mergeSort, List.MergeSort.Internal.splitInTwo, horder, hka, hkb]
  have hkeep : ten ∈ (plan [nine, ten] 1).keep := by simp [plan, hgroups, hmembers]
  have hdelete : nine ∈ (plan [nine, ten] 1).delete := by simp [plan, hgroups, hmembers]
  have hplain : Plain a.version.toList := plain_of_length_le (by decide) (by decide)
  have hplain' : Plain b.version.toList := plain_of_length_le (by decide) (by decide)
  exact ⟨nine, ten, a, b, hkeep, hdelete, ha, hb, hgroup, hplain, hplain',
    (plan_keeps_newest [nine, ten] 1).2.2.2 ten hkeep nine hdelete a b ha hb hgroup hplain hplain'⟩

end Courier.Retention
