import Courier.Proofs.Retention.Remainder
import Mathlib.Data.List.Flatten

/-! Plans that do not change.

A group is sorted before it is cut. What was kept of it is the front of the sorted group and is in
order already, so that planning it again only cuts it once more, and the smaller of the two limits
is what counts (`plan_kept`). Where two files have one version key the path decides, and nothing of
a file but these two does; so a listing in another order leads to the same paths in the same order,
even if a tie is cut in two (`plan_of_perm`). -/
namespace Courier.Retention

/-! ### Planning what was kept -/

theorem keyed_map {xs : List Keyed} (h : ∀ a ∈ xs, keyOf? a.2 = some a.1) :
    keyed (xs.map (·.2)) = xs := by
  induction xs with
  | nil => rfl
  | cons a xs ih =>
    obtain ⟨ha, hxs⟩ := List.forall_mem_cons.1 h
    have hcons : keyed (a.2 :: xs.map (·.2)) = a :: keyed (xs.map (·.2)) := by simp [keyed, ha]
    rw [List.map_cons, hcons, ih hxs]

/-- What was kept of a group, with its keys. -/
theorem keyed_kept (files : List RemoteFile) (keep : Nat) (group : String) :
    (keyed (plan files keep).keep).filter (fun f => f.1.group == group) =
      (ranked (keyed files) group).take keep := by
  have hkept : (plan files keep).keep.filter (fun f => groupOf? f = some group) =
      ((ranked (keyed files) group).take keep).map (·.2) := by
    rw [List.map_take]
    exact filter_chosen files (fun fs => List.take_subset keep fs) group
  rw [← keyed_of_group, hkept, keyed_map]
  intro a ha
  exact (mem_keyed.1 (mem_of_mem_ranked (List.mem_of_mem_take ha))).2

/-- What was kept of a group are the first of its members. -/
theorem members_kept (files : List RemoteFile) (keep : Nat) (group : String) :
    members (keyed (plan files keep).keep) group = (members (keyed files) group).take keep := by
  have hsorted : ((ranked (keyed files) group).take keep).Pairwise
      fun a b => newerFirst a b = true :=
    (pairwise_ranked _ _).sublist (List.take_sublist ..)
  rw [members, keyed_kept, List.mergeSort_of_pairwise hsorted, List.map_take]
  rfl

/-- What is chosen of the files that were kept is chosen of the front of each group. -/
theorem chosen_kept (files : List RemoteFile) (keep : Nat)
    {choose : List RemoteFile → List RemoteFile} (hnil : choose [] = []) :
    chosen choose (plan files keep).keep = (groups (keyed files)).flatMap fun group =>
      choose ((members (keyed files) group).take keep) := by
  have hkept : (plan files keep).keep ⊆ files :=
    chosen_subset (fun fs => List.take_subset keep fs) files
  rw [chosen_of_subset hkept hnil]
  simp only [members_kept]

/-- **Planning again.** Of the files that a plan keeps, a second plan keeps what one plan with the
smaller limit would have kept, in the same order, and it skips nothing. If the second limit is not
the smaller one nothing is deleted either; and what a smaller limit keeps is a part of what a larger
one does. -/
theorem plan_kept (files : List RemoteFile) (j k : Nat) :
    (plan (plan files k).keep j).keep = (plan files (min j k)).keep ∧
    (plan (plan files k).keep j).skipped = [] ∧
    (k ≤ j → plan (plan files k).keep j = ⟨(plan files k).keep, [], []⟩) ∧
    (j ≤ k → (plan files j).keep.Sublist (plan files k).keep) := by
  have hkeep : (plan (plan files k).keep j).keep = (plan files (min j k)).keep := by
    show chosen (·.take j) (plan files k).keep = _
    rw [chosen_kept files k List.take_nil]
    simp only [List.take_take]
    rfl
  have hskipped : (plan (plan files k).keep j).skipped = [] := by
    apply List.filter_eq_nil_iff.2
    intro f hf hnone
    obtain ⟨group, -, hf⟩ := List.mem_flatMap.1 hf
    obtain ⟨key, hkey, -⟩ :=
      Option.map_eq_some_iff.1 (mem_members.1 (List.mem_of_mem_take hf)).2
    rw [hkey] at hnone
    cases hnone
  refine ⟨hkeep, hskipped, ?_, ?_⟩
  · intro hkj
    have hdelete : (plan (plan files k).keep j).delete = [] := by
      show chosen (·.drop j) (plan files k).keep = []
      rw [chosen_kept files k List.drop_nil, List.flatMap_eq_nil_iff]
      intro group _
      apply List.drop_eq_nil_of_le
      exact Nat.le_trans (List.length_take_le ..) hkj
    rw [Nat.min_eq_right hkj] at hkeep
    calc plan (plan files k).keep j
        = ⟨(plan (plan files k).keep j).keep, (plan (plan files k).keep j).delete,
            (plan (plan files k).keep j).skipped⟩ := rfl
      _ = ⟨(plan files k).keep, [], []⟩ := by rw [hkeep, hdelete, hskipped]
  · intro hjk
    apply List.Sublist.flatMap_right
    intro group _
    exact List.take_sublist_take_left hjk

/-! ### Listings in another order -/

variable {files shuffled : List RemoteFile}

theorem groups_of_perm (h : shuffled.Perm files) :
    groups (keyed shuffled) = groups (keyed files) := by
  apply eq_groups (pairwise_groups _) (nodup_groups _)
  intro group
  rw [mem_groups, mem_groups]
  simp only [h.mem_iff]

/-- The places of a group are held by the same ranks. -/
theorem ranks_of_perm (h : shuffled.Perm files) (group : String) :
    (ranked (keyed shuffled) group).map rank = (ranked (keyed files) group).map rank := by
  have hperm : (ranked (keyed shuffled) group).Perm (ranked (keyed files) group) :=
    (List.mergeSort_perm ..).trans (((h.filterMap _).filter _).trans (List.mergeSort_perm ..).symm)
  have hsorted : ∀ files, ((ranked files group).map rank).Pairwise above := by
    intro files
    apply List.pairwise_map.2
    exact (pairwise_ranked files group).imp newerFirst_iff.1
  apply (hperm.map rank).eq_of_pairwise _ (hsorted _) (hsorted _)
  intro p q _ _ hpq hqp
  exact above_antisymm hpq hqp

/-- The paths of a group do not depend on the order of the listing. -/
theorem paths_of_perm (h : shuffled.Perm files) (group : String) :
    (members (keyed shuffled) group).map (·.path) = (members (keyed files) group).map (·.path) := by
  have hpaths : ∀ files, (members files group).map (·.path) =
      ((ranked files group).map rank).map (·.2) := by
    intro files
    rw [members_eq, List.map_map, List.map_map]
    rfl
  rw [hpaths, hpaths, ranks_of_perm h]

/-- Whatever is chosen by the place in a group. -/
theorem chosen_paths_of_perm (h : shuffled.Perm files) {choose : List RemoteFile → List RemoteFile}
    {cut : List String → List String}
    (hcut : ∀ fs, (choose fs).map (·.path) = cut (fs.map (·.path))) :
    (chosen choose shuffled).map (·.path) = (chosen choose files).map (·.path) := by
  rw [chosen, chosen, List.map_flatMap, List.map_flatMap, groups_of_perm h]
  apply List.flatMap_congr
  intro group _
  rw [hcut, hcut, paths_of_perm h]

/-- **The order of a listing does not matter.** Whatever order the files are listed in, the same
paths are kept and the same paths are deleted, in the same order, and the same files are skipped. -/
theorem plan_of_perm (h : shuffled.Perm files) (keep : Nat) :
    (plan shuffled keep).keep.map (·.path) = (plan files keep).keep.map (·.path) ∧
    (plan shuffled keep).delete.map (·.path) = (plan files keep).delete.map (·.path) ∧
    (plan shuffled keep).skipped.Perm (plan files keep).skipped := by
  refine ⟨?_, ?_, h.filter _⟩
  · show (chosen (·.take keep) shuffled).map _ = (chosen (·.take keep) files).map _
    exact chosen_paths_of_perm h fun _ => List.map_take
  · show (chosen (·.drop keep) shuffled).map _ = (chosen (·.drop keep) files).map _
    exact chosen_paths_of_perm h fun _ => List.map_drop

/-- A tie that is cut in two: leading zeros are the same version, and the path decides. -/
theorem plan_of_perm_tie :
    let one : RemoteFile := { path := "a/demo-1.0-1.fc30.x86_64.rpm" }
    let padded : RemoteFile := { path := "b/demo-1.0-01.fc30.x86_64.rpm" }
    keyOf? padded = keyOf? one ∧ [padded, one].Perm [one, padded] ∧
      plan [one, padded] 1 = ⟨[padded], [one], []⟩ ∧
      (plan [padded, one] 1).keep.map (·.path) = [padded.path] ∧
      (plan [padded, one] 1).delete.map (·.path) = [one.path] := by
  intro one padded
  have hsame : keyOf? padded = keyOf? one := by decide +kernel
  obtain ⟨key, hkey⟩ : ∃ key, keyOf? one = some key :=
    Option.isSome_iff_exists.1 (by decide +kernel)
  have hplan : plan [one, padded] 1 = ⟨[padded], [one], []⟩ := by
    apply plan_pair hkey (hsame.trans hkey) rfl
    apply Bool.eq_false_iff.2
    intro hnewer
    rcases newerFirst_iff.1 hnewer with hlt | ⟨-, hpath⟩
    · exact String.lt_irrefl _ hlt
    · have hpath : padded.path ≤ one.path := hpath
      exact absurd hpath (by decide)
  have hswap : [padded, one].Perm [one, padded] := List.Perm.swap ..
  obtain ⟨hkeep, hdelete, -⟩ := plan_of_perm hswap 1
  rw [hplan] at hkeep hdelete
  exact ⟨hsame, hswap, hplan, hkeep, hdelete⟩

end Courier.Retention
