import Courier.Proofs.Retention.Selection
import Mathlib.Data.List.Nodup

/-! Planning again, when a part of the files is gone.

A plan sorts each group and cuts it. Taking files out of a listing leaves the others of a group in
their order, for files with different paths can stand in one order only (`members_filter`); and as
long as none of the files to keep is taken out, each group is cut at the same file
(`plan_filter`). So when the first files to delete are gone, the plan of what is left keeps and
skips the same files and deletes the other ones, in the same order (`plan_without_deleted`). -/
namespace Courier.Retention

/-! ### Lists -/

/-- Sorting leaves no choice where no two elements can stand in either order. -/
theorem filter_mergeSort {α : Type} {le : α → α → Bool} {xs : List α}
    (htrans : ∀ a b c, le a b = true → le b c = true → le a c = true)
    (htotal : ∀ a b, (le a b || le b a) = true)
    (hantisymm : ∀ a ∈ xs, ∀ b ∈ xs, le a b = true → le b a = true → a = b) (q : α → Bool) :
    (xs.mergeSort le).filter q = (xs.filter q).mergeSort le := by
  have hperm : ((xs.mergeSort le).filter q).Perm ((xs.filter q).mergeSort le) :=
    ((List.mergeSort_perm xs le).filter q).trans (List.mergeSort_perm _ le).symm
  apply hperm.eq_of_pairwise _ ((List.pairwise_mergeSort htrans htotal xs).filter q)
    (List.pairwise_mergeSort htrans htotal _)
  intro a b ha hb
  have ha := List.mem_mergeSort.1 (List.mem_of_mem_filter ha)
  have hb := List.mem_of_mem_filter (List.mem_mergeSort.1 hb)
  exact hantisymm a ha b hb

theorem flatMap_filter_of_nil {α β : Type} {xs : List α} {q : α → Bool} {f : α → List β}
    (h : ∀ a ∈ xs, q a = false → f a = []) : (xs.filter q).flatMap f = xs.flatMap f := by
  induction xs with
  | nil => rfl
  | cons x xs ih =>
    have ih := ih fun a ha => h a (List.mem_cons_of_mem _ ha)
    by_cases hx : q x = true
    · rw [List.filter_cons_of_pos hx, List.flatMap_cons, List.flatMap_cons, ih]
    · rw [List.filter_cons_of_neg hx, List.flatMap_cons,
        h x (List.mem_cons_self ..) (Bool.eq_false_iff.2 hx), ih, List.nil_append]

/-- A cut stays where it is if nothing in front of it is taken out. -/
theorem cut_filter {α : Type} {q : α → Bool} {n : Nat} {xs : List α}
    (h : ∀ x ∈ xs.take n, q x = true) :
    (xs.filter q).take n = xs.take n ∧ (xs.filter q).drop n = (xs.drop n).filter q := by
  induction n generalizing xs with
  | zero => exact ⟨rfl, rfl⟩
  | succ n ih =>
    cases xs with
    | nil => exact ⟨rfl, rfl⟩
    | cons x xs =>
      rw [List.take_succ_cons] at h
      obtain ⟨htake, hdrop⟩ := ih fun y hy => h y (List.mem_cons_of_mem _ hy)
      rw [List.filter_cons_of_pos (h x (List.mem_cons_self ..))]
      exact ⟨congrArg (x :: ·) htake, hdrop⟩

/-! ### Groups of a part -/

/-- The groups that are left, in their order. -/
theorem groups_of_subset {files part : List RemoteFile} (h : part ⊆ files) :
    (groups (keyed files)).filter (fun g => decide (g ∈ groups (keyed part))) =
      groups (keyed part) := by
  apply eq_groups ((pairwise_groups _).filter _) ((nodup_groups _).filter _)
  intro g
  rw [List.mem_filter, decide_eq_true_eq]
  constructor
  · intro hg
    exact hg.2
  · intro hg
    obtain ⟨f, hf, hfg⟩ := mem_groups.1 hg
    exact ⟨mem_groups.2 ⟨f, h hf, hfg⟩, hg⟩

/-- What is chosen of a part, by the groups of the whole. -/
theorem chosen_of_subset {files part : List RemoteFile} (h : part ⊆ files)
    {choose : List RemoteFile → List RemoteFile} (hnil : choose [] = []) :
    chosen choose part =
      (groups (keyed files)).flatMap fun group => choose (members (keyed part) group) := by
  rw [chosen, ← groups_of_subset h, flatMap_filter_of_nil]
  intro group _ hout
  rw [members_of_not_mem (of_decide_eq_false hout), hnil]

section

variable {files : List RemoteFile} (q : RemoteFile → Bool)

variable (hpaths : (files.map (·.path)).Nodup)
include hpaths

/-- No two files of a listing stand at one place of the order, if their paths differ. -/
theorem eq_of_newerFirst {a b : Keyed} (ha : a ∈ keyed files) (hb : b ∈ keyed files)
    (hab : newerFirst a b = true) (hba : newerFirst b a = true) : a = b := by
  obtain ⟨k, f⟩ := a
  obtain ⟨l, g⟩ := b
  obtain ⟨hf, hk⟩ := mem_keyed.1 ha
  obtain ⟨hg, hl⟩ := mem_keyed.1 hb
  have hrank : rank (k, f) = rank (l, g) :=
    above_antisymm (newerFirst_iff.1 hab) (newerFirst_iff.1 hba)
  have hpath : f.path = g.path := congrArg Prod.snd hrank
  obtain rfl : f = g := List.inj_on_of_nodup_map hpaths hf hg hpath
  obtain rfl : k = l := Option.some.inj (hk.symm.trans hl)
  rfl

/-- Taking files out of a listing leaves the others of a group in their order. -/
theorem members_filter (group : String) :
    members (keyed (files.filter q)) group = (members (keyed files) group).filter q := by
  have hsame : ((keyed files).filter fun f => q f.2).filter (fun f => f.1.group == group) =
      ((keyed files).filter fun f => f.1.group == group).filter fun f => q f.2 := by
    rw [List.filter_filter, List.filter_filter]
    exact List.filter_congr fun f _ => Bool.and_comm ..
  rw [members, members, List.filter_map, keyed_filter_part, hsame, ← filter_mergeSort
    newerFirst_trans newerFirst_total]
  · rfl
  · intro a ha b hb
    exact eq_of_newerFirst hpaths (List.mem_of_mem_filter ha) (List.mem_of_mem_filter hb)

/-- What is chosen of a part is chosen of what is left of each group. -/
theorem chosen_filter {choose : List RemoteFile → List RemoteFile} (hnil : choose [] = []) :
    chosen choose (files.filter q) = (groups (keyed files)).flatMap fun group =>
      choose ((members (keyed files) group).filter q) := by
  rw [chosen_of_subset (List.filter_subset_self ..) hnil]
  simp only [members_filter q hpaths]

/-! ### Plans of a part -/

/-- Files that are not to be kept may be taken out before or after planning. -/
theorem plan_filter {keep : Nat} (hkept : ∀ f ∈ (plan files keep).keep, q f = true) :
    plan (files.filter q) keep = ⟨(plan files keep).keep, (plan files keep).delete.filter q,
      (plan files keep).skipped.filter q⟩ := by
  have hcut : ∀ group ∈ groups (keyed files),
      ((members (keyed files) group).filter q).take keep = (members (keyed files) group).take keep ∧
      ((members (keyed files) group).filter q).drop keep =
        ((members (keyed files) group).drop keep).filter q := by
    intro group hgroup
    apply cut_filter
    intro f hf
    exact hkept f (List.mem_flatMap.2 ⟨group, hgroup, hf⟩)
  have hkeep : (plan (files.filter q) keep).keep = (plan files keep).keep := by
    refine (chosen_filter q hpaths (List.take_nil ..)).trans ?_
    exact List.flatMap_congr fun group hgroup => (hcut group hgroup).1
  have hdelete : (plan (files.filter q) keep).delete = (plan files keep).delete.filter q := by
    refine (chosen_filter q hpaths (List.drop_nil ..)).trans ?_
    refine Eq.trans ?_ List.filter_flatMap.symm
    exact List.flatMap_congr fun group hgroup => (hcut group hgroup).2
  have hskipped : (plan (files.filter q) keep).skipped = (plan files keep).skipped.filter q := by
    simp only [plan, List.filter_filter]
    exact List.filter_congr fun f _ => Bool.and_comm ..
  rw [← hkeep, ← hdelete, ← hskipped]

end

/-- The files of a listing that are left when some are gone, by their paths. -/
def without (files gone : List RemoteFile) : List RemoteFile :=
  files.filter fun f => decide (f.path ∉ gone.map (·.path))

section

variable {gone fs : List RemoteFile}

theorem without_of_disjoint
    (h : ∀ a ∈ fs.map (·.path), ∀ b ∈ gone.map (·.path), a ≠ b) : without fs gone = fs := by
  apply List.filter_eq_self.2
  intro f hf
  apply decide_eq_true
  intro hin
  exact h _ (List.mem_map_of_mem hf) _ hin rfl

theorem without_self (fs : List RemoteFile) : without fs fs = [] := by
  apply List.filter_eq_nil_iff.2
  intro f hf hout
  exact of_decide_eq_true hout (List.mem_map_of_mem hf)

end

/-- **Planning goes on where it was left.** Of a listing whose first files to delete are gone, the
same files are kept and skipped, and those to delete are the others, in the same order. -/
theorem plan_without_deleted {files : List RemoteFile} (hpaths : (files.map (·.path)).Nodup)
    (keep i : Nat) :
    plan (without files ((plan files keep).delete.take i)) keep =
      { plan files keep with delete := (plan files keep).delete.drop i } := by
  generalize hgone : (plan files keep).delete.take i = gone
  generalize hleft : (plan files keep).delete.drop i = left
  have hdelete : (plan files keep).delete = gone ++ left := by
    rw [← hgone, ← hleft, List.take_append_drop]
  -- the lists of the plan have the paths of the listing, each of them once
  have hnodup := (((plan_perm files keep).map (·.path)).nodup_iff).2 hpaths
  rw [hdelete, List.map_append, List.map_append, List.map_append, List.nodup_append,
    List.nodup_append, List.nodup_append] at hnodup
  obtain ⟨⟨-, ⟨-, -, hothers⟩, hkept⟩, -, hskipped⟩ := hnodup
  have hkeep : without (plan files keep).keep gone = (plan files keep).keep := by
    apply without_of_disjoint
    intro a ha b hb
    exact hkept a ha b (List.mem_append_left _ hb)
  have hrest : without (plan files keep).delete gone = left := by
    rw [hdelete, without, List.filter_append, ← without, ← without, without_self, List.nil_append]
    apply without_of_disjoint
    intro a ha b hb
    exact (hothers b hb a ha).symm
  have hskip : without (plan files keep).skipped gone = (plan files keep).skipped := by
    apply without_of_disjoint
    intro a ha b hb
    exact (hskipped b (List.mem_append_right _ (List.mem_append_left _ hb)) a ha).symm
  rw [without, plan_filter _ hpaths]
  · rw [← without, ← without, hrest, hskip]
  · exact List.filter_eq_self.1 hkeep

end Courier.Retention
