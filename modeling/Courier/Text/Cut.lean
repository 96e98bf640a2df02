/-! Cutting a list at a separator.

`cutFirst` cuts at the first occurrence and `cutLast` at the last one. Both lose nothing: the two
parts with the separator between them are the list again (`cutFirst_eq_some_iff`,
`cutLast_eq_some_iff`), and the part that the search went through is free of the separator, so
each cut is the only one of its kind. `cutAll` cuts at every separator, and putting separators back
is its inverse (`flatMap_cutAll`, `cutAll_flatMap`). -/
namespace Courier.Text

variable {α : Type} [DecidableEq α]

/-- What stands before the first separator, and what behind it. -/
def cutFirst (sep : α) (xs : List α) : Option (List α × List α) :=
  match xs.dropWhile (· ≠ sep) with
  | [] => none
  | _ :: after => some (xs.takeWhile (· ≠ sep), after)

/-- What stands before the last separator, and what behind it. -/
def cutLast (sep : α) (xs : List α) : Option (List α × List α) :=
  (cutFirst sep xs.reverse).map fun (after, before) => (before.reverse, after.reverse)

/-- Every part between separators, the empty ones included. -/
def cutAll (sep : α) : List α → List (List α)
  | [] => [[]]
  | x :: xs =>
    if x = sep then [] :: cutAll sep xs
    else match cutAll sep xs with
      | [] => [[x]]
      | part :: parts => (x :: part) :: parts

/-! ### What a cut says about its list -/

@[simp] theorem cutFirst_nil (sep : α) : cutFirst sep [] = none := rfl

theorem cutFirst_cons (sep x : α) (xs : List α) :
    cutFirst sep (x :: xs) =
      if x = sep then some ([], xs)
      else (cutFirst sep xs).map fun (before, after) => (x :: before, after) := by
  by_cases h : x = sep
  · simp [cutFirst, h]
  · simp only [cutFirst, List.dropWhile_cons, List.takeWhile_cons, ne_eq, h, not_false_eq_true,
      decide_true, if_true, if_false]
    split <;> rfl

theorem cutFirst_eq_some_iff {sep : α} {xs before after : List α} :
    cutFirst sep xs = some (before, after) ↔ xs = before ++ sep :: after ∧ sep ∉ before := by
  induction xs generalizing before with
  | nil => simp
  | cons x xs ih =>
    rw [cutFirst_cons]
    by_cases h : x = sep
    · subst h
      cases before <;> simp [eq_comm]
      intro hx
      simp [hx]
    · cases before with
      | nil => simp [h]
      | cons y ys =>
        simp only [h, if_false, Option.map_eq_some_iff, Prod.mk.injEq, Prod.exists, List.cons.injEq,
          List.cons_append, List.mem_cons, not_or]
        constructor
        · rintro ⟨a, b, hc, ⟨rfl, rfl⟩, rfl⟩
          obtain ⟨rfl, hn⟩ := ih.1 hc
          exact ⟨⟨rfl, rfl⟩, Ne.symm h, hn⟩
        · rintro ⟨⟨rfl, hx⟩, _, hn⟩
          exact ⟨ys, after, ih.2 ⟨hx, hn⟩, ⟨rfl, rfl⟩, rfl⟩

theorem cutFirst_eq_none_iff {sep : α} {xs : List α} : cutFirst sep xs = none ↔ sep ∉ xs := by
  induction xs with
  | nil => simp
  | cons x xs ih =>
    rw [cutFirst_cons]
    by_cases h : x = sep
    · simp [h]
    · simp [h, ih, Ne.symm h]

theorem takeWhile_of_cutFirst {sep : α} {xs before after : List α}
    (h : cutFirst sep xs = some (before, after)) : xs.takeWhile (· ≠ sep) = before := by
  unfold cutFirst at h
  split at h
  · cases h
  · exact congrArg Prod.fst (Option.some.inj h)

theorem cutLast_eq_some_iff {sep : α} {xs before after : List α} :
    cutLast sep xs = some (before, after) ↔ xs = before ++ sep :: after ∧ sep ∉ after := by
  simp only [cutLast, Option.map_eq_some_iff, Prod.mk.injEq, Prod.exists]
  constructor
  · rintro ⟨a, b, h, rfl, rfl⟩
    obtain ⟨he, hn⟩ := cutFirst_eq_some_iff.1 h
    refine ⟨?_, by simpa using hn⟩
    have := congrArg List.reverse he
    simpa using this
  · rintro ⟨rfl, hn⟩
    exact ⟨after.reverse, before.reverse, cutFirst_eq_some_iff.2 ⟨by simp, by simpa using hn⟩,
      by simp, by simp⟩

theorem cutLast_eq_none_iff {sep : α} {xs : List α} : cutLast sep xs = none ↔ sep ∉ xs := by
  simp [cutLast, cutFirst_eq_none_iff]

theorem cutAll_ne_nil (sep : α) (xs : List α) : cutAll sep xs ≠ [] := by
  cases xs with
  | nil => exact List.cons_ne_nil _ _
  | cons x xs =>
    rw [cutAll]
    split
    · exact List.cons_ne_nil _ _
    · split
      · exact List.cons_ne_nil _ _
      · exact List.cons_ne_nil _ _

theorem cutAll_append (sep : α) (xs ys : List α) :
    cutAll sep (xs ++ sep :: ys) = cutAll sep xs ++ cutAll sep ys := by
  induction xs with
  | nil => simp [cutAll]
  | cons x xs ih =>
    by_cases hx : x = sep
    · simp [cutAll, hx, ih]
    · obtain ⟨part, parts, hcut⟩ := List.exists_cons_of_ne_nil (cutAll_ne_nil sep xs)
      simp only [List.cons_append, cutAll, if_neg hx, ih, hcut]

theorem cutAll_of_not_mem {sep : α} {xs : List α} (h : sep ∉ xs) : cutAll sep xs = [xs] := by
  induction xs with
  | nil => rfl
  | cons x xs ih =>
    rw [List.mem_cons, not_or] at h
    rw [cutAll, if_neg (Ne.symm h.1), ih h.2]

theorem cutAll_of_cutFirst {sep : α} {xs before after : List α}
    (h : cutFirst sep xs = some (before, after)) : cutAll sep xs = before :: cutAll sep after := by
  obtain ⟨rfl, hfree⟩ := cutFirst_eq_some_iff.1 h
  rw [cutAll_append, cutAll_of_not_mem hfree]
  rfl

/-- The first part of all is what the first separator cuts off. -/
theorem exists_cutAll_eq (sep : α) (xs : List α) :
    ∃ more, cutAll sep xs = ((cutFirst sep xs).getD (xs, [])).1 :: more := by
  cases hcut : cutFirst sep xs with
  | none => exact ⟨[], cutAll_of_not_mem (cutFirst_eq_none_iff.1 hcut)⟩
  | some cut => exact ⟨cutAll sep cut.2, cutAll_of_cutFirst hcut⟩

theorem not_mem_of_mem_cutAll {sep : α} {xs part : List α} (h : part ∈ cutAll sep xs) :
    sep ∉ part := by
  induction xs generalizing part with
  | nil =>
    obtain rfl := List.mem_singleton.1 h
    exact List.not_mem_nil
  | cons x xs ih =>
    rw [cutAll] at h
    split at h
    · rcases List.mem_cons.1 h with rfl | h
      · exact List.not_mem_nil
      · exact ih h
    next hx =>
    split at h
    · rw [List.mem_singleton.1 h, List.mem_singleton]
      exact Ne.symm hx
    next first rest hcut =>
    rcases List.mem_cons.1 h with rfl | h
    · rw [List.mem_cons, not_or]
      exact ⟨Ne.symm hx, ih (hcut ▸ List.mem_cons_self ..)⟩
    · exact ih (hcut ▸ List.mem_cons_of_mem _ h)

/-- The parts with a separator in front of each are the list, with one in front of it. -/
theorem flatMap_cutAll (sep : α) (xs : List α) :
    (cutAll sep xs).flatMap (sep :: ·) = sep :: xs := by
  induction xs with
  | nil => rfl
  | cons x xs ih =>
    rw [cutAll]
    split
    · next hx => rw [List.flatMap_cons, ih, hx]; rfl
    · split
      · next hnil => exact absurd hnil (cutAll_ne_nil sep xs)
      · next part parts hcut =>
        rw [hcut, List.flatMap_cons, List.cons_append] at ih
        rw [List.flatMap_cons, List.cons_append, List.cons_append, (List.cons.inj ih).2]

/-- Separators between parts that are free of them cut the list into just these parts. -/
theorem cutAll_flatMap {sep : α} {parts : List (List α)} (h : ∀ part ∈ parts, sep ∉ part) :
    cutAll sep (parts.flatMap (sep :: ·)) = [] :: parts := by
  have hcut (xs : List α) : cutAll sep (sep :: xs) = [] :: cutAll sep xs := cutAll_append sep [] xs
  induction parts with
  | nil => rfl
  | cons part parts ih =>
    obtain ⟨hpart, hparts⟩ := List.forall_mem_cons.1 h
    rw [List.flatMap_cons, List.cons_append, hcut]
    cases parts with
    | nil => rw [List.flatMap_nil, List.append_nil, cutAll_of_not_mem hpart]
    | cons next rest =>
      have hnext := ih hparts
      rw [List.flatMap_cons, List.cons_append, hcut] at hnext
      rw [List.flatMap_cons, List.cons_append, cutAll_append, cutAll_of_not_mem hpart,
        (List.cons.inj hnext).2]
      rfl

/-! ### Occurrences -/

/-- Where `needle` first occurs. -/
def indexOf (needle : List α) : List α → Option Nat
  | [] => if needle.isEmpty then some 0 else none
  | x :: xs => if needle.isPrefixOf (x :: xs) then some 0 else (indexOf needle xs).map (· + 1)

/-- Whether `needle` occurs, its first occurrence not at the start. -/
def occursInside (needle xs : List α) : Bool :=
  match indexOf needle xs with
  | some (_ + 1) => true
  | _ => false

theorem indexOf_eq_zero_iff {needle xs : List α} : indexOf needle xs = some 0 ↔ needle <+: xs := by
  cases xs with
  | nil => simp [indexOf]
  | cons x xs =>
    rw [indexOf, ← List.isPrefixOf_iff_prefix]
    split
    · simp [*]
    · simp [*]

theorem isSome_indexOf_iff {needle xs : List α} : (indexOf needle xs).isSome ↔ needle <:+: xs := by
  induction xs with
  | nil => simp [indexOf]
  | cons x xs ih =>
    rw [indexOf, List.infix_cons_iff, ← ih, ← List.isPrefixOf_iff_prefix]
    split
    · simp [*]
    · simp [*]

/-- Where `needle` is in front, an occurrence further behind does not count. -/
theorem occursInside_iff {needle xs : List α} :
    occursInside needle xs = true ↔ needle <:+: xs ∧ ¬needle <+: xs := by
  rw [← isSome_indexOf_iff, ← indexOf_eq_zero_iff, occursInside]
  split
  · simp [*]
  · next h =>
    cases hi : indexOf needle xs with
    | none => simp
    | some n =>
      cases n with
      | zero => simp
      | succ n => exact absurd hi (h n)

end Courier.Text
