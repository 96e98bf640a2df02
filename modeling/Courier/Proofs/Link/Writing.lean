import Courier.Link.Sink

/-! What a stream takes of what is written.

Where single writes take something, it does not matter how bytes are cut into writes: a stream takes
as many of them as its budget allows, and if these are not all it fails with what it meets then
(`writeAll_eq`). A stream lasts for some bytes when it takes all of them. -/
namespace Courier.Link

/-- What writing fails with behind the budget. -/
def Refusal.fault : Refusal → Fault
  | .fails fault => fault
  | .takesNothing => .writeZero

namespace Sink

/-- How many of `n` bytes a stream takes, in whatever pieces they are written. -/
def takes (s : Sink) (n : Nat) : Nat :=
  match s.budget with
  | some (left, _) => min left n
  | none => n

/-- What writing more than the stream takes fails with. -/
def shortage (s : Sink) : Fault :=
  match s.budget with
  | some (_, refusal) => refusal.fault
  | none => .writeZero

theorem spend_zero (s : Sink) : s.spend 0 = s := by
  obtain ⟨perWrite, budget, closing⟩ := s
  cases budget <;> rfl

/-- Bytes are spent together or one after the other. -/
theorem spend_spend (s : Sink) (m n : Nat) : (s.spend m).spend n = s.spend (m + n) := by
  obtain ⟨perWrite, budget, closing⟩ := s
  cases budget with
  | none => rfl
  | some b => simp [spend, Nat.sub_sub]

theorem shortage_spend (s : Sink) (n : Nat) : (s.spend n).shortage = s.shortage := by
  obtain ⟨perWrite, budget, closing⟩ := s
  cases budget <;> rfl

theorem takes_le (s : Sink) (n : Nat) : s.takes n ≤ n := by
  unfold takes
  split
  · exact Nat.min_le_right ..
  · exact Nat.le_refl n

/-- What is taken of more bytes is what is taken of the first of them, and then of the others. -/
theorem takes_add (s : Sink) (m n : Nat) :
    s.takes (m + n) = s.takes m + (s.spend (s.takes m)).takes n := by
  obtain ⟨perWrite, budget, closing⟩ := s
  cases budget with
  | none => rfl
  | some b =>
    simp only [takes, spend, Option.map_some]
    omega

/-- A stream that did not take all of something takes nothing after it. -/
theorem takes_spend_of_short {s : Sink} {m : Nat} (h : s.takes m ≠ m) (n : Nat) :
    (s.spend (s.takes m)).takes n = 0 := by
  obtain ⟨perWrite, budget, closing⟩ := s
  cases budget with
  | none => exact absurd rfl h
  | some b =>
    simp only [takes, spend, Option.map_some] at *
    omega

/-- All of two writes is taken when all of the second is, behind what was taken of the first. -/
theorem takes_add_eq_iff {s : Sink} {m n : Nat} (hn : n ≠ 0) :
    s.takes (m + n) = m + n ↔ (s.spend (s.takes m)).takes n = n := by
  have hsum := s.takes_add m n
  have hm := s.takes_le m
  have hle := (s.spend (s.takes m)).takes_le n
  constructor
  · intro h
    omega
  · intro h
    have hall : s.takes m = m := Decidable.byContradiction fun hshort =>
      hn (h.symm.trans (takes_spend_of_short hshort n))
    omega

theorem takes_le_takes (s : Sink) {m n : Nat} (h : m ≤ n) : s.takes m ≤ s.takes n := by
  obtain ⟨more, rfl⟩ := Nat.exists_eq_add_of_le h
  rw [takes_add]
  exact Nat.le_add_right ..

theorem takes_of_le {s : Sink} {k n : Nat} (h : k ≤ s.takes n) : s.takes k = k := by
  unfold takes at *
  split at h
  · omega
  · rfl

/-! ### Single writes -/

/-- A stream that fails a write takes nothing, and is short of just that. -/
theorem takes_of_write_error {s : Sink} {n : Nat} {fault : Fault} (h : s.write n = .error fault) :
    s.takes n = 0 ∧ s.shortage = fault := by
  unfold write at h
  split at h
  · next hbudget =>
    cases h
    simp [takes, shortage, hbudget, Refusal.fault]
  · cases h

theorem write_le_takes {s : Sink} {n k : Nat} (h : s.write n = .ok k) : k ≤ s.takes n := by
  unfold write at h
  split at h
  · cases h
  · cases h
    unfold room takes
    grind

/-- A write that takes nothing of something meets the end of the budget. -/
theorem takes_of_write_nothing {s : Sink} (hwrite : s.perWrite ≠ some 0) {n : Nat} (hn : n ≠ 0)
    (h : s.write n = .ok 0) : s.takes n = 0 ∧ s.shortage = .writeZero := by
  obtain ⟨perWrite, budget, closing⟩ := s
  unfold write room at h
  unfold takes shortage Refusal.fault
  grind

/-! ### Whole writes -/

/-- Writing takes what the stream takes, and fails if that is not all. -/
theorem writeFrom_eq {s : Sink} (hwrite : s.perWrite ≠ some 0) (taken n : Nat) :
    s.writeFrom taken n =
      ⟨taken + s.takes n, if s.takes n = n then .ok () else .error s.shortage,
        s.spend (s.takes n)⟩ := by
  fun_induction writeFrom s taken n with
  | case1 s taken =>
    rw [Nat.le_zero.1 (s.takes_le 0), if_pos rfl, spend_zero, Nat.add_zero]
  | case2 s taken n hne fault h =>
    obtain ⟨htakes, rfl⟩ := takes_of_write_error h
    rw [htakes, if_neg (Ne.symm hne), spend_zero, Nat.add_zero]
  | case3 s taken n hne h =>
    obtain ⟨htakes, hshortage⟩ := takes_of_write_nothing hwrite hne h
    rw [htakes, if_neg (Ne.symm hne), hshortage, spend_zero, Nat.add_zero]
  | case4 s taken n hne k hwrite' ih =>
    -- the first write takes `k + 1` bytes, and what is taken of the others is taken after it
    have hle := write_le hwrite'
    have hsum : s.takes n = k + 1 + (s.spend (k + 1)).takes (n - (k + 1)) := by
      have hadd := s.takes_add (k + 1) (n - (k + 1))
      rwa [takes_of_le (write_le_takes hwrite'), Nat.add_sub_cancel' hle] at hadd
    have hall : (s.spend (k + 1)).takes (n - (k + 1)) = n - (k + 1) ↔ s.takes n = n := by
      omega
    rw [ih hwrite, hsum, spend_spend, shortage_spend, Nat.add_assoc]
    simp only [← hsum, hall]

/-- Writing all takes what the budget allows, and fails with what the stream meets then if that is
not all. -/
theorem writeAll_eq {s : Sink} (hwrite : s.perWrite ≠ some 0) (n : Nat) :
    s.writeAll n =
      ⟨s.takes n, if s.takes n = n then .ok () else .error s.shortage, s.spend (s.takes n)⟩ := by
  rw [writeAll, writeFrom_eq hwrite, Nat.zero_add]

/-! ### Streams that take all of it -/

/-- Whether a stream takes `n` more bytes, written in whatever pieces. -/
def Lasts (s : Sink) (n : Nat) : Prop :=
  n = 0 ∨ s.perWrite ≠ some 0 ∧ ∀ left refusal, s.budget = some (left, refusal) → n ≤ left

theorem Lasts.front {s : Sink} {m n : Nat} (h : s.Lasts (m + n)) : s.Lasts m := by
  rcases h with h | ⟨hwrite, hbudget⟩
  · exact .inl (by omega)
  · exact .inr ⟨hwrite, fun left refusal hb => by
      have := hbudget left refusal hb
      omega⟩

theorem Lasts.spend {s : Sink} {m n : Nat} (h : s.Lasts (m + n)) : (s.spend m).Lasts n := by
  rcases h with h | ⟨hwrite, hbudget⟩
  · exact .inl (by omega)
  · refine .inr ⟨hwrite, fun left refusal hb => ?_⟩
    obtain ⟨⟨all, refusal⟩, hall, hleft⟩ := Option.map_eq_some_iff.1 hb
    cases hleft
    have := hbudget all _ hall
    omega

theorem writeAll_of_lasts {s : Sink} {n : Nat} (h : s.Lasts n) :
    s.writeAll n = ⟨n, .ok (), s.spend n⟩ := by
  rcases h with rfl | ⟨hwrite, hbudget⟩
  · rw [writeAll, writeFrom, if_pos rfl, spend_zero]
  · have htakes : s.takes n = n := by
      unfold takes
      split
      · next left refusal hb => exact Nat.min_eq_right (hbudget left refusal hb)
      · rfl
    rw [writeAll_eq hwrite, htakes, if_pos rfl]

end Sink
end Courier.Link
