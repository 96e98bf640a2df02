import Courier.Proofs.Retention.VersionOrder
import Courier.Version

/-! Keys of versions, in all three cases of a comparison.

The order of versions is total (`older_trichotomy`), so that two aligned versions have equal keys
just when they are the same version (`versionKey_order`). Versions in which a run has more than ten
digits are aligned with others that have as many there, such as the time of a build; where one is
longer than the other the keys may be in the wrong order (`long_runs_misplaced`). -/
namespace Courier.Retention

/-! ### Older, equal or newer -/

theorem Token.before_irrefl (a : Token) : a.before a = false := by
  cases a with
  | number n => exact decide_eq_false (Nat.lt_irrefl n)
  | tilde => rfl
  | mark c => exact decide_eq_false (Nat.lt_irrefl c.toNat)

theorem older_irrefl (ts : List Token) : older ts ts = false := by
  induction ts with
  | nil => rfl
  | cons t ts ih => simp [older, Token.before_irrefl, ih]

theorem Piece.token_trichotomy {p q : Piece} (hp : p.Proper) (hq : q.Proper) :
    p.token.before q.token = true ∨ p.token = q.token ∨ q.token.before p.token = true := by
  cases hp with
  | @run a ha =>
    cases hq with
    | @run b hb =>
      simp only [token, Token.before, decide_eq_true_eq, Token.number.injEq]
      exact Nat.lt_trichotomy ..
    | other hc hlt =>
      obtain ⟨e, -, ⟨htoken, -⟩ | ⟨htoken, rfl, -, he⟩⟩ := head_of_other hc hlt
      · rw [htoken]
        exact .inr (.inr rfl)
      · rw [htoken]
        simp only [token, Token.before, decide_eq_true_eq, lt_iff_toNat, zero_toNat, nine_toNat]
        omega
  | other hc hlt =>
    obtain ⟨d, -, htoken⟩ := head_of_other hc hlt
    cases hq with
    | run hb =>
      rcases htoken with ⟨htoken, -⟩ | ⟨htoken, rfl, -, hd⟩
      · rw [htoken]
        exact .inl rfl
      · rw [htoken]
        simp only [token, Token.before, decide_eq_true_eq, lt_iff_toNat, zero_toNat, nine_toNat]
        omega
    | other hc' hlt' =>
      obtain ⟨e, -, htoken'⟩ := head_of_other hc' hlt'
      rcases htoken with ⟨htoken, -⟩ | ⟨htoken, rfl, -, -⟩
      · rcases htoken' with ⟨htoken', -⟩ | ⟨htoken', rfl, -, -⟩
        · exact .inr (.inl (htoken.trans htoken'.symm))
        · rw [htoken, htoken']
          exact .inl rfl
      · rcases htoken' with ⟨htoken', -⟩ | ⟨htoken', rfl, -, -⟩
        · rw [htoken, htoken']
          exact .inr (.inr rfl)
        · rw [htoken, htoken']
          simp only [Token.before, decide_eq_true_eq, lt_iff_toNat, Token.mark.injEq, eq_iff_toNat]
          omega

/-- Of two versions that are not the same one is older. -/
theorem older_trichotomy {ps qs : List Piece} (hps : ∀ p ∈ ps, p.Proper)
    (hqs : ∀ q ∈ qs, q.Proper) :
    older (ps.map Piece.token) (qs.map Piece.token) = true ∨
      ps.map Piece.token = qs.map Piece.token ∨
        older (qs.map Piece.token) (ps.map Piece.token) = true := by
  induction ps generalizing qs with
  | nil =>
    cases qs with
    | nil => exact .inr (.inl rfl)
    | cons q qs =>
      simp only [List.map_nil, List.map_cons, older, decide_eq_true_eq]
      by_cases htilde : q.token = .tilde
      · exact .inr (.inr htilde)
      · exact .inl htilde
  | cons p ps ih =>
    cases qs with
    | nil =>
      simp only [List.map_nil, List.map_cons, older, decide_eq_true_eq]
      by_cases htilde : p.token = .tilde
      · exact .inl htilde
      · exact .inr (.inr htilde)
    | cons q qs =>
      obtain ⟨hp, hps⟩ := List.forall_mem_cons.1 hps
      obtain ⟨hq, hqs⟩ := List.forall_mem_cons.1 hqs
      simp only [List.map_cons, older, List.cons.injEq, Bool.or_eq_true, Bool.and_eq_true,
        decide_eq_true_eq]
      rcases Piece.token_trichotomy hp hq with hbefore | hsame | hafter
      · exact .inl (.inl hbefore)
      · rcases ih hps hqs with holder | heq | hnewer
        · exact .inl (.inr ⟨hsame, holder⟩)
        · exact .inr (.inl ⟨hsame, heq⟩)
        · exact .inr (.inr (.inr ⟨hsame.symm, hnewer⟩))
      · exact .inr (.inr (.inl hafter))

theorem Piece.SameWidth.symm {p q : Piece} (h : p.SameWidth q) : q.SameWidth p := by
  cases p with
  | run a =>
    cases q with
    | run b => exact h.imp And.symm Eq.symm
    | other c => trivial
  | other c => cases q <;> trivial

theorem Aligned.symm {ps qs : List Piece} (h : Aligned ps qs) : Aligned qs ps := by
  induction ps generalizing qs with
  | nil => cases qs <;> trivial
  | cons p ps ih =>
    cases qs with
    | nil => trivial
    | cons q qs => exact ⟨h.1.symm, fun hsame => ih (h.2 hsame.symm)⟩

/-- **Keys are in the order of the versions.** Of two versions of which the runs of digits have one
width up to the first difference, however long they are, keys are smaller, equal or greater just
when these are older, the same or newer. -/
theorem versionKey_order {v w : String} (hv : ∀ c ∈ v.toList, endMark < c)
    (hw : ∀ c ∈ w.toList, endMark < c) (h : Aligned (pieces v.toList) (pieces w.toList)) :
    (versionKey v < versionKey w ↔ older (tokens v.toList) (tokens w.toList) = true) ∧
    (versionKey v = versionKey w ↔ tokens v.toList = tokens w.toList) ∧
    (versionKey w < versionKey v ↔ older (tokens w.toList) (tokens v.toList) = true) := by
  have hlt := versionKey_lt_iff_of_aligned hv hw h
  have hgt := versionKey_lt_iff_of_aligned hw hv h.symm
  refine ⟨hlt, ?_, hgt⟩
  have htri := older_trichotomy (proper_pieces hv) (proper_pieces hw)
  rw [← tokens_eq, ← tokens_eq, ← hlt, ← hgt] at htri
  constructor
  · intro heq
    rw [heq] at htri
    rcases htri with habsurd | hsame | habsurd
    · exact absurd habsurd (String.lt_irrefl _)
    · exact hsame
    · exact absurd habsurd (String.lt_irrefl _)
  · intro hsame
    rw [hsame, older_irrefl] at hlt hgt
    have hle := String.not_lt.1 (mt hgt.1 Bool.false_ne_true)
    have hge := String.not_lt.1 (mt hlt.1 Bool.false_ne_true)
    exact String.le_antisymm hle hge

/-- Builds that are numbered by the time, of which one is a candidate of the other. -/
theorem versionKey_order_times :
    let candidate := "1.0-20260131120000~rc1"
    let final := "1.0-20260131120000"
    (∀ c ∈ candidate.toList, endMark < c) ∧ (∀ c ∈ final.toList, endMark < c) ∧
      Aligned (pieces candidate.toList) (pieces final.toList) ∧
      versionKey candidate < versionKey final := by
  intro candidate final
  have hc : ∀ c ∈ candidate.toList, endMark < c := above_of_all (by decide)
  have hf : ∀ c ∈ final.toList, endMark < c := above_of_all (by decide)
  have haligned : Aligned (pieces candidate.toList) (pieces final.toList) := by decide +kernel
  have holder : older (tokens candidate.toList) (tokens final.toList) = true := by decide +kernel
  exact ⟨hc, hf, haligned, (versionKey_order hc hf haligned).1.2 holder⟩

/-- A run of eleven digits is taken for less than one of ten, and leading zeros count when there are
too many of them. -/
theorem long_runs_misplaced :
    (∃ old new : String, (Version.parse? old).isSome ∧ (Version.parse? new).isSome ∧
      older (tokens old.toList) (tokens new.toList) = true ∧ versionKey new < versionKey old) ∧
    ∃ one padded : String, (Version.parse? one).isSome ∧ (Version.parse? padded).isSome ∧
      tokens one.toList = tokens padded.toList ∧ versionKey padded < versionKey one := by
  constructor
  · exact ⟨"1.0-9999999999", "1.0-10000000000", by decide, by decide, by decide +kernel,
      by decide⟩
  · exact ⟨"1.0-1", "1.0-00000000001", by decide, by decide, by decide +kernel, by decide⟩

end Courier.Retention
