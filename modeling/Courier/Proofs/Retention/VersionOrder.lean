import Courier.Retention.Key
import Courier.Text.Numeral

/-! The order of versions, and the order of their keys.

A version is compared token by token: each longest run of digits is one number, a tilde is before
the end of the version, the end is before everything else, and a number is among other characters
where its digits are (`older`). Keys are compared character by character. A version of characters
above the end mark and its key are cut into the same pieces, and at each place the texts of two
pieces are ordered as their tokens are, if they are not runs of digits of different widths
(`Piece.text_append_lt_iff`). So the two orders agree on versions that are aligned in this way
(`Aligned.lt_iff`), as all are in which no run has more than ten digits (`versionKey_lt_iff`). -/
namespace Courier.Retention

/-! ### Tokens -/

/-- What a version is compared by. -/
inductive Token where
  | number (value : Nat)
  | tilde
  | mark (c : Char)
  deriving DecidableEq, Repr

/-- A version, token by token. -/
def tokens : List Char → List Token
  | [] => []
  | c :: cs =>
    if c.isDigit then
      .number (Text.digitsOnto 0 (c :: cs.takeWhile Char.isDigit)) ::
        tokens (cs.dropWhile Char.isDigit)
    else (if c = '~' then .tilde else .mark c) :: tokens cs
termination_by cs => cs.length
decreasing_by
  · have := (List.dropWhile_suffix (l := cs) Char.isDigit).length_le
    simp only [List.length_cons]
    omega
  · simp

/-- The order of tokens at one place. -/
def Token.before : Token → Token → Bool
  | .tilde, b => b ≠ .tilde
  | _, .tilde => false
  | .number m, .number n => m < n
  | .number _, .mark c => '9' < c
  | .mark c, .number _ => c < '0'
  | .mark c, .mark d => c < d

/-- The order of versions, as tokens. -/
def older : List Token → List Token → Bool
  | [], [] => false
  | [], b :: _ => b ≠ .tilde
  | a :: _, [] => a = .tilde
  | a :: as, b :: bs => a.before b || (a = b && older as bs)

/-! ### Pieces

A version is cut where its tokens are, but its numbers are left as they are written. -/

/-- A longest run of digits, or a single other character. -/
inductive Piece where
  | run (digits : List Char)
  | other (c : Char)
  deriving DecidableEq, Repr

/-- The pieces of a version. -/
def pieces : List Char → List Piece
  | [] => []
  | c :: cs =>
    if c.isDigit then
      .run (c :: cs.takeWhile Char.isDigit) :: pieces (cs.dropWhile Char.isDigit)
    else .other c :: pieces cs
termination_by cs => cs.length
decreasing_by
  · have := (List.dropWhile_suffix (l := cs) Char.isDigit).length_le
    simp only [List.length_cons]
    omega
  · simp

namespace Piece

/-- What a piece counts as. -/
def token : Piece → Token
  | run digits => .number (Text.digitsOnto 0 digits)
  | other c => if c = '~' then .tilde else .mark c

/-- How a piece stands in a key. -/
def text : Piece → List Char
  | run digits => padDigits digits
  | other c => [if c = '~' then Retention.tilde else c]

/-- What the pieces of versions are made of. -/
inductive Proper : Piece → Prop where
  | run {digits} : (∀ c ∈ digits, c.isDigit = true) → Proper (.run digits)
  | other {c} : c.isDigit = false → endMark < c → Proper (.other c)

/-- Runs of digits have one width in keys if neither is too long to be padded, or they are equally
long. -/
def SameWidth : Piece → Piece → Prop
  | run a, run b => a.length ≤ numberWidth ∧ b.length ≤ numberWidth ∨ a.length = b.length
  | _, _ => True

instance : (p q : Piece) → Decidable (p.SameWidth q)
  | run _, run _ => inferInstanceAs (Decidable (_ ∨ _))
  | run _, other _ => .isTrue trivial
  | other _, _ => .isTrue trivial

end Piece

/-- Up to the first place where two versions differ, the runs of digits at one place have one
width. -/
def Aligned : List Piece → List Piece → Prop
  | p :: ps, q :: qs => p.SameWidth q ∧ (p.token = q.token → Aligned ps qs)
  | _, _ => True

instance instDecidableAligned : (ps qs : List Piece) → Decidable (Aligned ps qs)
  | [], _ => .isTrue trivial
  | _ :: _, [] => .isTrue trivial
  | p :: ps, q :: qs =>
    have : Decidable (Aligned ps qs) := instDecidableAligned ps qs
    inferInstanceAs (Decidable (p.SameWidth q ∧ (_ → _)))

/-! ### Characters -/

theorem isDigit_iff {c : Char} : c.isDigit = true ↔ 48 ≤ c.toNat ∧ c.toNat ≤ 57 := by
  simp only [Char.isDigit, Bool.and_eq_true, decide_eq_true_eq]
  exact Iff.rfl

theorem lt_iff_toNat {c d : Char} : c < d ↔ c.toNat < d.toNat := Iff.rfl

theorem eq_iff_toNat {c d : Char} : c = d ↔ c.toNat = d.toNat := by
  refine ⟨fun h => h ▸ rfl, fun h => ?_⟩
  exact Char.ext (UInt32.toNat_inj.1 h)

-- The right side can be decided too, but by trying every character there is.
theorem above_of_all {v : List Char} (h : v.all (endMark < ·) = true) : ∀ c ∈ v, endMark < c :=
  fun c hc => of_decide_eq_true (List.all_eq_true.1 h c hc)

theorem append_lt_append_iff {a b x y : List Char} (h : a.length = b.length) :
    a ++ x < b ++ y ↔ a < b ∨ a = b ∧ x < y := by
  induction a generalizing b with
  | nil =>
    obtain rfl : b = [] := by simpa using h.symm
    simp
  | cons c cs ih =>
    cases b with
    | nil => simp at h
    | cons d ds =>
      have hlen : cs.length = ds.length := by simpa using h
      simp only [List.cons_append, List.cons_lt_cons_iff, ih hlen, List.cons.injEq]
      grind

/-! ### Runs of digits -/

/-- Among runs of one width, that of the smaller number comes first, behind equal numbers. -/
theorem digitsOnto_lt_iff {a b : List Char} (h : a.length = b.length) (m n : Nat)
    (ha : ∀ c ∈ a, c.isDigit = true) (hb : ∀ c ∈ b, c.isDigit = true) :
    Text.digitsOnto m a < Text.digitsOnto n b ↔ m < n ∨ m = n ∧ a < b := by
  induction a generalizing b m n with
  | nil =>
    obtain rfl : b = [] := by simpa using h.symm
    simp [Text.digitsOnto]
  | cons c cs ih =>
    cases b with
    | nil => simp at h
    | cons d ds =>
      obtain ⟨hc, hcs⟩ := List.forall_mem_cons.1 ha
      obtain ⟨hd, hds⟩ := List.forall_mem_cons.1 hb
      have hlen : cs.length = ds.length := by simpa using h
      have hstep := ih hlen (m * 10 + Text.digitValue c) (n * 10 + Text.digitValue d) hcs hds
      show Text.digitsOnto _ cs < Text.digitsOnto _ ds ↔ _
      rw [hstep, List.cons_lt_cons_iff, lt_iff_toNat, eq_iff_toNat]
      rw [isDigit_iff] at hc hd
      have hzero : '0'.toNat = 48 := rfl
      simp only [Text.digitValue, hzero]
      by_cases hlt : cs < ds
      · simp only [hlt, and_true]
        omega
      · simp only [hlt, and_false, or_false]
        omega

theorem digitsOnto_injective {a b : List Char} (h : a.length = b.length)
    (ha : ∀ c ∈ a, c.isDigit = true) (hb : ∀ c ∈ b, c.isDigit = true)
    (he : Text.digitsOnto 0 a = Text.digitsOnto 0 b) : a = b := by
  have hab : ¬a < b := fun hlt => by
    have := (digitsOnto_lt_iff h 0 0 ha hb).2 (.inr ⟨rfl, hlt⟩)
    omega
  have hba : ¬b < a := fun hlt => by
    have := (digitsOnto_lt_iff h.symm 0 0 hb ha).2 (.inr ⟨rfl, hlt⟩)
    omega
  exact List.le_antisymm hba hab

theorem digitsOnto_padDigits (digits : List Char) :
    Text.digitsOnto 0 (padDigits digits) = Text.digitsOnto 0 digits := by
  unfold padDigits
  generalize numberWidth - digits.length = k
  induction k with
  | zero => rfl
  | succ k ih => exact ih

/-! ### Keys -/

/-- The key of a run is the padded run, and behind it the key goes on. -/
theorem versionKeyFrom_run (run cs : List Char) :
    versionKeyFrom run cs = closeRun (run.reverse ++ cs.takeWhile Char.isDigit) ++
      versionKeyFrom [] (cs.dropWhile Char.isDigit) := by
  induction cs generalizing run with
  | nil => simp [versionKeyFrom, closeRun]
  | cons c cs ih =>
    by_cases hc : c.isDigit = true
    · simp only [versionKeyFrom, hc, if_true, ih (c :: run), List.reverse_cons, List.append_assoc,
        List.singleton_append, List.takeWhile_cons_of_pos, List.dropWhile_cons_of_pos]
    · simp [versionKeyFrom, hc, closeRun]

theorem length_padDigits (digits : List Char) :
    (padDigits digits).length = max numberWidth digits.length := by
  rw [padDigits, List.length_append, List.length_replicate]
  omega

theorem isDigit_padDigits {digits : List Char} (h : ∀ c ∈ digits, c.isDigit = true) :
    ∀ c ∈ padDigits digits, c.isDigit = true := by
  intro c hc
  rcases List.mem_append.1 hc with hc | hc
  · rw [List.eq_of_mem_replicate hc]
    decide
  · exact h c hc

/-- Tokens are what the pieces count as. -/
theorem tokens_eq (v : List Char) : tokens v = (pieces v).map Piece.token := by
  fun_induction pieces v with
  | case1 => rw [tokens]; rfl
  | case2 c cs hc ih => rw [tokens, if_pos hc, ih]; rfl
  | case3 c cs hc ih => rw [tokens, if_neg hc, ih]; rfl

/-- A key is the texts of the pieces one after the other, with the end mark behind. -/
theorem versionKeyFrom_eq (v : List Char) :
    versionKeyFrom [] v = (pieces v).flatMap Piece.text ++ [endMark] := by
  fun_induction pieces v with
  | case1 => rfl
  | case2 c cs hc ih =>
    rw [versionKeyFrom_run, List.takeWhile_cons_of_pos hc, List.dropWhile_cons_of_pos hc, ih,
      List.flatMap_cons, List.append_assoc]
    rfl
  | case3 c cs hc ih =>
    rw [versionKeyFrom, if_neg hc, ih]
    rfl

theorem proper_pieces {v : List Char} (h : ∀ c ∈ v, endMark < c) : ∀ p ∈ pieces v, p.Proper := by
  fun_induction pieces v with
  | case1 => exact nofun
  | case2 c cs hc ih =>
    obtain ⟨-, hcs⟩ := List.forall_mem_cons.1 h
    have hrun : ∀ d ∈ c :: cs.takeWhile Char.isDigit, d.isDigit = true :=
      List.forall_mem_cons.2 ⟨hc, List.all_eq_true.1 List.all_takeWhile⟩
    have hrest := ih fun d hd => hcs d ((List.dropWhile_suffix _).mem hd)
    exact List.forall_mem_cons.2 ⟨.run hrun, hrest⟩
  | case3 c cs hc ih =>
    obtain ⟨hlt, hcs⟩ := List.forall_mem_cons.1 h
    exact List.forall_mem_cons.2 ⟨.other (Bool.eq_false_iff.2 hc) hlt, ih hcs⟩

/-! ### The two orders -/

theorem cons_lt_cons_of_ne {c d : Char} {x y : List Char} (h : c.toNat ≠ d.toNat) :
    c :: x < d :: y ↔ c.toNat < d.toNat := by
  rw [List.cons_lt_cons_iff, lt_iff_toNat, eq_iff_toNat]
  simp [h]

theorem endMark_toNat : endMark.toNat = 35 := rfl
theorem zero_toNat : '0'.toNat = 48 := rfl
theorem nine_toNat : '9'.toNat = 57 := rfl

theorem not_isDigit_toNat {c : Char} (h : c.isDigit = false) : c.toNat < 48 ∨ 57 < c.toNat := by
  have hc := mt isDigit_iff.2 (Bool.eq_false_iff.1 h)
  omega

namespace Piece

/-! Two pieces that differ in kind differ in the first character of their texts. -/

theorem head_of_run {digits : List Char} (h : ∀ c ∈ digits, c.isDigit = true) :
    ∃ d ds, (run digits).text = d :: ds ∧ 48 ≤ d.toNat ∧ d.toNat ≤ 57 := by
  have hlength := length_padDigits digits
  cases hpad : padDigits digits with
  | nil =>
    rw [hpad, numberWidth, List.length_nil] at hlength
    omega
  | cons d ds =>
    exact ⟨d, ds, hpad, isDigit_iff.1 (isDigit_padDigits h d (hpad ▸ List.mem_cons_self ..))⟩

theorem head_of_other {c : Char} (hc : c.isDigit = false) (hlt : endMark < c) :
    ∃ d, (other c).text = [d] ∧
      ((other c).token = .tilde ∧ d.toNat = 33 ∨
        (other c).token = .mark c ∧ d = c ∧ 35 < d.toNat ∧ (d.toNat < 48 ∨ 57 < d.toNat)) := by
  by_cases htilde : c = '~'
  · exact ⟨Retention.tilde, by simp [text, htilde], .inl ⟨by simp [token, htilde], rfl⟩⟩
  · exact ⟨c, by simp [text, htilde],
      .inr ⟨by simp [token, htilde], rfl, hlt, not_isDigit_toNat hc⟩⟩

/-- The end is before every piece but a tilde. -/
theorem endMark_lt_iff {p : Piece} (hp : p.Proper) (x : List Char) :
    [endMark] < p.text ++ x ↔ p.token ≠ .tilde := by
  cases hp with
  | run hdigits =>
    obtain ⟨d, ds, htext, hlow, -⟩ := head_of_run hdigits
    rw [htext, List.cons_append, cons_lt_cons_of_ne (by rw [endMark_toNat]; omega), endMark_toNat]
    simp only [token, ne_eq, reduceCtorEq, not_false_eq_true, iff_true]
    omega
  | other hc hlt =>
    obtain ⟨d, htext, htoken⟩ := head_of_other hc hlt
    rw [htext, List.singleton_append,
      cons_lt_cons_of_ne (by rw [endMark_toNat]; omega), endMark_toNat]
    rcases htoken with ⟨htoken, hd⟩ | ⟨htoken, -, hd, -⟩
    · simp [htoken, hd]
    · simp [htoken, hd]

/-- A tilde is before the end. -/
theorem lt_endMark_iff {p : Piece} (hp : p.Proper) (x : List Char) :
    p.text ++ x < [endMark] ↔ p.token = .tilde := by
  cases hp with
  | run hdigits =>
    obtain ⟨d, ds, htext, hlow, -⟩ := head_of_run hdigits
    rw [htext, List.cons_append, cons_lt_cons_of_ne (by rw [endMark_toNat]; omega), endMark_toNat]
    simp only [token, reduceCtorEq, iff_false]
    omega
  | other hc hlt =>
    obtain ⟨d, htext, htoken⟩ := head_of_other hc hlt
    rw [htext, List.singleton_append,
      cons_lt_cons_of_ne (by rw [endMark_toNat]; omega), endMark_toNat]
    rcases htoken with ⟨htoken, hd⟩ | ⟨htoken, -, hd, -⟩
    · simp [htoken, hd]
    · simp only [htoken, reduceCtorEq, iff_false]
      omega

/-- Two runs of one width are compared as the numbers they are. -/
theorem run_lt_run_iff {a b x y : List Char} (ha : ∀ c ∈ a, c.isDigit = true)
    (hb : ∀ c ∈ b, c.isDigit = true) (hwidth : (run a).SameWidth (run b)) :
    (run a).text ++ x < (run b).text ++ y ↔ (run a).token.before (run b).token = true ∨
      (run a).token = (run b).token ∧ x < y := by
  have hlength : (padDigits a).length = (padDigits b).length := by
    rw [length_padDigits, length_padDigits]
    rcases hwidth with ⟨ha, hb⟩ | hwidth
    · omega
    · omega
  have hlt := digitsOnto_lt_iff hlength 0 0 (isDigit_padDigits ha) (isDigit_padDigits hb)
  have heq : padDigits a = padDigits b ↔ Text.digitsOnto 0 a = Text.digitsOnto 0 b := by
    rw [← digitsOnto_padDigits a, ← digitsOnto_padDigits b]
    exact ⟨congrArg _,
      digitsOnto_injective hlength (isDigit_padDigits ha) (isDigit_padDigits hb)⟩
  rw [digitsOnto_padDigits, digitsOnto_padDigits, or_iff_right (Nat.lt_irrefl 0),
    and_iff_right rfl] at hlt
  rw [text, text, append_lt_append_iff hlength, heq, ← hlt]
  simp only [token, Token.before, decide_eq_true_eq, Token.number.injEq]

/-- A run is compared with another character by its first digit. -/
theorem run_lt_other_iff {a x y : List Char} {c : Char} (ha : ∀ c ∈ a, c.isDigit = true)
    (hc : c.isDigit = false) (hlt : endMark < c) :
    (run a).text ++ x < (other c).text ++ y ↔ (run a).token.before (other c).token = true ∨
      (run a).token = (other c).token ∧ x < y := by
  obtain ⟨d, ds, htext, hlow, hhigh⟩ := head_of_run ha
  obtain ⟨e, htext', htoken⟩ := head_of_other hc hlt
  rw [htext, htext', List.cons_append, List.cons_append, cons_lt_cons_of_ne (by omega)]
  rcases htoken with ⟨htoken, he⟩ | ⟨htoken, rfl, -, he⟩
  · rw [htoken]
    simp only [token, Token.before, reduceCtorEq, false_and, or_self, iff_false]
    omega
  · rw [htoken]
    simp only [token, Token.before, reduceCtorEq, false_and, or_false, decide_eq_true_eq,
      lt_iff_toNat, nine_toNat]
    omega

theorem other_lt_run_iff {b x y : List Char} {c : Char} (hb : ∀ c ∈ b, c.isDigit = true)
    (hc : c.isDigit = false) (hlt : endMark < c) :
    (other c).text ++ x < (run b).text ++ y ↔ (other c).token.before (run b).token = true ∨
      (other c).token = (run b).token ∧ x < y := by
  obtain ⟨d, htext, htoken⟩ := head_of_other hc hlt
  obtain ⟨e, es, htext', hlow, hhigh⟩ := head_of_run hb
  rw [htext, htext', List.cons_append, List.cons_append, cons_lt_cons_of_ne (by omega)]
  rcases htoken with ⟨htoken, hd⟩ | ⟨htoken, rfl, -, hd⟩
  · rw [htoken]
    simp only [token, Token.before, ne_eq, reduceCtorEq, not_false_eq_true, decide_true, true_or,
      iff_true]
    omega
  · rw [htoken]
    simp only [token, Token.before, reduceCtorEq, false_and, or_false, decide_eq_true_eq,
      lt_iff_toNat, zero_toNat]
    omega

theorem other_lt_other_iff {c d : Char} {x y : List Char} (hc : c.isDigit = false)
    (hlt : endMark < c) (hd : d.isDigit = false) (hlt' : endMark < d) :
    (other c).text ++ x < (other d).text ++ y ↔ (other c).token.before (other d).token = true ∨
      (other c).token = (other d).token ∧ x < y := by
  obtain ⟨e, htext, htoken⟩ := head_of_other hc hlt
  obtain ⟨f, htext', htoken'⟩ := head_of_other hd hlt'
  rw [htext, htext', List.singleton_append, List.singleton_append, List.cons_lt_cons_iff,
    lt_iff_toNat, eq_iff_toNat]
  rcases htoken with ⟨htoken, he⟩ | ⟨htoken, rfl, he, -⟩
  · rcases htoken' with ⟨htoken', hf⟩ | ⟨htoken', rfl, hf, -⟩
    · simp only [htoken, htoken', Token.before, he, hf, ne_eq, not_true_eq_false, decide_false,
        Bool.false_eq_true, Nat.lt_irrefl, true_and]
    · simp only [htoken, htoken', Token.before, ne_eq, reduceCtorEq, not_false_eq_true,
        decide_true, true_or, iff_true]
      omega
  · rcases htoken' with ⟨htoken', hf⟩ | ⟨htoken', rfl, hf, -⟩
    · simp only [htoken, htoken', Token.before, Bool.false_eq_true, reduceCtorEq, false_and,
        or_self, iff_false]
      omega
    · simp only [htoken, htoken', Token.before, decide_eq_true_eq, Token.mark.injEq, lt_iff_toNat,
        eq_iff_toNat]

/-- One place of two keys. -/
theorem text_append_lt_iff {p q : Piece} (hp : p.Proper) (hq : q.Proper) (hwidth : p.SameWidth q)
    (x y : List Char) : p.text ++ x < q.text ++ y ↔
      p.token.before q.token = true ∨ p.token = q.token ∧ x < y := by
  cases hp with
  | run ha =>
    cases hq with
    | run hb => exact run_lt_run_iff ha hb hwidth
    | other hd hlt' => exact run_lt_other_iff ha hd hlt'
  | other hc hlt =>
    cases hq with
    | run hb => exact other_lt_run_iff hb hc hlt
    | other hd hlt' => exact other_lt_other_iff hc hlt hd hlt'

end Piece

/-- Keys are in the order of what is written in them. -/
theorem Aligned.lt_iff {ps qs : List Piece} (h : Aligned ps qs) (hps : ∀ p ∈ ps, p.Proper)
    (hqs : ∀ q ∈ qs, q.Proper) :
    ps.flatMap Piece.text ++ [endMark] < qs.flatMap Piece.text ++ [endMark] ↔
      older (ps.map Piece.token) (qs.map Piece.token) = true := by
  induction ps generalizing qs with
  | nil =>
    cases qs with
    | nil => exact iff_of_false (List.lt_irrefl _) Bool.false_ne_true
    | cons q qs =>
      rw [List.flatMap_cons, List.append_assoc]
      exact (Piece.endMark_lt_iff (hqs q (List.mem_cons_self ..)) _).trans decide_eq_true_iff.symm
  | cons p ps ih =>
    obtain ⟨hp, hps⟩ := List.forall_mem_cons.1 hps
    rw [List.flatMap_cons, List.append_assoc]
    cases qs with
    | nil => exact (Piece.lt_endMark_iff hp _).trans decide_eq_true_iff.symm
    | cons q qs =>
      obtain ⟨hq, hqs⟩ := List.forall_mem_cons.1 hqs
      -- the first pieces decide, and behind equal ones the versions are aligned again
      obtain ⟨hwidth, hrest⟩ := h
      rw [List.flatMap_cons, List.append_assoc, Piece.text_append_lt_iff hp hq hwidth]
      simp only [List.map_cons, older, Bool.or_eq_true, Bool.and_eq_true, decide_eq_true_eq]
      exact or_congr_right (and_congr_right fun hsame => ih (hrest hsame) hps hqs)

/-- The keys of aligned versions are in the order of the versions. -/
theorem versionKey_lt_iff_of_aligned {v w : String} (hv : ∀ c ∈ v.toList, endMark < c)
    (hw : ∀ c ∈ w.toList, endMark < c) (h : Aligned (pieces v.toList) (pieces w.toList)) :
    versionKey v < versionKey w ↔ older (tokens v.toList) (tokens w.toList) = true := by
  rw [String.lt_iff, versionKey, versionKey, String.toList_ofList, String.toList_ofList,
    versionKeyFrom_eq, versionKeyFrom_eq, tokens_eq, tokens_eq]
  exact h.lt_iff (proper_pieces hv) (proper_pieces hw)

/-! ### Versions without long runs -/

/-- Versions of which the keys keep the order. -/
structure Plain (version : List Char) : Prop where
  above : ∀ c ∈ version, '#' < c
  runs : ∀ run, run <:+: version → (∀ c ∈ run, c.isDigit = true) → run.length ≤ 10

theorem Plain.of_suffix {v w : List Char} (h : Plain w) (hv : v <:+ w) : Plain v :=
  ⟨fun c hc => h.above c (hv.mem hc), fun run hrun => h.runs run (hrun.trans hv.isInfix)⟩

theorem plain_of_length_le {v : List Char} (habove : v.all ('#' < ·) = true)
    (hlength : v.length ≤ 10) : Plain v :=
  ⟨above_of_all habove, fun _ hrun _ => Nat.le_trans hrun.length_le hlength⟩

theorem short_of_plain {v : List Char} (h : Plain v) :
    ∀ p ∈ pieces v, ∀ digits, p = .run digits → digits.length ≤ numberWidth := by
  fun_induction pieces v with
  | case1 => exact nofun
  | case2 c cs hc ih =>
    have hsplit : (c :: cs.takeWhile Char.isDigit) ++ cs.dropWhile Char.isDigit = c :: cs := by
      rw [List.cons_append, List.takeWhile_append_dropWhile]
    have hrun : ∀ d ∈ c :: cs.takeWhile Char.isDigit, d.isDigit = true :=
      List.forall_mem_cons.2 ⟨hc, List.all_eq_true.1 List.all_takeWhile⟩
    have hwidth := h.runs _ (hsplit ▸ (List.prefix_append ..).isInfix) hrun
    have hrest := ih (h.of_suffix (hsplit ▸ List.suffix_append ..))
    refine List.forall_mem_cons.2 ⟨fun digits hdigits => ?_, hrest⟩
    cases hdigits
    exact hwidth
  | case3 c cs hc ih =>
    have hrest := ih (h.of_suffix (List.suffix_cons c cs))
    exact List.forall_mem_cons.2 ⟨nofun, hrest⟩

/-- Versions without long runs are aligned with each other. -/
theorem aligned_of_short {ps qs : List Piece}
    (hps : ∀ p ∈ ps, ∀ digits, p = .run digits → digits.length ≤ numberWidth)
    (hqs : ∀ q ∈ qs, ∀ digits, q = .run digits → digits.length ≤ numberWidth) :
    Aligned ps qs := by
  induction ps generalizing qs with
  | nil => trivial
  | cons p ps ih =>
    cases qs with
    | nil => trivial
    | cons q qs =>
      obtain ⟨hp, hps⟩ := List.forall_mem_cons.1 hps
      obtain ⟨hq, hqs⟩ := List.forall_mem_cons.1 hqs
      refine ⟨?_, fun _ => ih hps hqs⟩
      cases p with
      | run a =>
        cases q with
        | run b => exact .inl ⟨hp a rfl, hq b rfl⟩
        | other c => trivial
      | other c => trivial

/-- Keys order plain versions as their tokens do. -/
theorem versionKey_lt_iff {v w : String} (hv : Plain v.toList) (hw : Plain w.toList) :
    versionKey v < versionKey w ↔ older (tokens v.toList) (tokens w.toList) = true :=
  versionKey_lt_iff_of_aligned hv.above hw.above
    (aligned_of_short (short_of_plain hv) (short_of_plain hw))

example : older (tokens "1.9".toList) (tokens "1.10".toList) = true := by cbv
example : older (tokens "1.0~rc1".toList) (tokens "1.0".toList) = true := by cbv

end Courier.Retention
