import Courier.Proofs.Artifact.Names
import Mathlib.Data.List.TakeWhile

/-! Texts of versions, and how versions are printed.

A text is read as a version just when its first two parts are numerals of at most 32 bits, blanks
around them not counted. What is read holds no hyphen in front of its build and no larger number
(`proper_of_parse?`), and such a version is read back from what it is printed as (`parse?_display`).
So printing gives one text for all texts of a version (`display_normal_form`). -/
namespace Courier.Version

/-! ### Numbers -/

/-- A number is a numeral of at most 32 bits, blanks around it not counted. -/
theorem readNumber_eq_some_iff {cs : List Char} {n : Nat} :
    readNumber cs = some n ↔ Text.Numeral (Text.trim cs) n ∧ n ≤ maxNumber :=
  Text.readUnsigned_eq_some_iff

theorem toList_number (n : Nat) : (toString n).toList = Nat.toDigits 10 n := String.toList_ofList

/-- The digits of a number tell it. -/
theorem number_injective {m n : Nat} (h : (toString m).toList = (toString n).toList) : m = n := by
  have hvalue := congrArg (fun cs => Nat.ofDigitChars 10 cs 0) h
  simpa only [toList_number, Nat.ofDigitChars_ten_toDigits] using hvalue

theorem toList_numbers (major minor : Nat) : (s!"{major}.{minor}").toList =
    (toString major).toList ++ '.' :: (toString minor).toList := by
  show (toString major ++ "." ++ toString minor).toList = _
  simp

theorem isDigit_of_mem_number {n : Nat} {c : Char} (h : c ∈ (toString n).toList) :
    c.isDigit = true :=
  Nat.isDigit_of_mem_toDigits (by decide) (by decide) (toList_number n ▸ h)

theorem not_mem_number {c : Char} (h : c.isDigit = false) (n : Nat) : c ∉ (toString n).toList :=
  fun hin => by
    rw [isDigit_of_mem_number hin] at h
    cases h

theorem not_isBlank_of_isDigit {c : Char} (h : c.isDigit = true) : Text.isBlank c = false := by
  simp only [Char.isDigit, Bool.and_eq_true, decide_eq_true_eq, ge_iff_le,
    UInt32.le_iff_toNat_le] at h
  have hlow : 48 ≤ c.toNat := h.1
  have hhigh : c.toNat ≤ 57 := h.2
  simp [Text.isBlank, Text.blankRanges]
  omega

theorem trim_of_isDigit {cs : List Char} (h : ∀ c ∈ cs, c.isDigit = true) : Text.trim cs = cs := by
  have hkept : ∀ ds : List Char, (∀ d ∈ ds, d.isDigit = true) → ds.dropWhile Text.isBlank = ds := by
    intro ds hds
    cases ds with
    | nil => rfl
    | cons d ds =>
      have hd := not_isBlank_of_isDigit (hds d List.mem_cons_self)
      exact List.dropWhile_cons_of_neg (by simp [hd])
  rw [Text.trim, Text.trimStart, hkept cs h, Text.trimEnd,
    hkept cs.reverse fun c hc => h c (List.mem_reverse.1 hc), List.reverse_reverse]

theorem readNumber_number {n : Nat} (h : n ≤ maxNumber) :
    readNumber (toString n).toList = some n := by
  have hdigits : ∀ c ∈ (toString n).toList, c.isDigit = true := fun c => isDigit_of_mem_number
  refine readNumber_eq_some_iff.2 ⟨⟨(toString n).toList, ?_, ?_, hdigits, ?_⟩, h⟩
  · exact .inl (trim_of_isDigit hdigits)
  · rw [toList_number]
    exact Nat.toDigits_ne_nil
  · rw [toList_number, Nat.ofDigitChars_ten_toDigits]

/-! ### Reading -/

/-- What stands in front of the build: the text up to its first hyphen. A hyphen at the very start
does not count. -/
def front (cs : List Char) : List Char :=
  if cs.head? = some '-' then cs else cs.takeWhile (· ≠ '-')

theorem front_of_free {cs : List Char} (h : '-' ∉ cs) : front cs = cs := by
  have hall : cs.takeWhile (· ≠ '-') = cs :=
    List.takeWhile_eq_self_iff.2 fun c hc => decide_eq_true fun heq => h (heq ▸ hc)
  rw [front, hall, ite_self]

theorem cutBuild_of_free {cs : List Char} (h : '-' ∉ cs) : cutBuild cs = (cs, none) := by
  rw [cutBuild, Text.cutFirst_eq_none_iff.2 h]

theorem cutBuild_append {cs : List Char} (hne : cs ≠ []) (h : '-' ∉ cs) (build : List Char) :
    cutBuild (cs ++ '-' :: build) = (cs, some build) := by
  obtain ⟨c, base, rfl⟩ := List.exists_cons_of_ne_nil hne
  rw [cutBuild, Text.cutFirst_eq_some_iff.2 ⟨rfl, h⟩]

theorem cutBuild_fst (cs : List Char) : (cutBuild cs).1 = front cs := by
  unfold cutBuild
  cases hcut : Text.cutFirst '-' cs with
  | none => exact (front_of_free (Text.cutFirst_eq_none_iff.1 hcut)).symm
  | some cut =>
    obtain ⟨before, build⟩ := cut
    obtain ⟨hcs, hfree⟩ := Text.cutFirst_eq_some_iff.1 hcut
    cases before with
    | nil =>
      rw [hcs]
      rfl
    | cons c base =>
      have hc : ¬cs.head? = some '-' := fun h => by
        rw [hcs, List.cons_append, List.head?_cons, Option.some.injEq] at h
        exact hfree (h ▸ List.mem_cons_self)
      rw [front, if_neg hc, Text.takeWhile_of_cutFirst hcut]

/-- No hyphen is in front of the build of a text that does not start with one. -/
theorem free_front {cs : List Char} (h : cs.head? ≠ some '-') : '-' ∉ front cs := by
  intro hin
  rw [front, if_neg h] at hin
  have hne := List.mem_takeWhile_imp hin
  simp at hne

/-- The two numbers are the first two parts between dots; what is behind them is the rest. -/
theorem readNumbers_eq_some_iff {cs rest : List Char} {m n : Nat} :
    readNumbers cs = some (m, n, rest) ↔ ∃ major minor tail,
      Text.cutFirst '.' cs = some (major, tail) ∧
      (Text.cutFirst '.' tail).getD (tail, []) = (minor, rest) ∧
      readNumber major = some m ∧ readNumber minor = some n := by
  constructor
  · intro h
    unfold readNumbers at h
    split at h
    · cases h
    next major tail hfirst =>
    dsimp only at h
    split at h
    · next hmajor hminor =>
      cases h
      exact ⟨major, _, tail, hfirst, rfl, hmajor, hminor⟩
    · cases h
  · intro hparts
    obtain ⟨major, minor, tail, hfirst, hsecond, hmajor, hminor⟩ := hparts
    simp only [readNumbers, hfirst, hsecond, hmajor, hminor]

theorem readNumbers_of_parts {cs rest : List Char} {m n : Nat}
    (h : readNumbers cs = some (m, n, rest)) :
    ∃ major minor more, Text.cutAll '.' cs = major :: minor :: more ∧
      readNumber major = some m ∧ readNumber minor = some n := by
  obtain ⟨major, minor, tail, hfirst, hsecond, hmajor, hminor⟩ := readNumbers_eq_some_iff.1 h
  obtain ⟨more, hmore⟩ := Text.exists_cutAll_eq '.' tail
  rw [hsecond] at hmore
  exact ⟨major, minor, more, by rw [Text.cutAll_of_cutFirst hfirst, hmore], hmajor, hminor⟩

theorem parts_of_readNumbers {cs major minor : List Char} {more : List (List Char)} {m n : Nat}
    (h : Text.cutAll '.' cs = major :: minor :: more) (hmajor : readNumber major = some m)
    (hminor : readNumber minor = some n) : ∃ rest, readNumbers cs = some (m, n, rest) := by
  cases hfirst : Text.cutFirst '.' cs with
  | none =>
    rw [Text.cutAll_of_not_mem (Text.cutFirst_eq_none_iff.1 hfirst)] at h
    cases h
  | some cut =>
    rw [Text.cutAll_of_cutFirst hfirst] at h
    obtain ⟨rest, hmore⟩ := Text.exists_cutAll_eq '.' cut.2
    rw [hmore] at h
    cases h
    exact ⟨_, readNumbers_eq_some_iff.2 ⟨_, _, _, hfirst, rfl, hmajor, hminor⟩⟩

/-- A version is read from what is in front of its build, and the build is what stands behind. -/
theorem parse?_eq_some_iff {text : String} {v : Version} :
    parse? text = some v ↔
      readNumbers (front text.toList) = some (v.major, v.minor, v.rest.toList) ∧
        v.build = (cutBuild text.toList).2.map String.ofList := by
  rw [← cutBuild_fst]
  simp only [parse?, Option.map_eq_some_iff, Prod.exists]
  constructor
  · intro hread
    obtain ⟨major, minor, rest, h, hv⟩ := hread
    rw [← hv]
    exact ⟨h.trans (by rw [String.toList_ofList]), rfl⟩
  · intro hread
    obtain ⟨h, hbuild⟩ := hread
    refine ⟨_, _, _, h, ?_⟩
    rw [String.ofList_toList, ← hbuild]

/-! ### Printing -/

/-- What holds of a version that was read, and what a version needs to be printed as a text of
it. -/
structure Proper (v : Version) : Prop where
  major_le : v.major ≤ maxNumber
  minor_le : v.minor ≤ maxNumber
  rest_free : '-' ∉ v.rest.toList

theorem mem_of_mem_rest {cs rest : List Char} {m n : Nat}
    (h : readNumbers cs = some (m, n, rest)) {c : Char} (hc : c ∈ rest) : c ∈ cs := by
  obtain ⟨major, minor, tail, hfirst, hsecond, -, -⟩ := readNumbers_eq_some_iff.1 h
  obtain ⟨rfl, -⟩ := Text.cutFirst_eq_some_iff.1 hfirst
  refine List.mem_append_right _ (List.mem_cons_of_mem _ ?_)
  cases hcut : Text.cutFirst '.' tail with
  | none =>
    rw [hcut] at hsecond
    cases hsecond
    cases hc
  | some cut =>
    rw [hcut] at hsecond
    obtain rfl : cut = (minor, rest) := hsecond
    obtain ⟨rfl, -⟩ := Text.cutFirst_eq_some_iff.1 hcut
    exact List.mem_append_right _ (List.mem_cons_of_mem _ hc)

/-- What is read can be printed and read again. -/
theorem proper_of_parse? {text : String} {v : Version} (h : parse? text = some v) : v.Proper := by
  obtain ⟨c, more, htext, hc⟩ := parse?_start h
  obtain ⟨hnumbers, -⟩ := parse?_eq_some_iff.1 h
  obtain ⟨major, minor, -, -, hmajor, hminor⟩ := readNumbers_of_parts hnumbers
  have hstart : text.toList.head? ≠ some '-' := by
    rw [htext, List.head?_cons]
    intro heq
    rw [Option.some.inj heq] at hc
    exact absurd hc (by decide)
  exact ⟨(readNumber_eq_some_iff.1 hmajor).2, (readNumber_eq_some_iff.1 hminor).2,
    fun hin => free_front hstart (mem_of_mem_rest hnumbers hin)⟩

/-- The characters of a version without its build. -/
def written (v : Version) : List Char :=
  (toString v.major).toList ++ '.' ::
    ((toString v.minor).toList ++ if v.rest = "" then [] else '.' :: v.rest.toList)

theorem toList_dotted (v : Version) : v.dotted.toList = v.written := by
  simp only [dotted, written, String.toList_append]
  split
  · simp
  · simp

theorem toList_display (v : Version) : v.display.toList =
    v.written ++ match v.build with
      | some build => '-' :: build.toList
      | none => [] := by
  rw [display, String.toList_append, toList_dotted]
  cases v.build with
  | none => rfl
  | some build => simp

/-- The numbers of a proper version are read back from what it is written as. -/
theorem readNumbers_written {v : Version} (h : v.Proper) :
    readNumbers v.written = some (v.major, v.minor, v.rest.toList) := by
  have hdot (n : Nat) : '.' ∉ (toString n).toList := not_mem_number (by decide) n
  refine readNumbers_eq_some_iff.2 ⟨_, (toString v.minor).toList, _,
    Text.cutFirst_eq_some_iff.2 ⟨rfl, hdot v.major⟩, ?_, readNumber_number h.major_le,
    readNumber_number h.minor_le⟩
  split
  · next hrest =>
    rw [List.append_nil, Text.cutFirst_eq_none_iff.2 (hdot v.minor), hrest]
    rfl
  · rw [Text.cutFirst_eq_some_iff.2 ⟨rfl, hdot v.minor⟩]
    rfl

theorem free_written {v : Version} (h : v.Proper) : '-' ∉ v.written := by
  have hnumber (n : Nat) : '-' ∉ (toString n).toList := not_mem_number (by decide) n
  have hdot : '-' ≠ '.' := by decide
  simp only [written, List.mem_append, List.mem_cons, not_or]
  refine ⟨hnumber v.major, hdot, hnumber v.minor, ?_⟩
  split
  · exact List.not_mem_nil
  · rw [List.mem_cons, not_or]
    exact ⟨hdot, h.rest_free⟩

/-- What is printed is read back. -/
theorem parse?_display {v : Version} (h : v.Proper) : parse? v.display = some v := by
  have hfree := free_written h
  have hne : v.written ≠ [] := List.append_ne_nil_of_right_ne_nil _ (List.cons_ne_nil _ _)
  have hcut : cutBuild v.display.toList = (v.written, v.build.map String.toList) := by
    rw [toList_display]
    cases v.build with
    | none => rw [List.append_nil, cutBuild_of_free hfree, Option.map_none]
    | some build => rw [cutBuild_append hne hfree, Option.map_some]
  rw [parse?_eq_some_iff, ← cutBuild_fst, hcut]
  refine ⟨readNumbers_written h, ?_⟩
  simp

/-- **The texts of versions, and their normal form.** A text is read just when two numerals of at
most 32 bits are at its front, and as their values; what is read prints as a text of the same
version, so that two texts print alike just when they are read as one version. -/
theorem display_normal_form :
    (∀ text : String, (parse? text).isSome ↔ ∃ major minor more m n,
      Text.cutAll '.' (front text.toList) = major :: minor :: more ∧
        (Text.Numeral (Text.trim major) m ∧ m ≤ 4294967295) ∧
        (Text.Numeral (Text.trim minor) n ∧ n ≤ 4294967295)) ∧
    (∀ text v, parse? text = some v → parse? v.display = some v ∧
      ∃ major minor more, Text.cutAll '.' (front text.toList) = major :: minor :: more ∧
        Text.Numeral (Text.trim major) v.major ∧ Text.Numeral (Text.trim minor) v.minor) ∧
    ∀ s t v w, parse? s = some v → parse? t = some w → (v.display = w.display ↔ v = w) := by
  have hread (text : String) (v : Version) (h : parse? text = some v) :
      parse? v.display = some v := parse?_display (proper_of_parse? h)
  refine ⟨fun text => ⟨fun h => ?_, ?_⟩, fun text v h => ⟨hread text v h, ?_⟩, ?_⟩
  · obtain ⟨v, hv⟩ := Option.isSome_iff_exists.1 h
    obtain ⟨major, minor, more, hparts, hmajor, hminor⟩ :=
      readNumbers_of_parts (parse?_eq_some_iff.1 hv).1
    exact ⟨major, minor, more, _, _, hparts, readNumber_eq_some_iff.1 hmajor,
      readNumber_eq_some_iff.1 hminor⟩
  · intro hnumerals
    obtain ⟨major, minor, more, m, n, hparts, hmajor, hminor⟩ := hnumerals
    obtain ⟨rest, hrest⟩ := parts_of_readNumbers hparts (readNumber_eq_some_iff.2 hmajor)
      (readNumber_eq_some_iff.2 hminor)
    refine Option.isSome_iff_exists.2 ⟨⟨m, n, String.ofList rest, _⟩, parse?_eq_some_iff.2 ⟨?_, rfl⟩⟩
    rw [String.toList_ofList]
    exact hrest
  · obtain ⟨major, minor, more, hparts, hmajor, hminor⟩ :=
      readNumbers_of_parts (parse?_eq_some_iff.1 h).1
    exact ⟨major, minor, more, hparts, (readNumber_eq_some_iff.1 hmajor).1,
      (readNumber_eq_some_iff.1 hminor).1⟩
  · intro s t v w hs ht
    refine ⟨fun h => ?_, fun h => h ▸ rfl⟩
    have hv := hread s v hs
    rw [h, hread t w ht] at hv
    exact (Option.some.inj hv).symm

/-- Blanks, a plus sign, zeros in front and a rest that ends in a dot; and a number one above the
limit. -/
theorem display_normal_form_spaced :
    let v : Version := ⟨4, 2, "1.", some "-3"⟩
    parse? " +4.002 .1.--3" = some v ∧ parse? "4.2.1.--3" = some v ∧ v.display = "4.2.1.--3" ∧
      parse? v.display = some v ∧ (parse? "4294967296.0").isSome = false := by
  intro v
  have hs : parse? " +4.002 .1.--3" = some v := by decide
  have ht : parse? "4.2.1.--3" = some v := by decide
  obtain ⟨-, hread, hiff⟩ := display_normal_form
  refine ⟨hs, ht, by decide, (hread _ _ hs).1, by decide⟩

end Courier.Version
