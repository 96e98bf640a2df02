import Courier.Proofs.Url.Written

/-! Texts with percent signs in them.

An escape is a percent sign in front of two digits. Decoding reads it as one byte, so it is only of
texts without escapes that decoding gives the text itself; of every other it gives something
shorter (`length_percentDecode_lt`). A path is written without new escapes of percent signs, so
that it says what the text says that it is written from (`percentDecode_encodePath`). -/
namespace Courier

namespace Text

theorem length_utf8_pos (c : Char) : 0 < (utf8 (String.singleton c)).length :=
  List.length_pos_iff.2 fun hnil => by
    have hempty : String.singleton c = "" := utf8_injective hnil
    exact absurd (congrArg String.length hempty) (by simp)

end Text

namespace Url

/-! ### Escapes -/

def isDigit (c : Char) : Bool := (Text.hexValue? c).isSome

/-- Whether there are two digits in front. -/
def startsDigits : List Char → Bool
  | a :: b :: _ => isDigit a && isDigit b
  | _ => false

/-- Whether some percent sign has two digits behind it. -/
def hasEscape : List Char → Bool
  | [] => false
  | c :: rest => (c = '%' && startsDigits rest) || hasEscape rest

theorem hasEscape_cons_of_false {c : Char} {cs : List Char} (h : hasEscape (c :: cs) = false) :
    (c = '%' → startsDigits cs = false) ∧ hasEscape cs = false := by
  simpa [hasEscape] using h

/-- Texts are decoded by characters and by escapes. -/
@[elab_as_elim]
theorem escapeInduction {motive : List Char → Prop} (nil : motive [])
    (char : ∀ c rest, (c = '%' → startsDigits rest = false) → motive rest → motive (c :: rest))
    (escape : ∀ a b rest, isDigit a = true → isDigit b = true → motive rest →
      motive ('%' :: a :: b :: rest)) (cs : List Char) : motive cs := by
  induction hn : cs.length using Nat.strongRecOn generalizing cs with
  | _ n ih =>
  subst hn
  match cs with
  | [] => exact nil
  | c :: rest =>
    by_cases hescape : c = '%' ∧ startsDigits rest = true
    · obtain ⟨rfl, hdigits⟩ := hescape
      match rest, hdigits with
      | a :: b :: rest, hdigits =>
        obtain ⟨ha, hb⟩ := Bool.and_eq_true_iff.1 hdigits
        have hlength : rest.length < ('%' :: a :: b :: rest).length := by
          simp only [List.length_cons]
          omega
        exact escape a b rest ha hb (ih rest.length hlength rest rfl)
    · refine char c rest (fun hc => ?_) (ih _ (by simp) rest rfl)
      exact Bool.eq_false_iff.2 fun hdigits => hescape ⟨hc, hdigits⟩

theorem percentDecode_char {c : Char} {cs : List Char} (h : c = '%' → startsDigits cs = false) :
    percentDecode (c :: cs) = Text.utf8 (String.singleton c) ++ percentDecode cs := by
  by_cases hc : c = '%'
  · subst hc
    have hpercent : Text.utf8 (String.singleton '%') = [0x25] := by decide +kernel
    rw [hpercent]
    match cs, h rfl with
    | [], _ => rw [percentDecode, hpercent]; exact fun _ _ _ _ hnil => by cases hnil
    | [a], _ => rw [percentDecode, hpercent]; exact fun _ _ _ _ hone => by cases hone
    | a :: b :: rest, hdigits =>
      rw [percentDecode]
      split
      · next ha hb => simp [startsDigits, isDigit, ha, hb] at hdigits
      · rfl
  · exact percentDecode_cons hc cs

theorem percentDecode_escape {a b : Char} (ha : isDigit a = true) (hb : isDigit b = true) :
    ∃ byte, ∀ rest, percentDecode ('%' :: a :: b :: rest) = byte :: percentDecode rest := by
  obtain ⟨high, ha⟩ := Option.isSome_iff_exists.1 ha
  obtain ⟨low, hb⟩ := Option.isSome_iff_exists.1 hb
  exact ⟨(high * 16 + low).toUInt8, fun rest => by simp only [percentDecode, ha, hb]⟩

/-! ### What decoding keeps -/

/-- A text without escapes is decoded to its own bytes. -/
theorem percentDecode_of_escapeless {cs : List Char} (h : hasEscape cs = false) :
    percentDecode cs = Text.utf8 (String.ofList cs) := by
  induction cs with
  | nil => rfl
  | cons c cs ih =>
    obtain ⟨hc, hrest⟩ := hasEscape_cons_of_false h
    rw [percentDecode_char hc, ih hrest, Text.utf8_ofList_cons]

theorem hasEscape_char {c : Char} {cs : List Char} (h : c = '%' → startsDigits cs = false) :
    hasEscape (c :: cs) = hasEscape cs := by
  by_cases hc : c = '%'
  · simp [hasEscape, hc, h hc]
  · simp [hasEscape, hc]

/-- Decoding makes no text longer, and one with an escape it makes shorter. -/
theorem length_percentDecode (cs : List Char) :
    (percentDecode cs).length ≤ (Text.utf8 (String.ofList cs)).length ∧
      (hasEscape cs = true →
        (percentDecode cs).length < (Text.utf8 (String.ofList cs)).length) := by
  induction cs using escapeInduction with
  | nil => exact ⟨Nat.le_refl _, fun h => by cases h⟩
  | char c rest hc ih =>
    rw [percentDecode_char hc, Text.utf8_ofList_cons, hasEscape_char hc, List.length_append,
      List.length_append]
    exact ⟨Nat.add_le_add_left ih.1 _, fun h => Nat.add_lt_add_left (ih.2 h) _⟩
  | escape a b rest ha hb ih =>
    obtain ⟨byte, hbyte⟩ := percentDecode_escape ha hb
    have hlt : (percentDecode ('%' :: a :: b :: rest)).length <
        (Text.utf8 (String.ofList ('%' :: a :: b :: rest))).length := by
      have hpercent := Text.length_utf8_pos '%'
      have hfirst := Text.length_utf8_pos a
      have hsecond := Text.length_utf8_pos b
      rw [hbyte, Text.utf8_ofList_cons, Text.utf8_ofList_cons, Text.utf8_ofList_cons]
      simp only [List.length_cons, List.length_append]
      omega
    exact ⟨Nat.le_of_lt hlt, fun _ => hlt⟩

/-! ### Decoding in parts -/

theorem startsDigits_append {cs ds : List Char} (h : startsDigits cs = false)
    (hds : ∀ d ∈ ds.head?, isDigit d = false) : startsDigits (cs ++ ds) = false := by
  match cs, ds, h, hds with
  | [], [], _, _ => rfl
  | [], [d], _, _ => rfl
  | [], d :: e :: ds, _, hds => simp [startsDigits, hds d rfl]
  | [a], [], _, _ => rfl
  | [a], d :: ds, _, hds => simp [startsDigits, hds d rfl]
  | a :: b :: cs, ds, h, _ => exact h

/-- An escape does not go on behind a character that is no digit. -/
theorem percentDecode_append {ds : List Char} (hds : ∀ d ∈ ds.head?, isDigit d = false)
    (cs : List Char) : percentDecode (cs ++ ds) = percentDecode cs ++ percentDecode ds := by
  induction cs using escapeInduction with
  | nil => rfl
  | char c rest hc ih =>
    rw [List.cons_append, percentDecode_char fun h => startsDigits_append (hc h) hds,
      percentDecode_char hc, ih, List.append_assoc]
  | escape a b rest ha hb ih =>
    obtain ⟨byte, hbyte⟩ := percentDecode_escape ha hb
    rw [List.cons_append, List.cons_append, List.cons_append, hbyte, hbyte, ih]
    rfl

/-! ### Encoding what holds escapes -/

theorem isDigit_bounds {c : Char} (h : isDigit c = true) : 0x20 ≤ c.toNat ∧ c.toNat < 0x7F := by
  unfold isDigit Text.hexValue? at h
  split at h
  · next hdigit =>
    simp only [Char.isDigit, Bool.and_eq_true, decide_eq_true_eq, ge_iff_le,
      UInt32.le_iff_toNat_le] at hdigit
    exact ⟨Nat.le_trans (by decide) hdigit.1, Nat.lt_of_le_of_lt hdigit.2 (by decide)⟩
  split at h
  · next hsmall =>
    exact ⟨Nat.le_trans (by decide) (UInt32.le_iff_toNat_le.1 hsmall.1),
      Nat.lt_of_le_of_lt (UInt32.le_iff_toNat_le.1 hsmall.2) (by decide)⟩
  split at h
  · next hcapital =>
    exact ⟨Nat.le_trans (by decide) (UInt32.le_iff_toNat_le.1 hcapital.1),
      Nat.lt_of_le_of_lt (UInt32.le_iff_toNat_le.1 hcapital.2) (by decide)⟩
  · cases h

/-- What a path writes with percent signs is no digit. -/
theorem isDigit_of_path_holds {c : Char} (h : EncodeSet.path.holds c = true) :
    isDigit c = false := by
  have hmarks : " \"<>`#?\x7b\x7d".toList.all (!isDigit ·) = true := by decide
  refine Bool.eq_false_iff.2 fun hdigit => ?_
  obtain ⟨hlow, hhigh⟩ := isDigit_bounds hdigit
  have hmark : c ∈ " \"<>`#?\x7b\x7d".toList := by
    simp only [EncodeSet.path, EncodeSet.fragment, EncodeSet.controls, EncodeSet.adding,
      Bool.or_eq_true, decide_eq_true_eq, List.contains_iff_mem] at h
    rcases h with ((h | h) | h) | h
    · omega
    · omega
    · exact List.mem_append_left "#?\x7b\x7d".toList h
    · exact List.mem_append_right " \"<>`".toList h
  have hno := List.all_eq_true.1 hmarks c hmark
  rw [hdigit] at hno
  cases hno

theorem percentEncode_cons (set : EncodeSet) (c : Char) (cs : List Char) :
    percentEncode set (c :: cs) = encodeChar set c ++ percentEncode set cs := rfl

/-- What is written for a character starts with a digit just when it is one. -/
theorem encodeChar_path (c : Char) :
    (isDigit c = true ∧ encodeChar .path c = [c]) ∨
      isDigit c = false ∧ ∃ d more, encodeChar .path c = d :: more ∧ isDigit d = false := by
  unfold encodeChar
  split
  · next hc =>
    obtain ⟨b, bs, hbytes⟩ := List.exists_cons_of_length_pos (Text.length_utf8_pos c)
    exact .inr ⟨isDigit_of_path_holds hc, '%', _, by rw [hbytes]; rfl, by decide⟩
  · cases hdigit : isDigit c with
    | true => exact .inl ⟨rfl, rfl⟩
    | false => exact .inr ⟨rfl, c, [], rfl, hdigit⟩

theorem startsDigits_cons (a : Char) (cs : List Char) :
    startsDigits (a :: cs) = (isDigit a && cs.head?.any isDigit) := by
  cases cs with
  | nil => simp [startsDigits]
  | cons b cs => rfl

/-- Writing a text does not change whether it starts with a digit. -/
theorem head?_percentEncode (cs : List Char) :
    (percentEncode .path cs).head?.any isDigit = cs.head?.any isDigit := by
  cases cs with
  | nil => rfl
  | cons c cs =>
    rw [percentEncode_cons]
    rcases encodeChar_path c with ⟨-, hc⟩ | ⟨hc, d, more, hd, hdigit⟩
    · rw [hc]
      rfl
    · rw [hd]
      simp [hc, hdigit]

/-- Nor with two. -/
theorem startsDigits_percentEncode (cs : List Char) :
    startsDigits (percentEncode .path cs) = startsDigits cs := by
  cases cs with
  | nil => rfl
  | cons c cs =>
    rw [percentEncode_cons]
    rcases encodeChar_path c with ⟨-, hc⟩ | ⟨hc, d, more, hd, hdigit⟩
    · rw [hc, List.singleton_append, startsDigits_cons, startsDigits_cons, head?_percentEncode]
    · rw [hd, List.cons_append, startsDigits_cons, startsDigits_cons, hdigit, hc]
      rfl

/-- **A path says what the text says that it is written from.** -/
theorem percentDecode_percentEncode_path (cs : List Char) :
    percentDecode (percentEncode .path cs) = percentDecode cs := by
  induction cs using escapeInduction with
  | nil => rfl
  | char c rest hc ih =>
    rw [percentDecode_char hc, percentEncode_cons, encodeChar]
    split
    · rw [percentDecode_encodeBytes, ih]
    · rw [List.singleton_append,
        percentDecode_char fun h => (startsDigits_percentEncode rest).trans (hc h), ih]
  | escape a b rest ha hb ih =>
    have hkept {d : Char} (hd : isDigit d = true) : encodeChar .path d = [d] := by
      rcases encodeChar_path d with ⟨-, h⟩ | ⟨h, -⟩
      · exact h
      · rw [hd] at h
        cases h
    have hpercent : encodeChar .path '%' = ['%'] := by decide
    obtain ⟨byte, hbyte⟩ := percentDecode_escape ha hb
    simp only [percentEncode_cons, hpercent, hkept ha, hkept hb, List.cons_append,
      List.nil_append, hbyte, ih]

end Url
end Courier
