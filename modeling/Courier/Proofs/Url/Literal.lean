import Courier.Proofs.Url.Spliced

/-! Literal texts.

Text behind an address may say something else there than it does by itself: some characters end the
path or do not count, escapes are decoded, and dots lead back. All of that makes what is said
shorter, but for backslashes, which come to be slashes. So there is a simple test for the texts
that stand in an address as what they are, and no others do (`parse_says_iff`). -/
namespace Courier.Url

/-! ### Literal texts -/

/-- Characters that do not stand for themselves in the path of an address with a host. -/
def isMark (c : Char) : Bool := c = '#' || c = '?' || c = '\\' || isIgnored c

/-- Texts that hold nothing but dots that may be read as something else. -/
structure Bare (cs : List Char) : Prop where
  marks : ∀ c ∈ cs, isMark c = false
  escapes : hasEscape cs = false

/-- Texts that say in a path what they say by themselves. -/
structure Literal (cs : List Char) : Prop extends Bare cs where
  dots : ∀ part ∈ Text.cutAll '/' cs, part ≠ ['.'] ∧ part ≠ ['.', '.']

theorem bare_iff {cs : List Char} :
    Bare cs ↔ (∀ c ∈ cs, isMark c = false) ∧ hasEscape cs = false :=
  ⟨fun h => ⟨h.marks, h.escapes⟩, fun h => ⟨h.1, h.2⟩⟩

theorem literal_iff {cs : List Char} :
    Literal cs ↔ Bare cs ∧ ∀ part ∈ Text.cutAll '/' cs, part ≠ ['.'] ∧ part ≠ ['.', '.'] :=
  ⟨fun h => ⟨h.toBare, h.dots⟩, fun h => ⟨h.1, h.2⟩⟩

instance (cs : List Char) : Decidable (Bare cs) :=
  decidable_of_iff ((cs.all fun c => !isMark c) = true ∧ hasEscape cs = false) (by simp [bare_iff])

instance (cs : List Char) : Decidable (Literal cs) :=
  decidable_of_iff (Bare cs ∧ (Text.cutAll '/' cs).all (fun part =>
    part ≠ ['.'] && part ≠ ['.', '.']) = true) (by simp [literal_iff])

/-! ### What counts of a text -/

theorem counted_sublist (cs : List Char) : (counted cs).Sublist cs :=
  ((cutAt_sublist '?' _).trans (cutAt_sublist '#' _)).trans List.filter_sublist

theorem mem_counted {c : Char} {cs : List Char} (h : c ∈ counted cs) :
    c ≠ '#' ∧ c ≠ '?' ∧ isIgnored c = false := by
  have hfront := (cutAt_sublist '?' _).subset h
  refine ⟨?_, ?_, ?_⟩
  · rintro rfl
    exact not_mem_cutAt _ _ hfront
  · rintro rfl
    exact not_mem_cutAt _ _ h
  · have hkept := (cutAt_sublist '#' _).subset hfront
    simpa using (List.mem_filter.1 hkept).2

theorem counted_of_plain {cs : List Char} (h : ∀ c ∈ cs, c ≠ '#' ∧ c ≠ '?' ∧ isIgnored c = false) :
    counted cs = cs := by
  have hfilter : cs.filter (fun c => !isIgnored c) = cs :=
    List.filter_eq_self.2 fun c hc => by simp [(h c hc).2.2]
  have hhash : '#' ∉ cs := fun hin => (h _ hin).1 rfl
  have hmark : '?' ∉ cs := fun hin => (h _ hin).2.1 rfl
  rw [counted, hfilter, cutAt_of_not_mem hhash, cutAt_of_not_mem hmark]

/-- Characters that are left out make a text shorter. -/
theorem length_utf8_of_sublist {xs ys : List Char} (h : xs.Sublist ys) :
    (Text.utf8 (String.ofList xs)).length ≤ (Text.utf8 (String.ofList ys)).length ∧
      ((Text.utf8 (String.ofList ys)).length ≤ (Text.utf8 (String.ofList xs)).length →
        xs = ys) := by
  induction h with
  | slnil => exact ⟨Nat.le_refl _, fun _ => rfl⟩
  | cons c _ ih =>
    have hpos := Text.length_utf8_pos c
    rw [Text.utf8_ofList_cons, List.length_append]
    refine ⟨by omega, fun hlength => by omega⟩
  | cons_cons c _ ih =>
    rw [Text.utf8_ofList_cons, Text.utf8_ofList_cons, List.length_append, List.length_append]
    exact ⟨by omega, fun hlength => congrArg _ (ih.2 (by omega))⟩

theorem length_utf8_map_slashed (cs : List Char) :
    (Text.utf8 (String.ofList (cs.map slashed))).length =
      (Text.utf8 (String.ofList cs)).length := by
  induction cs with
  | nil => rfl
  | cons c cs ih =>
    have hone : (Text.utf8 (String.singleton (slashed c))).length =
        (Text.utf8 (String.singleton c)).length := by
      by_cases hc : c = '\\'
      · subst hc
        decide +kernel
      · rw [slashed, if_neg hc]
    rw [List.map_cons, Text.utf8_ofList_cons, Text.utf8_ofList_cons, List.length_append,
      List.length_append, ih, hone]

theorem not_mem_of_map_slashed {cs : List Char} (h : cs.map slashed = cs) : '\\' ∉ cs := by
  intro hin
  rw [← h, List.mem_map] at hin
  obtain ⟨c, -, hc⟩ := hin
  unfold slashed at hc
  split at hc
  · exact absurd hc (by decide)
  · next hne => exact hne hc

theorem map_slashed_of_not_mem {cs : List Char} (h : '\\' ∉ cs) : cs.map slashed = cs := by
  have hkeep : ∀ c ∈ cs, slashed c = c := fun c hc => if_neg fun heq : c = '\\' => h (heq ▸ hc)
  rw [List.map_congr_left hkeep, List.map_id']

theorem hasEscape_slash (cs : List Char) : hasEscape ('/' :: cs) = hasEscape cs :=
  hasEscape_char fun h => absurd h (by decide)

theorem startsDigits_append_of_left {xs : List Char} (h : startsDigits xs = true) (ys : List Char) :
    startsDigits (xs ++ ys) = true := by
  match xs, h with
  | _ :: _ :: _, h => exact h

theorem hasEscape_of_isInfix {xs ys : List Char} (h : xs <:+: ys) (hescape : hasEscape xs = true) :
    hasEscape ys = true := by
  obtain ⟨before, after, rfl⟩ := h
  rw [List.append_assoc]
  induction before with
  | nil =>
    rw [List.nil_append]
    induction xs with
    | nil => cases hescape
    | cons c xs ih =>
      rw [List.cons_append, hasEscape, Bool.or_eq_true, Bool.and_eq_true]
      rw [hasEscape, Bool.or_eq_true, Bool.and_eq_true] at hescape
      exact hescape.imp (fun h => ⟨h.1, startsDigits_append_of_left h.2 after⟩) ih
  | cons c before ih =>
    rw [List.cons_append, hasEscape, ih, Bool.or_true]

theorem hasEscape_of_mem_cutAll {cs part : List Char} (h : part ∈ Text.cutAll '/' cs)
    (hescape : hasEscape part = true) : hasEscape cs = true := by
  have hinside : '/' :: part <:+: '/' :: cs := by
    rw [← Text.flatMap_cutAll '/' cs, List.flatMap_def]
    exact List.infix_of_mem_flatten (List.mem_map_of_mem (f := ('/' :: ·)) h)
  rw [← hasEscape_slash]
  exact hasEscape_of_isInfix ((List.suffix_cons _ _).isInfix.trans hinside) hescape

/-- No part of a literal text leads back. -/
theorem not_leadsBack_of_literal {cs part : List Char} (h : Literal cs)
    (hpart : part ∈ Text.cutAll '/' cs) : leadsBack (encodePath part) = false := by
  have hescape : hasEscape part = false :=
    Bool.eq_false_iff.2 fun hin => by
      have hcs := hasEscape_of_mem_cutAll hpart hin
      rw [h.escapes] at hcs
      cases hcs
  have hsaid : percentDecode (encodePath part).toList = Text.utf8 (String.ofList part) := by
    rw [encodePath, String.toList_ofList, percentDecode_percentEncode_path,
      percentDecode_of_escapeless hescape]
  obtain ⟨hdot, hdots⟩ := h.dots part hpart
  refine Bool.eq_false_iff.2 fun hback => ?_
  rcases Bool.or_eq_true_iff.1 hback with hback | hback
  · have hsame := Text.utf8_injective (hsaid.symm.trans (percentDecode_of_isDot hback))
    exact hdot (by simpa using congrArg String.toList hsame)
  · have hsame := Text.utf8_injective (hsaid.symm.trans (percentDecode_of_isDoubleDot hback))
    exact hdots (by simpa using congrArg String.toList hsame)

/-- Each step on the way from a text to a path makes it shorter, or does nothing. So nothing is done
where as much is said as the text holds. -/
theorem kept_of_length {done : List String} {cs : List Char}
    (h : (said (resolveDots done
        ((Text.cutAll '/' ((counted cs).map slashed)).map encodePath))).length =
      (said done).length + (Text.utf8 (String.ofList ('/' :: cs))).length) :
    counted cs = cs ∧ hasEscape ('/' :: cs.map slashed) = false ∧
      ∀ s ∈ (Text.cutAll '/' (cs.map slashed)).map encodePath, leadsBack s = false := by
  obtain ⟨hresolved, hback⟩ := length_said_resolveDots done
    ((Text.cutAll '/' ((counted cs).map slashed)).map encodePath)
  obtain ⟨hdecoded, hescape⟩ := length_percentDecode ('/' :: (counted cs).map slashed)
  obtain ⟨hcounted, hsame⟩ := length_utf8_of_sublist (counted_sublist cs)
  rw [said_cutAll] at hresolved hback
  rw [Text.utf8_ofList_cons, List.length_append, length_utf8_map_slashed] at hdecoded hescape
  rw [Text.utf8_ofList_cons, List.length_append] at h
  have hall : counted cs = cs := hsame (by omega)
  rw [hall] at h hresolved hback hdecoded hescape
  refine ⟨hall, ?_, fun s hs => ?_⟩
  · refine Bool.eq_false_iff.2 fun hin => ?_
    have := hescape hin
    omega
  · refine Bool.eq_false_iff.2 fun hin => ?_
    have := hback ⟨s, hs, hin⟩
    omega

/-- **Literal texts are the ones that say in a path what they are.** -/
theorem said_resolveDots_iff (done : List String) (cs : List Char) :
    said (resolveDots done ((Text.cutAll '/' ((counted cs).map slashed)).map encodePath)) =
        said done.reverse ++ Text.utf8 (String.ofList ('/' :: cs)) ↔ Literal cs := by
  constructor
  · intro h
    have hlength := congrArg List.length h
    rw [List.length_append, length_said_reverse] at hlength
    -- as nothing got shorter, all of it counts, nothing was decoded and no dots were followed
    obtain ⟨hall, hescape, hback⟩ := kept_of_length hlength
    rw [hall, resolveDots_of_not_leadsBack hback, said_append, said_cutAll,
      percentDecode_of_escapeless hescape] at h
    have hslashed : cs.map slashed = cs := by
      have htext := Text.utf8_injective (List.append_cancel_left h)
      simpa using congrArg String.toList htext
    rw [hslashed] at hescape hback
    refine ⟨⟨fun c hc => ?_, (hasEscape_slash cs).symm.trans hescape⟩, fun part hpart => ⟨?_, ?_⟩⟩
    · obtain ⟨hhash, hmark, hignored⟩ := mem_counted (hall ▸ hc)
      have hbackslash : c ≠ '\\' := fun heq => not_mem_of_map_slashed hslashed (heq ▸ hc)
      simp [isMark, hhash, hmark, hbackslash, hignored]
    · rintro rfl
      exact absurd (hback _ (List.mem_map_of_mem hpart)) (by decide +kernel)
    · rintro rfl
      exact absurd (hback _ (List.mem_map_of_mem hpart)) (by decide +kernel)
  · intro h
    have hcounted : counted cs = cs := counted_of_plain fun c hc => by
      have hc := h.marks c hc
      simp only [isMark, Bool.or_eq_false_iff, decide_eq_false_iff_not] at hc
      exact ⟨hc.1.1.1, hc.1.1.2, hc.2⟩
    have hslashed : cs.map slashed = cs :=
      map_slashed_of_not_mem fun hin => absurd (h.marks _ hin) (by decide)
    have hkept : ∀ s ∈ (Text.cutAll '/' cs).map encodePath, leadsBack s = false := by
      intro s hs
      obtain ⟨part, hpart, rfl⟩ := List.mem_map.1 hs
      exact not_leadsBack_of_literal h hpart
    have hescape : hasEscape ('/' :: cs) = false := (hasEscape_slash cs).trans h.escapes
    rw [hcounted, hslashed, resolveDots_of_not_leadsBack hkept, said_append, said_cutAll,
      percentDecode_of_escapeless hescape]

/-! ### Parts of literal texts -/

theorem Bare.of_isInfix {xs ys : List Char} (h : Bare ys) (hinside : xs <:+: ys) : Bare xs :=
  ⟨fun c hc => h.marks c (hinside.subset hc), Bool.eq_false_iff.2 fun hin =>
    Bool.eq_false_iff.1 h.escapes (hasEscape_of_isInfix hinside hin)⟩

/-- Behind a character that is neither a digit nor a percent sign escapes begin anew. -/
theorem hasEscape_append_cons {d : Char} (hd : isDigit d = false) (hpercent : d ≠ '%')
    (xs ys : List Char) : hasEscape (xs ++ d :: ys) = (hasEscape xs || hasEscape ys) := by
  induction xs using escapeInduction with
  | nil => exact hasEscape_char fun h => absurd h hpercent
  | char c rest hc ih =>
    have hnext : c = '%' → startsDigits (rest ++ d :: ys) = false := fun h =>
      startsDigits_append (hc h) (by simpa using hd)
    rw [List.cons_append, hasEscape_char hnext, hasEscape_char hc, ih]
  | escape a b rest ha hb ih =>
    simp [hasEscape, startsDigits, ha, hb]

/-- A character between two texts that ends an escape and starts none. -/
theorem bare_append_cons_iff {d : Char} (hd : isDigit d = false) (hpercent : d ≠ '%')
    {xs ys : List Char} : Bare (xs ++ d :: ys) ↔ Bare xs ∧ isMark d = false ∧ Bare ys := by
  simp only [bare_iff, hasEscape_append_cons hd hpercent, Bool.or_eq_false_iff, List.mem_append,
    List.mem_cons, or_imp, forall_and, forall_eq]
  exact ⟨fun ⟨⟨hx, hm, hy⟩, ex, ey⟩ => ⟨⟨hx, ex⟩, hm, hy, ey⟩,
    fun ⟨⟨hx, ex⟩, hm, hy, ey⟩ => ⟨⟨hx, hm, hy⟩, ex, ey⟩⟩

theorem bare_of_forall {cs : List Char} (h : ∀ c ∈ cs, c ≠ '%' ∧ isMark c = false) : Bare cs := by
  refine ⟨fun c hc => (h c hc).2, ?_⟩
  induction cs with
  | nil => rfl
  | cons c cs ih =>
    obtain ⟨hc, hcs⟩ := List.forall_mem_cons.1 h
    rw [hasEscape_char fun hpercent => absurd hpercent hc.1, ih hcs]

/-- Texts with a slash between them are literal together when each is. -/
theorem literal_append_slash_iff {xs ys : List Char} :
    Literal (xs ++ '/' :: ys) ↔ Literal xs ∧ Literal ys := by
  have hslash : isMark '/' = false := by decide
  rw [literal_iff, literal_iff, literal_iff, bare_append_cons_iff (by decide) (by decide),
    Text.cutAll_append, List.forall_mem_append]
  exact ⟨fun ⟨⟨hx, _, hy⟩, dx, dy⟩ => ⟨⟨hx, dx⟩, hy, dy⟩,
    fun ⟨⟨hx, dx⟩, hy, dy⟩ => ⟨⟨hx, hslash, hy⟩, dx, dy⟩⟩

/-- Bare texts without slashes, which are in one segment. -/
structure Piece (cs : List Char) : Prop extends Bare cs where
  slash_free : '/' ∉ cs

theorem piece_iff {cs : List Char} : Piece cs ↔ Bare cs ∧ '/' ∉ cs :=
  ⟨fun h => ⟨h.toBare, h.slash_free⟩, fun h => ⟨h.1, h.2⟩⟩

instance (cs : List Char) : Decidable (Piece cs) := decidable_of_iff _ piece_iff.symm

theorem Piece.of_isInfix {xs ys : List Char} (h : Piece ys) (hinside : xs <:+: ys) : Piece xs :=
  ⟨h.toBare.of_isInfix hinside, fun hin => h.slash_free (hinside.subset hin)⟩

/-- Two pieces with a harmless character between them are one. -/
theorem Piece.append_cons {d : Char} (hd : isDigit d = false) (hpercent : d ≠ '%')
    (hmark : isMark d = false) (hslash : d ≠ '/') {xs ys : List Char} (hx : Piece xs)
    (hy : Piece ys) : Piece (xs ++ d :: ys) := by
  refine ⟨(bare_append_cons_iff hd hpercent).2 ⟨hx.toBare, hmark, hy.toBare⟩, ?_⟩
  rw [List.mem_append, List.mem_cons, not_or, not_or]
  exact ⟨hx.slash_free, Ne.symm hslash, hy.slash_free⟩

/-- A piece is literal but for dots. -/
theorem Piece.literal_iff {cs : List Char} (h : Piece cs) :
    Literal cs ↔ cs ≠ ['.'] ∧ cs ≠ ['.', '.'] := by
  rw [Url.literal_iff, Text.cutAll_of_not_mem h.slash_free, List.forall_mem_singleton]
  exact and_iff_right h.toBare

theorem Piece.literal_of_mem {cs : List Char} (h : Piece cs) {c : Char} (hc : c ∈ cs)
    (hdot : c ≠ '.') : Literal cs := by
  refine h.literal_iff.2 ⟨?_, ?_⟩
  · rintro rfl
    exact hdot (by simpa using hc)
  · rintro rfl
    exact hdot (by simpa using hc)

theorem literal_slash_iff {cs : List Char} : Literal ('/' :: cs) ↔ Literal cs :=
  (@literal_append_slash_iff [] cs).trans (and_iff_right (by decide))

/-! ### Addresses -/

/-- The bytes of a path with an empty segment at its end, up to that. -/
theorem percentDecode_dropLast (segments : List String) :
    percentDecode (Path.segments (segments ++ [""])).text.toList.dropLast = said segments := by
  have htext : (Path.segments (segments ++ [""])).text.toList =
      (Path.segments segments).text.toList ++ ['/'] := by
    simp [Path.text]
  rw [htext, List.dropLast_concat, percentDecode_text]

/-- **What an address says with text behind it.** There is no query, and the path goes on with the
text, just when the text is literal. -/
theorem parse_says_iff {front : String} {base : Url} (hbase : parse (front ++ "/") = .ok base)
    (hscheme : (usualPort? base.scheme).isSome = true) (hquery : base.query = none)
    (hfragment : base.fragment = none) {rest : List Char}
    (hrest : ∀ c ∈ ('/' :: rest).getLast?, isBlankEnd c = false) :
    ∃ u, parse (front ++ String.ofList ('/' :: rest)) = .ok u ∧
      (u.query = none ∧ percentDecode u.path.text.toList =
          percentDecode base.path.text.toList.dropLast ++ Text.utf8 (String.ofList ('/' :: rest)) ↔
        Literal ('/' :: rest)) := by
  obtain ⟨done, hpath, happend⟩ := parse_append hbase hscheme hquery hfragment
  obtain ⟨query, fragment, hparse, hnone⟩ := happend rest hrest
  refine ⟨_, hparse, ?_⟩
  rw [hpath, percentDecode_dropLast, percentDecode_text, said_resolveDots_iff, literal_slash_iff]
  exact and_iff_right_of_imp fun h => hnone fun hin => absurd (h.marks _ hin) (by decide)

end Courier.Url
