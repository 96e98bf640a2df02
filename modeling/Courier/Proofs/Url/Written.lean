import Courier.Url.Segments

/-! Segments as they are written, and paths made of them.

What is written can be read: decoded, a segment is the text that was put in, without the characters
that do not count in an address (`percentDecode_writeSegment`), and nothing in it ends the segment or
the path (`safe_writeSegment`). So it is written as dots just when that text is dots, and then it
does to the path what dots do. As long as no segment comes to be dots
only because of characters that are left out, a path grows by one segment for each that is put in,
the dots excepted (`appendAll_eq`). -/
namespace Courier

namespace Text

theorem hexValue?_hexDigitUpper : ∀ n < 16, hexValue? (hexDigitUpper n) = some n := by decide

end Text

namespace Url

/-! ### Percent signs -/

theorem percentDecode_cons {c : Char} (h : c ≠ '%') (cs : List Char) :
    percentDecode (c :: cs) = Text.utf8 (String.singleton c) ++ percentDecode cs := by
  rw [percentDecode]
  rintro _ _ _ rfl
  exact absurd rfl h

theorem percentDecode_encodeByte (b : UInt8) (cs : List Char) :
    percentDecode (encodeByte b ++ cs) = b :: percentDecode cs := by
  have hb : b.toNat < 256 := b.toNat_lt
  have hhigh := Text.hexValue?_hexDigitUpper (b.toNat / 16) (by omega)
  have hlow := Text.hexValue?_hexDigitUpper (b.toNat % 16) (by omega)
  have hbyte : b.toNat / 16 * 16 + b.toNat % 16 = b.toNat := by omega
  simp only [encodeByte, List.cons_append, List.nil_append, percentDecode, hhigh, hlow, hbyte,
    Nat.toUInt8_eq, UInt8.ofNat_toNat]

theorem percentDecode_encodeBytes (bs : Bytes) (cs : List Char) :
    percentDecode (bs.flatMap encodeByte ++ cs) = bs ++ percentDecode cs := by
  induction bs with
  | nil => rfl
  | cons b bs ih => rw [List.flatMap_cons, List.append_assoc, percentDecode_encodeByte, ih]; rfl

/-- A text can be read back where percent signs are written with percent signs. -/
theorem percentDecode_percentEncode {set : EncodeSet} (h : set.holds '%' = true) (cs : List Char) :
    percentDecode (percentEncode set cs) = Text.utf8 (String.ofList cs) := by
  induction cs with
  | nil => rfl
  | cons c cs ih =>
    rw [percentEncode, List.flatMap_cons, ← percentEncode, Text.utf8_ofList_cons, encodeChar]
    split
    · rw [percentDecode_encodeBytes, ih]
    · next hc =>
      have hpercent : c ≠ '%' := by
        rintro rfl
        exact hc h
      rw [List.singleton_append, percentDecode_cons hpercent, ih]

/-! ### Segments -/

/-- What a segment says once it is written. -/
def plain (segment : String) : String :=
  String.ofList (segment.toList.filter fun c => !isIgnored c)

/-- Percent signs and slashes of a segment are never written as they are. -/
theorem segmentSet_holds (scheme : String) :
    (segmentSet scheme).holds '%' = true ∧ (segmentSet scheme).holds '/' = true := by
  unfold segmentSet
  split
  · decide
  · decide

/-- Decoded, a written segment is what counts of its text. -/
theorem percentDecode_writeSegment (scheme segment : String) :
    percentDecode (writeSegment scheme segment).toList = Text.utf8 (plain segment) := by
  have hpercent := (segmentSet_holds scheme).1
  rw [writeSegment, String.toList_ofList, percentDecode_percentEncode hpercent, plain]

/-- Nothing is written just for a text of which nothing counts. -/
theorem writeSegment_eq_empty_iff {scheme segment : String} :
    writeSegment scheme segment = "" ↔ plain segment = "" := by
  constructor
  · intro h
    have hdecode := percentDecode_writeSegment scheme segment
    rw [h] at hdecode
    exact Text.utf8_injective hdecode.symm
  · intro h
    have hnone : segment.toList.filter (fun c => !isIgnored c) = [] := by
      simpa [plain] using h
    rw [writeSegment, hnone]
    rfl

theorem plain_of_kept {segment : String} (h : ∀ c ∈ segment.toList, isIgnored c = false) :
    plain segment = segment := by
  have hall : segment.toList.filter (fun c => !isIgnored c) = segment.toList :=
    List.filter_eq_self.2 fun c hc => by simp [h c hc]
  rw [plain, hall, String.ofList_toList]

/-- What is written are percent signs, digits, and characters that need none. -/
theorem mem_writeSegment {scheme segment : String} {c : Char}
    (h : c ∈ (writeSegment scheme segment).toList) :
    c = '%' ∨ (segmentSet scheme).holds c = false := by
  have hdigit : ∀ n < 16, (segmentSet scheme).holds (Text.hexDigitUpper n) = false := by
    unfold segmentSet
    split
    · decide
    · decide
  rw [writeSegment, String.toList_ofList] at h
  obtain ⟨d, -, hd⟩ := List.mem_flatMap.1 h
  rw [encodeChar] at hd
  split at hd
  · obtain ⟨b, -, hb⟩ := List.mem_flatMap.1 hd
    have hbound : b.toNat < 256 := b.toNat_lt
    simp only [encodeByte, List.mem_cons, List.not_mem_nil, or_false] at hb
    rcases hb with rfl | rfl | rfl
    · exact .inl rfl
    · exact .inr (hdigit _ (by omega))
    · exact .inr (hdigit _ (by omega))
  · next hkept =>
    rw [List.mem_singleton.1 hd]
    exact .inr (Bool.eq_false_iff.2 hkept)

/-- A segment has no slash in it once it is written. -/
theorem slash_not_mem_writeSegment (scheme segment : String) :
    '/' ∉ (writeSegment scheme segment).toList := by
  intro h
  rcases mem_writeSegment h with hpercent | hkept
  · exact absurd hpercent (by decide)
  · rw [(segmentSet_holds scheme).2] at hkept
    cases hkept

/-- A segment in which nothing ends it, or the path that it stands in: it is printable ASCII without
the marks for that. -/
def Safe (segment : String) : Prop :=
  ∀ c ∈ segment.toList, 0x20 < c.toNat ∧ c.toNat < 0x7F ∧ c ∉ ['/', '\\', '?', '#']

/-- Where a backslash counts as a slash, segments are safe once they are written. -/
theorem safe_writeSegment {scheme : String} (h : isSpecial scheme = true) (segment : String) :
    Safe (writeSegment scheme segment) := by
  intro c hc
  have hmarks : [' ', '/', '\\', '?', '#'].all (segmentSet scheme).holds = true := by
    rw [segmentSet, if_pos h]
    decide
  have hcontrols : EncodeSet.controls.holds c = true → (segmentSet scheme).holds c = true := by
    rw [segmentSet, if_pos h]
    intro hcontrol
    simp [EncodeSet.specialSegment, EncodeSet.segment, EncodeSet.path, EncodeSet.fragment,
      EncodeSet.adding, hcontrol]
  rcases mem_writeSegment hc with rfl | hkept
  · decide
  have hnot {d : Char} (hd : (segmentSet scheme).holds d = true) : c ≠ d := by
    rintro rfl
    rw [hd] at hkept
    cases hkept
  have hprints : ¬EncodeSet.controls.holds c = true := fun hcontrol => hnot (hcontrols hcontrol) rfl
  simp only [EncodeSet.controls, Bool.or_eq_true, decide_eq_true_eq, not_or, Nat.not_lt,
    Nat.not_le] at hprints
  have hblank : c.toNat ≠ 0x20 := fun heq =>
    hnot (List.all_eq_true.1 hmarks ' ' List.mem_cons_self) (Char.ext (UInt32.toNat_inj.1 heq))
  refine ⟨by omega, hprints.2, ?_⟩
  intro hin
  exact hnot (List.all_eq_true.1 hmarks c (List.mem_cons_of_mem _ hin)) rfl

/-- The texts that segments stand for. -/
def decoded (segments : List String) : List Bytes := segments.map fun s => percentDecode s.toList

theorem decoded_written (scheme : String) (segments : List String) :
    decoded (segments.map (writeSegment scheme)) = segments.map fun s => Text.utf8 (plain s) := by
  simp only [decoded, List.map_map, Function.comp_def, percentDecode_writeSegment]

/-! ### Dots -/

theorem eq_or_upper_of_toLower {c d : Char} (h : c.toLower = d) :
    c = d ∨ 65 ≤ c.toNat ∧ d.toNat = c.toNat + 32 := by
  subst h
  unfold Char.toLower
  split
  · next hc =>
    have hlow : 65 ≤ c.toNat := UInt32.le_iff_toNat_le.1 hc.1
    have hhigh : c.toNat ≤ 90 := UInt32.le_iff_toNat_le.1 hc.2
    refine .inr ⟨hlow, ?_⟩
    show (c.val + 32).toNat = c.toNat + 32
    rw [UInt32.toNat_add]
    show (c.toNat + 32) % 2 ^ 32 = c.toNat + 32
    omega
  · exact .inl rfl

theorem eq_of_toLower {c d : Char} (h : c.toLower = d) (hd : d.toNat < 97) : c = d := by
  rcases eq_or_upper_of_toLower h with h | ⟨hc, h⟩
  · exact h
  · omega

/-- One dot, written as it is or with a percent sign. -/
theorem percentDecode_of_dot {cs more : List Char}
    (h : cs.map Char.toLower = '.' :: more ∨ cs.map Char.toLower = '%' :: '2' :: 'e' :: more) :
    ∃ rest, rest.map Char.toLower = more ∧ percentDecode cs = 0x2E :: percentDecode rest := by
  rcases h with h | h
  · obtain ⟨c, rest, rfl, hc, hrest⟩ := List.map_eq_cons_iff.1 h
    obtain rfl := eq_of_toLower hc (by decide)
    refine ⟨rest, hrest, ?_⟩
    rw [percentDecode_cons (by decide)]
    rfl
  · obtain ⟨a, cs, rfl, ha, hcs⟩ := List.map_eq_cons_iff.1 h
    obtain ⟨b, cs, rfl, hb, hcs⟩ := List.map_eq_cons_iff.1 hcs
    obtain ⟨c, rest, rfl, hc, hrest⟩ := List.map_eq_cons_iff.1 hcs
    obtain rfl := eq_of_toLower ha (by decide)
    obtain rfl := eq_of_toLower hb (by decide)
    refine ⟨rest, hrest, ?_⟩
    have hdigit : Text.hexValue? c = some 14 := by
      rcases eq_or_upper_of_toLower hc with rfl | ⟨-, hupper⟩
      · decide
      · have hE : c = 'E' := Char.ext (UInt32.toNat_inj.1 (by
          show c.toNat = 69
          have : ('e' : Char).toNat = 101 := by decide
          omega))
        rw [hE]
        decide
    have htwo : Text.hexValue? '2' = some 2 := by decide
    simp only [percentDecode, htwo, hdigit]
    rfl

theorem percentDecode_of_isDot {w : String} (h : isDot w = true) :
    percentDecode w.toList = Text.utf8 "." := by
  have hlower : w.toList.map Char.toLower = ['.'] ∨ w.toList.map Char.toLower = ['%', '2', 'e'] := by
    simp only [isDot, List.mem_cons, List.not_mem_nil, or_false, decide_eq_true_eq] at h
    rw [← String.toList_map]
    exact h.imp (congrArg String.toList) (congrArg String.toList)
  obtain ⟨rest, hrest, hdecode⟩ := percentDecode_of_dot hlower
  rw [hdecode, List.map_eq_nil_iff.1 hrest]
  decide +kernel

theorem percentDecode_of_isDoubleDot {w : String} (h : isDoubleDot w = true) :
    percentDecode w.toList = Text.utf8 ".." := by
  obtain ⟨more, hmore, hlower⟩ : ∃ more, (more = ['.'] ∨ more = ['%', '2', 'e']) ∧
      (w.toList.map Char.toLower = '.' :: more ∨
        w.toList.map Char.toLower = '%' :: '2' :: 'e' :: more) := by
    simp only [isDoubleDot, List.mem_cons, List.not_mem_nil, or_false, decide_eq_true_eq] at h
    rw [← String.toList_map]
    rcases h with h | h | h | h
    · exact ⟨_, .inl rfl, .inl (congrArg String.toList h)⟩
    · exact ⟨_, .inr rfl, .inl (congrArg String.toList h)⟩
    · exact ⟨_, .inl rfl, .inr (congrArg String.toList h)⟩
    · exact ⟨_, .inr rfl, .inr (congrArg String.toList h)⟩
  obtain ⟨rest, rfl, hdecode⟩ := percentDecode_of_dot hlower
  obtain ⟨last, hlast, hdecode'⟩ := percentDecode_of_dot hmore
  rw [hdecode, hdecode', List.map_eq_nil_iff.1 hlast]
  decide +kernel

/-! ### Paths -/

/-- Segments that are left out of a path. -/
def IsDots (segment : String) : Prop := segment = "." ∨ segment = ".."

instance (segment : String) : Decidable (IsDots segment) :=
  inferInstanceAs (Decidable (_ ∨ _))

/-- A segment that is not dots, also once it is written. -/
def Named (segment : String) : Prop := ¬IsDots (plain segment)

instance (segment : String) : Decidable (Named segment) := inferInstanceAs (Decidable (¬_))

theorem not_isDots_of_named {segment : String} (h : Named segment) : ¬IsDots segment := by
  rintro (rfl | rfl)
  · exact h (.inl (by decide))
  · exact h (.inr (by decide))

/-- A segment that names something is added at the end. -/
theorem arrive_writeSegment {segment : String} (h : Named segment) (scheme : String)
    (done : List String) :
    arrive done (writeSegment scheme segment) = writeSegment scheme segment :: done := by
  have hwritten := percentDecode_writeSegment scheme segment
  have hdouble : ¬isDoubleDot (writeSegment scheme segment) = true := fun hdots =>
    h (.inr (Text.utf8_injective (hwritten.symm.trans (percentDecode_of_isDoubleDot hdots))))
  have hdot : ¬isDot (writeSegment scheme segment) = true := fun hdots =>
    h (.inl (Text.utf8_injective (hwritten.symm.trans (percentDecode_of_isDot hdots))))
  rw [arrive, if_neg hdouble, if_neg hdot]

/-- The path that segments are put behind. An empty segment at its end does not count. -/
def basePath (all : List String) : List String :=
  let done := dropEmptyEnd all.reverse
  (if done = [""] then [] else done).reverse

/-- An empty segment is taken from the end of a path, and of two empty segments both. -/
theorem basePath_cases (all : List String) :
    (all = basePath all ∧ (basePath all).getLast? ≠ some "") ∨
      (all = basePath all ++ [""] ∧ basePath all ≠ [""]) ∨ all = ["", ""] ∧ basePath all = [] := by
  obtain ⟨done, rfl⟩ : ∃ done : List String, all = done.reverse :=
    ⟨_, (List.reverse_reverse _).symm⟩
  rw [basePath, List.reverse_reverse]
  match done with
  | [] => exact .inl ⟨rfl, by simp [dropEmptyEnd]⟩
  | [last] =>
    by_cases hlast : last = ""
    · rw [hlast]
      exact .inr (.inl ⟨rfl, by decide⟩)
    · simp [dropEmptyEnd, hlast]
  | last :: next :: rest =>
    by_cases hlast : last = ""
    · rw [hlast]
      by_cases hnext : next :: rest = [""]
      · rw [hnext]
        exact .inr (.inr ⟨rfl, rfl⟩)
      · right
        left
        rw [dropEmptyEnd, if_neg hnext]
        refine ⟨List.reverse_cons, ?_⟩
        intro hone
        exact hnext (by rw [← List.reverse_reverse (next :: rest), hone]; rfl)
    · simp [dropEmptyEnd, hlast]

/-- The segments that stay, of segments that are put behind a path. -/
def names (segments : List String) : List String := segments.filter fun s => ¬IsDots s

/-- If no segment becomes dots only by being written, all but the dots are put behind one another.
-/
theorem foldl_append {scheme : String} {segments : List String}
    (h : ∀ s ∈ segments, IsDots s ∨ Named s) {done : List String} (hdone : done ≠ [])
    (hempty : done ≠ [""]) :
    segments.foldl (append scheme) done =
      ((names segments).map (writeSegment scheme)).reverse ++ done := by
  induction segments generalizing done with
  | nil => rfl
  | cons s segments ih =>
    obtain ⟨hs, hrest⟩ := List.forall_mem_cons.1 h
    rw [List.foldl_cons]
    by_cases hdots : IsDots s
    · have hstep : append scheme done s = done := if_pos hdots
      have hnames : names (s :: segments) = names segments :=
        List.filter_cons_of_neg (by simpa using hdots)
      rw [hstep, hnames]
      exact ih hrest hdone hempty
    · have hstep : append scheme done s = writeSegment scheme s :: done := by
        show (if IsDots s then done else _) = _
        rw [if_neg hdots, if_neg hempty, arrive_writeSegment (hs.resolve_left hdots)]
      have hnames : names (s :: segments) = s :: names segments :=
        List.filter_cons_of_pos (by simpa using hdots)
      rw [hstep, hnames, ih hrest (List.cons_ne_nil _ _) fun hone => hdone (List.cons.inj hone).2]
      simp

/-- Where the first of them says something, segments lengthen the path by those of them that are
not dots. -/
theorem appendAll_eq {u : Url} {all segments : List String} {first : String}
    (hpath : u.path = .segments all) (hfirst : Named first) (hne : plain first ≠ "")
    (h : ∀ s ∈ segments, IsDots s ∨ Named s) :
    u.appendAll (first :: segments) = some { u with
      path := .segments (basePath all ++ (first :: names segments).map (writeSegment u.scheme)) } := by
  have hwritten : writeSegment u.scheme first ≠ "" := fun hnil => hne (writeSegment_eq_empty_iff.1 hnil)
  have hstep : append u.scheme (dropEmptyEnd all.reverse) first =
      writeSegment u.scheme first :: (basePath all).reverse := by
    show (if IsDots first then _ else _) = _
    rw [if_neg (not_isDots_of_named hfirst), arrive_writeSegment hfirst, basePath,
      List.reverse_reverse]
  rw [appendAll, hpath]
  simp only [List.foldl_cons, hstep]
  rw [foldl_append h (List.cons_ne_nil _ _) fun hone => hwritten (List.cons.inj hone).1]
  simp

end Url
end Courier
