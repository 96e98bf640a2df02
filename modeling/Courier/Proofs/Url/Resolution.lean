import Courier.Proofs.Url.Escapes
import Courier.Url.Parse

/-! What paths say, and what becomes of it as dots are followed.

A path says its segments, decoded, with a slash in front of each, and it says just what the text
says whose parts are its segments (`said_cutAll`). A segment that is not dots stays where it is
(`resolveDots_of_not_leadsBack`). One that is leads back, and so a path with dots in it comes to say
less than its segments do (`length_said_resolveDots`). -/
namespace Courier.Url

/-! ### What paths say -/

/-- The bytes of segments, a slash in front of each. -/
def said (segments : List String) : Bytes :=
  segments.flatMap fun s => 0x2F :: percentDecode s.toList

theorem percentDecode_slash (cs : List Char) :
    percentDecode ('/' :: cs) = 0x2F :: percentDecode cs := by
  rw [percentDecode_cons (by decide)]
  rfl

theorem percentDecode_flatMap (parts : List (List Char)) :
    percentDecode (parts.flatMap ('/' :: ·)) = parts.flatMap fun p => 0x2F :: percentDecode p := by
  induction parts with
  | nil => rfl
  | cons part parts ih =>
    have hnext : ∀ d ∈ (parts.flatMap ('/' :: ·)).head?, isDigit d = false := by
      cases parts with
      | nil => simp
      | cons => simp [isDigit]; decide
    rw [List.flatMap_cons, List.flatMap_cons, percentDecode_append hnext, ih, percentDecode_slash]

theorem toList_text_segments (segments : List String) : (Path.segments segments).text.toList =
    (segments.map String.toList).flatMap ('/' :: ·) := by
  simp [Path.text, List.flatMap_map]

/-- A path says, decoded, what its segments do. -/
theorem percentDecode_text (segments : List String) :
    percentDecode (Path.segments segments).text.toList = said segments := by
  rw [toList_text_segments, percentDecode_flatMap, List.flatMap_map, said]

/-- The segments of a path say what the path says. -/
theorem said_cutAll (cs : List Char) :
    said ((Text.cutAll '/' cs).map encodePath) = percentDecode ('/' :: cs) := by
  rw [← Text.flatMap_cutAll, percentDecode_flatMap, said, List.flatMap_map]
  simp only [encodePath, String.toList_ofList, percentDecode_percentEncode_path]

theorem said_append (all more : List String) : said (all ++ more) = said all ++ said more :=
  List.flatMap_append

theorem length_said_cons (s : String) (all : List String) :
    (said (s :: all)).length = (percentDecode s.toList).length + 1 + (said all).length := by
  rw [said, List.flatMap_cons, List.length_append, List.length_cons, said]

theorem length_said_reverse (all : List String) :
    (said all.reverse).length = (said all).length := by
  induction all with
  | nil => rfl
  | cons s all ih =>
    rw [List.reverse_cons, said_append, List.length_append, ih, length_said_cons, length_said_cons]
    simp [said]
    omega

/-! ### Dots -/

/-- Whether a segment is dots as it is written. -/
def leadsBack (segment : String) : Bool := isDot segment || isDoubleDot segment

theorem percentDecode_ne_nil_of_leadsBack {s : String} (h : leadsBack s = true) :
    0 < (percentDecode s.toList).length := by
  rcases Bool.or_eq_true_iff.1 h with h | h
  · rw [percentDecode_of_isDot h]
    decide +kernel
  · rw [percentDecode_of_isDoubleDot h]
    decide +kernel

theorem length_said_goBack (done : List String) :
    (said (goBack done)).length ≤ (said done).length := by
  cases done with
  | nil => exact Nat.le_refl _
  | cons last rest =>
    rw [goBack]
    split
    · exact Nat.le_refl _
    · rw [length_said_cons]
      omega

theorem enter_of_not_leadsBack {s : String} (h : leadsBack s = false) (done : List String) :
    enter done s = s :: done := by
  obtain ⟨hdot, hdouble⟩ := Bool.or_eq_false_iff.1 h
  simp [enter, hdot, hdouble]

theorem arrive_of_not_leadsBack {s : String} (h : leadsBack s = false) (done : List String) :
    arrive done s = s :: done := by
  obtain ⟨hdot, hdouble⟩ := Bool.or_eq_false_iff.1 h
  simp [arrive, hdot, hdouble]

/-- A segment that leads back says less than it would by itself. -/
theorem length_said_enter {s : String} (h : leadsBack s = true) (done : List String) :
    (said (enter done s)).length < (said (s :: done)).length := by
  have hback := length_said_goBack done
  rw [length_said_cons, enter]
  split
  · omega
  split
  · omega
  next hdouble hdot =>
    simp [leadsBack, hdouble, hdot] at h

theorem length_said_arrive {s : String} (h : leadsBack s = true) (done : List String) :
    (said (arrive done s)).length < (said (s :: done)).length := by
  have hback := length_said_goBack done
  have hpos := percentDecode_ne_nil_of_leadsBack h
  have hempty (all : List String) : (said ("" :: all)).length = 1 + (said all).length := by
    rw [length_said_cons]
    rfl
  rw [length_said_cons, arrive]
  split
  · rw [hempty]
    omega
  split
  · rw [hempty]
    omega
  next hdouble hdot =>
    simp [leadsBack, hdouble, hdot] at h

/-- Dots are followed from the front: first those of some segments, then those behind them. -/
theorem resolveDots_append {parts : List String} (h : parts ≠ []) (done more : List String) :
    resolveDots done (more ++ parts) = resolveDots (more.foldl enter done) parts := by
  induction more generalizing done with
  | nil => rfl
  | cons s more ih =>
    obtain ⟨next, rest, hnext⟩ :=
      List.exists_cons_of_ne_nil (List.append_ne_nil_of_right_ne_nil more h)
    rw [List.cons_append, hnext, resolveDots, ← hnext, ih]
    · rfl
    · exact fun hnil => by cases hnil

/-- Where no segment leads back all stay where they are. -/
theorem resolveDots_of_not_leadsBack {parts : List String}
    (h : ∀ s ∈ parts, leadsBack s = false) (done : List String) :
    resolveDots done parts = done.reverse ++ parts := by
  induction parts generalizing done with
  | nil => exact (List.append_nil _).symm
  | cons s parts ih =>
    obtain ⟨hs, hparts⟩ := List.forall_mem_cons.1 h
    cases parts with
    | nil => rw [resolveDots, arrive_of_not_leadsBack hs, List.reverse_cons]
    | cons next rest =>
      rw [resolveDots, enter_of_not_leadsBack hs, ih hparts, List.reverse_cons, List.append_assoc,
        List.singleton_append]
      exact List.cons_ne_nil _ _

/-- Following dots makes no path longer, and where there are any it makes it shorter. -/
theorem length_said_resolveDots (done parts : List String) :
    (said (resolveDots done parts)).length ≤ (said done).length + (said parts).length ∧
      ((∃ s ∈ parts, leadsBack s = true) →
        (said (resolveDots done parts)).length < (said done).length + (said parts).length) := by
  induction parts generalizing done with
  | nil =>
    rw [resolveDots, length_said_reverse]
    exact ⟨Nat.le_add_right _ _, fun ⟨_, hs, _⟩ => by cases hs⟩
  | cons s parts ih =>
    -- each segment is compared with one that would stay where it is
    have hmove : (said done).length + (said (s :: parts)).length =
        (said (s :: done)).length + (said parts).length := by
      rw [length_said_cons, length_said_cons]
      omega
    rw [hmove]
    by_cases hs : leadsBack s = true
    · cases parts with
      | nil =>
        have harrive := length_said_arrive hs done
        rw [resolveDots, length_said_reverse]
        exact ⟨by omega, fun _ => by omega⟩
      | cons next rest =>
        have henter := length_said_enter hs done
        have hrest := (ih (enter done s)).1
        rw [resolveDots]
        · exact ⟨by omega, fun _ => by omega⟩
        · exact List.cons_ne_nil _ _
    · have hs : leadsBack s = false := Bool.eq_false_iff.2 hs
      have hlater (h : ∃ t ∈ s :: parts, leadsBack t = true) : ∃ t ∈ parts, leadsBack t = true := by
        obtain ⟨t, ht, hdots⟩ := h
        rcases List.mem_cons.1 ht with rfl | ht
        · rw [hs] at hdots
          cases hdots
        · exact ⟨t, ht, hdots⟩
      cases parts with
      | nil =>
        rw [resolveDots, length_said_reverse, arrive_of_not_leadsBack hs]
        exact ⟨Nat.le_add_right _ _, fun h => absurd (hlater h) (by simp)⟩
      | cons next rest =>
        rw [resolveDots, enter_of_not_leadsBack hs]
        · exact ⟨(ih (s :: done)).1, fun h => (ih (s :: done)).2 (hlater h)⟩
        · exact List.cons_ne_nil _ _

end Courier.Url
