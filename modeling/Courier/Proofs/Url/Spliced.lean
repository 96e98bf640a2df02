import Courier.Proofs.Url.Resolution
import Mathlib.Data.List.TakeDrop

/-! Text behind an address.

Where text with a slash in front stands behind an address, the scheme and the authority are those of
the address alone, and the path of the address goes on with what counts of the text: all in front of
a query and of a fragment (`parse_append`). -/
namespace Courier.Url

/-! ### Cutting behind an address -/

section

variable {α : Type} {p : α → Bool} {x : α}

theorem takeWhile_append_cons (h : p x = false) (xs ys : List α) :
    (xs ++ x :: ys).takeWhile p = xs.takeWhile p := by
  induction xs with
  | nil => exact List.takeWhile_cons_of_neg (by simp [h])
  | cons y xs ih =>
    rw [List.cons_append, List.takeWhile_cons, List.takeWhile_cons, ih]

theorem dropWhile_append_cons (h : p x = false) (xs ys : List α) :
    (xs ++ x :: ys).dropWhile p = xs.dropWhile p ++ x :: ys := by
  induction xs with
  | nil => exact List.dropWhile_cons_of_neg (by simp [h])
  | cons y xs ih =>
    rw [List.cons_append, List.dropWhile_cons, List.dropWhile_cons, ih]
    split
    · rfl
    · rfl

theorem span_append_cons (h : p x = false) (xs ys : List α) :
    (xs ++ x :: ys).span p = (xs.takeWhile p, xs.dropWhile p ++ x :: ys) := by
  rw [List.span_eq_takeWhile_dropWhile, takeWhile_append_cons h, dropWhile_append_cons h]

end

theorem trimEnds_append {rest : List Char}
    (hrest : ∀ c ∈ ('/' :: rest).getLast?, isBlankEnd c = false) (front : List Char) :
    trimEnds (front ++ '/' :: rest) = front.dropWhile isBlankEnd ++ '/' :: rest := by
  obtain ⟨init, last, hlast⟩ : ∃ init last, '/' :: rest = init ++ [last] :=
    ⟨_, _, (List.dropLast_concat_getLast (List.cons_ne_nil _ _)).symm⟩
  have hkeep : isBlankEnd last = false := hrest last (by rw [hlast]; simp)
  have hreverse : (front.dropWhile isBlankEnd ++ '/' :: rest).reverse.dropWhile isBlankEnd =
      (front.dropWhile isBlankEnd ++ '/' :: rest).reverse := by
    rw [hlast, List.reverse_append, List.reverse_append, List.reverse_singleton,
      List.singleton_append, List.cons_append]
    exact List.dropWhile_cons_of_neg (by simp [hkeep])
  rw [trimEnds, dropWhile_append_cons (by decide), hreverse, List.reverse_reverse]

theorem cutScheme_append {front rest : List Char} {scheme : String}
    (h : cutScheme (front ++ ['/']) = some (scheme, rest)) :
    ∃ behind, ∀ more, cutScheme (front ++ '/' :: more) = some (scheme, behind ++ '/' :: more) := by
  have hslash : isSchemeChar '/' = false := by decide
  rw [cutScheme, span_append_cons hslash] at h
  cases hname : front.takeWhile isSchemeChar with
  | nil =>
    rw [hname] at h
    cases h
  | cons c name =>
    cases hbehind : front.dropWhile isSchemeChar with
    | nil =>
      rw [hname, hbehind] at h
      cases h
    | cons d behind =>
      rw [hname, hbehind] at h
      refine ⟨behind, fun more => ?_⟩
      rw [cutScheme, span_append_cons hslash, hname, hbehind]
      by_cases hcolon : d = ':'
      · subst hcolon
        by_cases hc : c.isAlpha = true
        · simp only [hc, if_true, List.cons_append, Option.some.injEq, Prod.mk.injEq,
            and_true] at h ⊢
          exact h.1
        · simp [hc] at h
      · simp [hcolon] at h

theorem cutAt_of_not_mem {mark : Char} {cs : List Char} (h : mark ∉ cs) :
    cutAt mark cs = (cs, none) := by
  rw [cutAt, Text.cutFirst_eq_none_iff.2 h]

theorem not_mem_of_cutAt {mark : Char} {cs : List Char} (h : (cutAt mark cs).2 = none) :
    mark ∉ cs := by
  unfold cutAt at h
  split at h
  · cases h
  · exact Text.cutFirst_eq_none_iff.1 ‹_›

theorem cutAt_sublist (mark : Char) (cs : List Char) : (cutAt mark cs).1.Sublist cs := by
  unfold cutAt
  split
  · next before after h =>
    obtain ⟨rfl, -⟩ := Text.cutFirst_eq_some_iff.1 h
    exact List.sublist_append_left _ _
  · exact List.Sublist.refl _

theorem not_mem_cutAt (mark : Char) (cs : List Char) : mark ∉ (cutAt mark cs).1 := by
  unfold cutAt
  split
  · next h => exact (Text.cutFirst_eq_some_iff.1 h).2
  · next h => exact Text.cutFirst_eq_none_iff.1 h

theorem cutAt_append {mark : Char} {front : List Char} (h : mark ∉ front) (rest : List Char) :
    cutAt mark (front ++ rest) = (front ++ (cutAt mark rest).1, (cutAt mark rest).2) := by
  by_cases hrest : mark ∈ rest
  · obtain ⟨⟨before, after⟩, hcut⟩ := Option.ne_none_iff_exists'.1 fun hnone =>
      Text.cutFirst_eq_none_iff.1 hnone hrest
    obtain ⟨rfl, hbefore⟩ := Text.cutFirst_eq_some_iff.1 hcut
    have hall : Text.cutFirst mark (front ++ (before ++ mark :: after)) =
        some (front ++ before, after) :=
      Text.cutFirst_eq_some_iff.2 ⟨(List.append_assoc ..).symm, by simp [h, hbefore]⟩
    rw [cutAt, cutAt, hall, hcut]
  · rw [cutAt_of_not_mem hrest, cutAt_of_not_mem (by simp [h, hrest])]

/-! ### Authorities -/

/-- What of an authority belongs to the path: a backslash in a port, and all behind it. -/
def behindPort (authority : List Char) : List Char :=
  let (_, _, rest) := cutUserInfo authority
  match (cutPort false rest).2 with
  | some port => port.dropWhile (· ≠ '\\')
  | none => []

/-- An authority tells all but the path, and whether something stands behind it matters, but not
what. -/
theorem readHosted_eq (scheme : String) (authority : List Char) (more : Bool) :
    ∃ (host : Except Error Host) (port : Except Error (Option Nat)) (user pass : String),
      ∀ {cs path : List Char} {last : Bool}, cs.span (· ≠ '/') = (authority, path) →
        (decide (path ≠ []) || last) = more →
        readHosted scheme cs last = do
          let host ← host
          let port ← port
          return { scheme, user, pass, host := some host, port
                   path := readPath (isSpecial scheme) (behindPort authority ++ path) } := by
  unfold behindPort
  rcases hinfo : cutUserInfo authority with ⟨user, pass, text⟩
  rcases hport : cutPort false text with ⟨host, port⟩
  let encode cs := String.ofList (percentEncode .userInfo cs)
  let named := user ≠ [] || pass ≠ [] || (authority = ['@'] && more)
  by_cases hempty : (host = [] && (isSpecial scheme || port.isSome || named)) = true
  · refine ⟨.error .emptyHost, .ok none, "", "", ?_⟩
    intro cs path last hspan hmore
    subst hmore
    simp only [readHosted, hspan, hinfo, hport]
    cases port with
    | none => exact if_pos hempty
    | some port => exact if_pos hempty
  · refine ⟨if isSpecial scheme then Host.parse host else Host.parseOpaque host,
      readPort scheme ((port.map fun p => p.takeWhile (· ≠ '\\')).getD []), encode user,
      encode pass, ?_⟩
    intro cs path last hspan hmore
    subst hmore
    simp only [readHosted, hspan, hinfo, hport, List.span_eq_takeWhile_dropWhile]
    cases port with
    | none =>
      refine (if_neg hempty).trans ?_
      split <;> rfl
    | some port =>
      refine (if_neg hempty).trans ?_
      split <;> rfl

/-- What of the text behind the slashes of a scheme stands in front of the path. -/
def pathFront (front : List Char) : List Char :=
  behindPort (front.takeWhile (· ≠ '/')) ++ front.dropWhile (· ≠ '/')

/-- Behind the slash only the path is read, and that goes on from what was in front. -/
theorem readHosted_append (scheme : String) (front rest : List Char) (more : Bool) :
    readHosted scheme (front ++ '/' :: rest) more =
      (readHosted scheme (front ++ ['/']) false).map fun u =>
        { u with path := readPath (isSpecial scheme) (pathFront front ++ '/' :: rest) } := by
  have hspan (ys : List Char) : (front ++ '/' :: ys).span (fun c => decide (c ≠ '/')) =
      (front.takeWhile (· ≠ '/'), front.dropWhile (· ≠ '/') ++ '/' :: ys) :=
    span_append_cons (by decide) front ys
  obtain ⟨host, port, user, pass, hread⟩ :=
    readHosted_eq scheme (front.takeWhile (· ≠ '/')) true
  rw [hread (hspan rest) (by simp), hread (hspan []) (by simp), pathFront, List.append_assoc]
  cases host with
  | error e => rfl
  | ok host =>
    cases port with
    | error e => rfl
    | ok port => rfl

/-- What an address with a host keeps its slashes as. -/
def slashed (c : Char) : Char := if c = '\\' then '/' else c

/-- The segments in front are resolved once, whatever follows them. -/
theorem readPath_append (before : List Char) :
    ∃ done, ∀ rest, readPath true (before ++ '/' :: rest) =
      .segments (resolveDots done ((Text.cutAll '/' rest).map encodePath)) := by
  have hparts (rest : List Char) : (Text.cutAll '/' rest).map encodePath ≠ [] := by
    simpa using Text.cutAll_ne_nil '/' rest
  cases before with
  | nil => exact ⟨[], fun rest => rfl⟩
  | cons c before =>
    refine ⟨((Text.cutAll '/' (if c = '/' then before else c :: before)).map encodePath).foldl
      enter [], fun rest => ?_⟩
    have hall : (if c = '/' then before ++ '/' :: rest else c :: (before ++ '/' :: rest)) =
        (if c = '/' then before else c :: before) ++ '/' :: rest := by
      split <;> rfl
    rw [List.cons_append, readPath, hall, readSegments, Text.cutAll_append, List.map_append,
      resolveDots_append (hparts rest)]

/-- What stands behind the slash decides neither host nor port. -/
theorem readMain_append {scheme : String} {front : List Char} {u : Url}
    (hscheme : (usualPort? scheme).isSome = true)
    (h : readMain scheme (front ++ ['/']) false = .ok u) :
    ∃ before, ∀ rest more, readMain scheme (front ++ '/' :: rest) more =
      .ok { u with path := readPath true (before ++ '/' :: rest.map slashed) } := by
  have hspecial : isSpecial scheme = true := by simp [isSpecial, hscheme]
  have hfile : scheme ≠ fileScheme := by
    rintro rfl
    exact absurd hscheme (by decide)
  have hmain (rest : List Char) (more : Bool) : readMain scheme (front ++ '/' :: rest) more =
      readHosted scheme ((front.map slashed ++ '/' :: rest.map slashed).dropWhile (· = '/'))
        more := by
    rw [readMain, if_pos hspecial, if_neg hfile, if_pos hspecial, List.map_append]
    rfl
  cases hfront : (front.map slashed).dropWhile (· = '/') with
  | nil =>
    have hempty : readHosted scheme [] false = .error .emptyHost := by
      simp only [readHosted, hspecial]
      rfl
    rw [hmain, List.dropWhile_append, hfront] at h
    exact absurd (hempty.symm.trans h) (by simp)
  | cons x xs =>
    have hhosted (rest : List Char) (more : Bool) : readMain scheme (front ++ '/' :: rest) more =
        readHosted scheme (x :: xs ++ '/' :: rest.map slashed) more := by
      rw [hmain, List.dropWhile_append, hfront]
      rfl
    rw [hhosted] at h
    refine ⟨pathFront (x :: xs), fun rest more => ?_⟩
    rw [hhosted, readHosted_append, hspecial]
    exact congrArg _ h

theorem readHosted_parts {scheme : String} {cs : List Char} {more : Bool} {u : Url}
    (h : readHosted scheme cs more = .ok u) :
    u.scheme = scheme ∧ ∃ text, u.path = readPath (isSpecial scheme) text := by
  obtain ⟨host, port, user, pass, hread⟩ := readHosted_eq scheme (cs.span (· ≠ '/')).1
    (decide ((cs.span (· ≠ '/')).2 ≠ []) || more)
  rw [hread rfl rfl] at h
  cases host with
  | error e => cases h
  | ok host =>
    cases port with
    | error e => cases h
    | ok port =>
      rw [← Except.ok.inj h]
      exact ⟨rfl, _, rfl⟩

theorem readFile_scheme {cs : List Char} {u : Url} (h : readFile cs = .ok u) :
    u.scheme = fileScheme := by
  unfold readFile at h
  split at h
  · split at h
    next host path _ =>
    split at h
    · exact Except.ok.inj h ▸ rfl
    split at h
    · exact Except.ok.inj h ▸ rfl
    · cases hparse : Host.parse host with
      | error e =>
        rw [hparse] at h
        cases h
      | ok host =>
        rw [hparse] at h
        rw [← Except.ok.inj h]
        dsimp only
        split <;> rfl
  · exact Except.ok.inj h ▸ rfl
  · exact Except.ok.inj h ▸ rfl

theorem readMain_scheme {scheme : String} {cs : List Char} {more : Bool} {u : Url}
    (h : readMain scheme cs more = .ok u) : u.scheme = scheme := by
  simp only [readMain] at h
  split at h
  · next hfile => rw [hfile, readFile_scheme h]
  split at h
  · exact (readHosted_parts h).1
  split at h
  · exact (readHosted_parts h).1
  · exact Except.ok.inj h ▸ rfl
  · exact Except.ok.inj h ▸ rfl

theorem readMain_path {scheme : String} {cs : List Char} {more : Bool} {u : Url}
    (hscheme : (usualPort? scheme).isSome = true) (h : readMain scheme cs more = .ok u) :
    ∃ all, u.path = .segments all := by
  have hspecial : isSpecial scheme = true := by simp [isSpecial, hscheme]
  have hfile : scheme ≠ fileScheme := by
    rintro rfl
    exact absurd hscheme (by decide)
  rw [readMain, if_pos hspecial, if_neg hfile, if_pos hspecial] at h
  obtain ⟨-, text, hpath⟩ := readHosted_parts h
  cases text with
  | nil => exact ⟨_, hpath⟩
  | cons c rest => exact ⟨_, hpath⟩

/-! ### Addresses -/

/-- What of a text counts where it stands in an address: everything in front of a query and of
a fragment, but for characters that do not count. -/
def counted (cs : List Char) : List Char :=
  (cutAt '?' (cutAt '#' (cs.filter fun c => !isIgnored c)).1).1

theorem cutAt_slash {mark : Char} (h : mark ≠ '/') (cs : List Char) :
    cutAt mark ('/' :: cs) = ('/' :: (cutAt mark cs).1, (cutAt mark cs).2) :=
  cutAt_append (show mark ∉ ['/'] by simpa using h) cs

/-- An address from its scheme and what follows: main part, query and fragment. -/
theorem parse_of_cutScheme {text scheme : String} {rest : List Char}
    (h : cutScheme ((trimEnds text.toList).filter fun c => !isIgnored c) = some (scheme, rest)) :
    let (main, fragment) := cutAt '#' rest
    let (main, query) := cutAt '?' main
    let querySet : EncodeSet := if isSpecial scheme then .specialQuery else .query
    parse text = (readMain scheme main (query.isSome || fragment.isSome)).map fun u =>
      { u with
        query := query.map fun cs => String.ofList (percentEncode querySet cs)
        fragment := fragment.map fun cs => String.ofList (percentEncode .fragment cs) } := by
  rw [parse, h]

theorem cutScheme_of_parse {text : String} {u : Url} (h : parse text = .ok u) :
    ∃ scheme rest,
      cutScheme ((trimEnds text.toList).filter fun c => !isIgnored c) = some (scheme, rest) := by
  rw [parse] at h
  split at h
  · cases h
  · exact ⟨_, _, ‹_›⟩

/-- An address without query and fragment has no text for either. -/
theorem readMain_of_parse {text scheme : String} {rest : List Char} {u : Url}
    (hscheme : cutScheme ((trimEnds text.toList).filter fun c => !isIgnored c) =
      some (scheme, rest))
    (h : parse text = .ok u) (hquery : u.query = none) (hfragment : u.fragment = none) :
    '#' ∉ rest ∧ '?' ∉ rest ∧ ∃ v, readMain scheme rest false = .ok v ∧
      u = { v with query := none, fragment := none } := by
  have hparse := parse_of_cutScheme hscheme
  rw [h] at hparse
  dsimp only at hparse
  cases hmain : readMain scheme (cutAt '?' (cutAt '#' rest).1).1
      ((cutAt '?' (cutAt '#' rest).1).2.isSome || (cutAt '#' rest).2.isSome) with
  | error e =>
    rw [hmain] at hparse
    cases hparse
  | ok v =>
    rw [hmain] at hparse
    obtain rfl := Except.ok.inj hparse
    have hhash : '#' ∉ rest := not_mem_of_cutAt (Option.map_eq_none_iff.1 hfragment)
    rw [cutAt_of_not_mem hhash] at hmain hquery ⊢
    have hmark : '?' ∉ rest := not_mem_of_cutAt (Option.map_eq_none_iff.1 hquery)
    rw [cutAt_of_not_mem hmark] at hmain ⊢
    exact ⟨hhash, hmark, v, hmain, rfl⟩

/-- An address with a usual port has a path of segments. -/
theorem parse_path {text : String} {u : Url} (h : parse text = .ok u)
    (hscheme : (usualPort? u.scheme).isSome = true) (hquery : u.query = none)
    (hfragment : u.fragment = none) : ∃ all, u.path = .segments all := by
  obtain ⟨scheme, rest, hcut⟩ := cutScheme_of_parse h
  obtain ⟨-, -, v, hmain, rfl⟩ := readMain_of_parse hcut h hquery hfragment
  rw [readMain_scheme hmain] at hscheme
  obtain ⟨all, hall⟩ := readMain_path hscheme hmain
  exact ⟨all, hall⟩

/-- Text that is put behind an address goes on with its path, up to a query or a fragment. -/
theorem parse_append {front : String} {base : Url} (hbase : parse (front ++ "/") = .ok base)
    (hscheme : (usualPort? base.scheme).isSome = true) (hquery : base.query = none)
    (hfragment : base.fragment = none) :
    ∃ done, base.path = .segments (done.reverse ++ [""]) ∧
      ∀ rest, (∀ c ∈ ('/' :: rest).getLast?, isBlankEnd c = false) → ∃ query fragment,
        parse (front ++ String.ofList ('/' :: rest)) = .ok { base with
          path := .segments (resolveDots done
            ((Text.cutAll '/' ((counted rest).map slashed)).map encodePath))
          query, fragment } ∧
        ('?' ∉ rest → query = none) := by
  let text := (front.toList.dropWhile isBlankEnd).filter fun c => !isIgnored c
  have hread {rest : List Char} (hrest : ∀ c ∈ ('/' :: rest).getLast?, isBlankEnd c = false) :
      (trimEnds (front ++ String.ofList ('/' :: rest)).toList).filter (fun c => !isIgnored c) =
        text ++ '/' :: rest.filter fun c => !isIgnored c := by
    rw [String.toList_append, String.toList_ofList, trimEnds_append hrest, List.filter_append]
    rfl
  have hroot : (trimEnds (front ++ "/").toList).filter (fun c => !isIgnored c) = text ++ ['/'] :=
    @hread [] (by simp [isBlankEnd])
  -- what stands behind the slash is read after the scheme, and then after the host
  obtain ⟨scheme, main, hcut⟩ := cutScheme_of_parse hbase
  obtain ⟨behind, hbehind⟩ := cutScheme_append (hroot ▸ hcut)
  obtain rfl : main = behind ++ ['/'] :=
    (Prod.mk.inj (Option.some.inj ((hroot ▸ hcut).symm.trans (hbehind [])))).2
  obtain ⟨hhash, hmark, u, hmain, rfl⟩ := readMain_of_parse hcut hbase hquery hfragment
  rw [List.mem_append, not_or] at hhash hmark
  rw [readMain_scheme hmain] at hscheme
  obtain ⟨before, hbefore⟩ := readMain_append hscheme hmain
  obtain ⟨done, hdone⟩ := readPath_append before
  refine ⟨done, ?_, fun rest hrest => ?_⟩
  · have hself := Except.ok.inj (hmain.symm.trans (hbefore [] false))
    have hpath : u.path = readPath true (before ++ ['/']) := congrArg Url.path hself
    have hempty : leadsBack "" = false := by decide +kernel
    rw [hpath, hdone []]
    exact congrArg _ (@resolveDots_of_not_leadsBack [""] (by simp [hempty]) done)
  · have hparse := @parse_of_cutScheme (front ++ String.ofList ('/' :: rest)) _ _
      ((congrArg cutScheme (hread hrest)).trans (hbehind _))
    rw [cutAt_append hhash.1, cutAt_slash (by decide)] at hparse
    dsimp only at hparse
    rw [cutAt_append hmark.1, cutAt_slash (by decide)] at hparse
    dsimp only at hparse
    rw [hbefore, hdone] at hparse
    refine ⟨_, _, hparse, fun hnone => ?_⟩
    have hfront : '?' ∉ (cutAt '#' (rest.filter fun c => !isIgnored c)).1 := fun hin =>
      hnone ((cutAt_sublist '#' _).trans List.filter_sublist |>.subset hin)
    rw [cutAt_of_not_mem hfront]
    rfl

end Courier.Url
