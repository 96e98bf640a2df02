import Courier.Proofs.Artifact.BaseName
import Courier.Proofs.Publishing.Pruning
import Courier.Proofs.Url.Spliced

/-! Addresses of stored files.

A file is addressed by its repository and its path. Both are written segment by segment behind the
path of the server, and whatever characters they hold, decoding the segments gives them back. Once
it is written no segment has a slash in it, so that the text of an address shows where its segments
end (`segments_of_text_eq`). So two files of a server never have one address
(`content_urls_faithful`). -/
namespace Courier.Url

/-- Addresses that differ in their paths at most differ in the texts of these. -/
theorem path_text_eq {base : Url} {p q : Path}
    (h : { base with path := p }.text = { base with path := q }.text) : p.text = q.text := by
  have hchars := congrArg String.toList h
  simp only [text, authority, userInfo, hostText, portText, queryText, fragmentText,
    String.toList_append, List.append_cancel_left_eq, List.append_cancel_right_eq] at hchars
  exact String.toList_injective hchars

/-- Behind the same segments, segments without slashes are told by the text of the path. -/
theorem segments_of_text_eq {front xs ys : List String} (hxs : ∀ s ∈ xs, '/' ∉ s.toList)
    (hys : ∀ s ∈ ys, '/' ∉ s.toList)
    (h : (Path.segments (front ++ xs)).text = (Path.segments (front ++ ys)).text) : xs = ys := by
  have hchars := congrArg String.toList h
  simp only [toList_text_segments, List.map_append, List.flatMap_append,
    List.append_cancel_left_eq] at hchars
  have hcut {segments : List String} (hfree : ∀ s ∈ segments, '/' ∉ s.toList) :
      Text.cutAll '/' ((segments.map String.toList).flatMap ('/' :: ·)) =
        [] :: segments.map String.toList := by
    apply Text.cutAll_flatMap
    simpa using hfree
  have hparts := congrArg (Text.cutAll '/') hchars
  rw [hcut hxs, hcut hys] at hparts
  exact (List.map_inj_right fun _ _ => String.toList_injective).1 (List.cons.inj hparts).2

end Courier.Url

namespace Courier.Publishing

/-! ### Names in an address -/

/-- A text that stands for itself in an address: it has no characters that do not count there, and
it is not dots. -/
structure Clean (s : String) : Prop where
  not_dots : ¬Url.IsDots s
  kept : ∀ c ∈ s.toList, Url.isIgnored c = false

theorem Clean.plain_eq {s : String} (h : Clean s) : Url.plain s = s := Url.plain_of_kept h.kept

theorem Clean.named {s : String} (h : Clean s) : Url.Named s := by
  rw [Url.Named, h.plain_eq]
  exact h.not_dots

theorem clean_iff {s : String} :
    Clean s ↔ ¬Url.IsDots s ∧ s.toList.all (fun c => !Url.isIgnored c) = true := by
  have hall : s.toList.all (fun c => !Url.isIgnored c) = true ↔
      ∀ c ∈ s.toList, Url.isIgnored c = false := by simp
  rw [hall]
  exact ⟨fun h => ⟨h.not_dots, h.kept⟩, fun h => ⟨h.1, h.2⟩⟩

instance (s : String) : Decidable (Clean s) := decidable_of_iff _ clean_iff.symm

/-- What stands between the slashes of a path. -/
def parts (path : String) : List String := (Text.cutAll '/' path.toList).map String.ofList

theorem parts_injective {p q : String} (h : parts p = parts q) : p = q := by
  have hcut : Text.cutAll '/' p.toList = Text.cutAll '/' q.toList :=
    (List.map_inj_right fun _ _ => String.ofList_injective).1 h
  have hchars := congrArg (List.flatMap ('/' :: ·)) hcut
  rw [Text.flatMap_cutAll, Text.flatMap_cutAll] at hchars
  exact String.toList_injective (List.cons.inj hchars).2

/-- A path that is made of clean names, none of them empty. -/
def CleanPath (path : String) : Prop := ∀ part ∈ parts path, part ≠ "" ∧ Clean part

instance (path : String) : Decidable (CleanPath path) :=
  inferInstanceAs (Decidable (∀ part ∈ parts path, _))

/-- No part of a clean path is left out of its address. -/
theorem pathSegments_eq_parts {path : String} (h : CleanPath path) :
    Client.pathSegments path = parts path := by
  have hall : (Text.cutAll '/' path.toList).filter (· ≠ []) = Text.cutAll '/' path.toList := by
    apply List.filter_eq_self.2
    intro part hpart
    have hne := (h _ (List.mem_map_of_mem hpart)).1
    apply decide_eq_true
    intro hnil
    exact hne (congrArg String.ofList hnil)
  rw [Client.pathSegments, hall, parts]

theorem showsDots_of_clean {path : String} (h : CleanPath path) : ShowsDots path := by
  intro s hs
  rw [pathSegments_eq_parts h] at hs
  exact .inr (h s hs).2.named

/-- The segments of the address of a file, behind those of the server. -/
def location (c : Client) (repository path : String) : List String :=
  ["content", c.owner, repository] ++ parts path

/-! ### Addresses -/

/-- The address of a server, HTTP or HTTPS, with nothing behind its path. -/
structure IsServer (base : Url) : Prop where
  scheme : base.scheme = "http" ∨ base.scheme = "https"
  query : base.query = none
  fragment : base.fragment = none

/-- A server is reached over one of the two schemes, which have a usual port. -/
theorem IsServer.usualPort {base : Url} (h : IsServer base) :
    (Url.usualPort? base.scheme).isSome = true := by
  rcases h.scheme with hscheme | hscheme
  · rw [hscheme]
    decide
  · rw [hscheme]
    decide

theorem IsServer.special {base : Url} (h : IsServer base) : Url.isSpecial base.scheme = true := by
  simp [Url.isSpecial, h.usualPort]

/-- The address of a server has a path of segments, even if nothing stands behind the host. -/
theorem IsServer.segments {base : Url} (h : IsServer base) {text : String}
    (hparse : Url.parse text = .ok base) : ∃ all, base.path = .segments all :=
  Url.parse_path hparse h.usualPort h.query h.fragment

section

variable {c : Client} {base : Url} {all : List String} {repository path : String}

/-- The address of a stored file is that of the server with its location behind. -/
theorem contentUrl_of_clean (hbase : Url.parse c.apiUrl = .ok base)
    (hall : base.path = .segments all) (howner : Clean c.owner) (hrepository : Clean repository)
    (hpath : CleanPath path) : c.contentUrl repository path = .ok { base with
      path := .segments (Url.basePath all ++
        (location c repository path).map (Url.writeSegment base.scheme)) } := by
  have hnames : Url.names (Client.pathSegments path) = parts path := by
    rw [pathSegments_eq_parts hpath]
    apply List.filter_eq_self.2
    intro s hs
    exact decide_eq_true (hpath s hs).2.not_dots
  rw [contentUrl_of_segments hbase hall howner.named hrepository.named (showsDots_of_clean hpath),
    hnames]
  rfl

/-- Decoding the written segments of a location gives back its bytes, whatever characters are in
them. -/
theorem decoded_location (howner : Clean c.owner) (hrepository : Clean repository)
    (hpath : CleanPath path) (scheme : String) :
    Url.decoded ((location c repository path).map (Url.writeSegment scheme)) =
      (location c repository path).map Text.utf8 := by
  rw [Url.decoded_written]
  apply List.map_congr_left
  intro s hs
  have hplain : Url.plain s = s := by
    rcases List.mem_append.1 hs with hs | hs
    · rcases List.mem_cons.1 hs with rfl | hs
      · decide
      rcases List.mem_cons.1 hs with rfl | hs
      · exact howner.plain_eq
      · rw [List.mem_singleton.1 hs]
        exact hrepository.plain_eq
    · exact (hpath s hs).2.plain_eq
  rw [hplain]

/-- Repository and path can be told from a location. -/
theorem location_injective {repository' path' : String}
    (h : location c repository path = location c repository' path') :
    repository = repository' ∧ path = path' := by
  simp only [location, List.cons_append, List.nil_append, List.cons.injEq, true_and] at h
  exact ⟨h.1, parts_injective h.2⟩

/-- Where two files have addresses of one text they are one file. -/
theorem eq_of_contentUrl_text {repository' path' : String} {u u' : Url}
    (hbase : Url.parse c.apiUrl = .ok base) (hall : base.path = .segments all)
    (howner : Clean c.owner) (hrepository : Clean repository) (hpath : CleanPath path)
    (hrepository' : Clean repository') (hpath' : CleanPath path')
    (hu : c.contentUrl repository path = .ok u) (hu' : c.contentUrl repository' path' = .ok u')
    (htext : u.text = u'.text) : repository = repository' ∧ path = path' := by
  rw [contentUrl_of_clean hbase hall howner hrepository hpath] at hu
  rw [contentUrl_of_clean hbase hall howner hrepository' hpath'] at hu'
  rw [← Except.ok.inj hu, ← Except.ok.inj hu'] at htext
  have hfree (names : List String) :
      ∀ s ∈ names.map (Url.writeSegment base.scheme), '/' ∉ s.toList := by
    intro s hs
    obtain ⟨name, -, rfl⟩ := List.mem_map.1 hs
    exact Url.slash_not_mem_writeSegment base.scheme name
  have hwritten := Url.segments_of_text_eq (hfree _) (hfree _) (Url.path_text_eq htext)
  have hdecoded := congrArg Url.decoded hwritten
  rw [decoded_location howner hrepository hpath, decoded_location howner hrepository' hpath']
    at hdecoded
  exact location_injective ((List.map_inj_right fun _ _ => Text.utf8_injective).1 hdecoded)

end

/-- **Addresses of stored files are faithful.** Behind the path of the server stand segments that
decode to content, owner, repository and the names in the path. There is no query and no fragment,
and nothing in these segments could start one, whatever the names hold. Of the path of the server an
empty segment at its end does not count, and neither do two of them that are all of it. As the names
can be told from the text of an address, no two files have the same one. -/
theorem content_urls_faithful {c : Client} {base : Url} (hbase : Url.parse c.apiUrl = .ok base)
    (hserver : IsServer base) (howner : Clean c.owner) :
    ∃ front, ((base.path = .segments front ∧ front.getLast? ≠ some "") ∨
        (base.path = .segments (front ++ [""]) ∧ front ≠ [""]) ∨
        (base.path = .segments ["", ""] ∧ front = [])) ∧
      (∀ repository path, Clean repository → CleanPath path → ∃ u segments,
        c.contentUrl repository path = .ok u ∧ u.query = none ∧ u.fragment = none ∧
          u = { base with path := .segments (front ++ segments) } ∧ (∀ s ∈ segments, Url.Safe s) ∧
          Url.decoded segments = (["content", c.owner, repository] ++ parts path).map Text.utf8) ∧
      ∀ repository path repository' path', Clean repository → CleanPath path →
        Clean repository' → CleanPath path' → (repository, path) ≠ (repository', path') →
          ∀ u u', c.contentUrl repository path = .ok u → c.contentUrl repository' path' = .ok u' →
            u.text ≠ u'.text := by
  obtain ⟨all, hall⟩ := hserver.segments hbase
  refine ⟨Url.basePath all, ?_, ?_, ?_⟩
  · rw [hall]
    simp only [Url.Path.segments.injEq]
    exact Url.basePath_cases all
  · intro repository path hrepository hpath
    refine ⟨_, _, contentUrl_of_clean hbase hall howner hrepository hpath, hserver.query,
      hserver.fragment, rfl, ?_, decoded_location howner hrepository hpath base.scheme⟩
    intro s hs
    obtain ⟨name, -, rfl⟩ := List.mem_map.1 hs
    exact Url.safe_writeSegment hserver.special name
  · intro repository path repository' path' hfirst hbelow hsecond hbelow' hne u u' hu hu' htext
    obtain ⟨hrepositories, hpaths⟩ := eq_of_contentUrl_text hbase hall howner hfirst hbelow
      hsecond hbelow' hu hu' htext
    exact hne (Prod.ext hrepositories hpaths)

/-- An address with escapes and a slash at its end, and names with a slash, with marks that end a
path, and with what looks like an escape. Where the slash is moved from the repository to the path
the address is another one. -/
theorem content_urls_faithful_marks :
    let c : Client :=
      { authorization := "", apiUrl := "http://[::1]:8080/api%20v1/", owner := "#o?" }
    let path := "x %41;/\\é"
    ∃ u v segments, c.contentUrl "a/b" path = .ok u ∧ c.contentUrl "a" ("b/" ++ path) = .ok v ∧
      u.query = none ∧ u.text ≠ v.text ∧ (∀ s ∈ segments, Url.Safe s) ∧ Url.decoded segments =
        ["content", "#o?", "a/b", "x %41;", "\\é"].map Text.utf8 ∧
      ∃ front, u.path = .segments (front ++ segments) := by
  intro c path
  let base : Url := localUrl ["api%20v1", ""]
  have hparse : (Url.parse c.apiUrl).toOption = some base := by decide +kernel
  have hserver : IsServer base := ⟨.inl rfl, rfl, rfl⟩
  obtain ⟨front, -, hsucceeds, hdiffers⟩ :=
    content_urls_faithful (eq_ok_of_toOption hparse) hserver (by decide)
  have hnames : ["content", c.owner, "a/b"] ++ parts path =
      ["content", "#o?", "a/b", "x %41;", "\\é"] := by decide
  have hrepository : Clean "a/b" := by decide
  have hrepository' : Clean "a" := by decide
  have hpath : CleanPath path := by decide
  have hpath' : CleanPath ("b/" ++ path) := by decide
  obtain ⟨u, segments, hu, hquery, -, rfl, hsafe, hdecoded⟩ :=
    hsucceeds "a/b" path hrepository hpath
  rw [hnames] at hdecoded
  obtain ⟨v, -, hv, -⟩ := hsucceeds "a" ("b/" ++ path) hrepository' hpath'
  have hne := hdiffers _ _ _ _ hrepository hpath hrepository' hpath' (by decide) _ _ hu hv
  exact ⟨_, v, segments, hu, hv, hquery, hne, hsafe, hdecoded, front, rfl⟩

end Courier.Publishing
