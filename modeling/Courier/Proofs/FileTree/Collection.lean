import Courier.Proofs.FileTree.LongPath
import Courier.Publishing.Publish

/-! The files that are collected below a directory.

A listing goes from name to name, and what stands below one name is listed before what stands
below the next. The names of a directory are sorted, so the listing of a whole tree is sorted by
components (`lists_filesBelow`): what two entries hold differs in the first name, and what one of
them holds is in order already. It has all files, or it breaks off at the first directory whose
path is too long to be opened (`collect_in_order`). -/
namespace Courier

/-! ### Paths -/

namespace Path

/-- Where names lead to from a path. -/
def below (p : Path) (names : List Bytes) : Path := names.foldl join p

/-- The names in a path. An absolute path has those of the relative one. -/
def components (p : Path) : List Bytes :=
  p.parts.filter fun part => part ≠ [] ∧ part ≠ FileTree.dot

/-- A name behind a slash is one more part of a path. -/
theorem parts_append_slash (p name : Path) (h : slash ∉ name) :
    (p ++ slash :: name).parts = p.parts ++ [name] := by
  rw [parts, Text.cutAll_append, Text.cutAll_of_not_mem h]
  rfl

/-- Joining a name to a path adds it to the components. -/
theorem components_join (p : Path) {name : Bytes} (h : FileTree.IsName name) :
    (p.join name).components = p.components ++ [name] := by
  have hname : [name].filter (fun part => part ≠ [] ∧ part ≠ FileTree.dot) = [name] := by
    simp [h.ne_nil, h.ne_dot]
  have happend (q : Path) : components (q ++ slash :: name) = q.components ++ [name] := by
    rw [components, parts_append_slash q name h.slash_free, List.filter_append, hname]
    rfl
  unfold join
  split
  · next hends =>
    rcases hends with rfl | hslash
    · rw [List.nil_append, components, parts, Text.cutAll_of_not_mem h.slash_free, hname]
      rfl
    · obtain ⟨front, rfl⟩ := List.getLast?_eq_some_iff.1 hslash
      have hfront : components (front ++ [slash]) = components front := by
        rw [components, parts_append_slash front [] (List.not_mem_nil), List.filter_append]
        exact List.append_nil _
      rw [List.append_assoc, List.singleton_append, happend, hfront]
  · exact happend p

theorem components_below (p : Path) {names : List Bytes}
    (h : ∀ name ∈ names, FileTree.IsName name) :
    (p.below names).components = p.components ++ names := by
  induction names generalizing p with
  | nil => exact (List.append_nil _).symm
  | cons name rest ih =>
    obtain ⟨hname, hrest⟩ := List.forall_mem_cons.1 h
    show ((p.join name).below rest).components = _
    rw [ih _ hrest, components_join p hname, List.append_assoc, List.singleton_append]

end Path

namespace FileTree

/-! ### Trees -/

/-- A tree as a system of files has it: what a directory holds has names, all of them different. -/
inductive Node.Proper : Node → Prop where
  | file (data : Bytes) : Proper (.file data)
  | link (target : Path) : Proper (.link target)
  | dir {entries : List (Bytes × Node)} (names : ∀ e ∈ entries, IsName e.1)
      (nodup : (entries.map Prod.fst).Nodup) (below : ∀ e ∈ entries, e.2.Proper) :
      Proper (.dir entries)

/-- What names lead to. -/
abbrev Contents := List Bytes → Node → Prop

/-- What is in a tree: each way down from its root with the node it leads to. -/
def Node.contents (node : Node) : Contents := fun names n => node.at? names = some n

/-- The contents of a directory, without the directory itself. -/
def contentsOf (entries : List (Bytes × Node)) : Contents := fun names n =>
  ∃ e ∈ entries, ∃ rest, names = e.1 :: rest ∧ e.2.at? rest = some n

/-- In a directory without repeated names, what is found by a name is what stands under it. -/
theorem child?_eq_some_iff {entries : List (Bytes × Node)} (h : (entries.map Prod.fst).Nodup)
    {name : Bytes} {n : Node} : (Node.dir entries).child? name = some n ↔ (name, n) ∈ entries := by
  induction entries with
  | nil => simp [Node.child?]
  | cons e rest ih =>
    obtain ⟨first, node⟩ := e
    rw [List.map_cons, List.nodup_cons] at h
    have ih := ih h.2
    simp only [Node.child?] at ih ⊢
    by_cases heq : first = name
    · subst heq
      have hfresh : (first, n) ∉ rest := fun hin => h.1 (List.mem_map.2 ⟨_, hin, rfl⟩)
      simp [hfresh, eq_comm]
    · have hne : (first == name) = false := by simpa using heq
      rw [List.find?_cons_of_neg (by simp [hne]), ih]
      simp [Ne.symm heq]

/-- In a directory there is the directory itself, and what its entries hold. -/
theorem contents_dir_iff {entries : List (Bytes × Node)} (h : (entries.map Prod.fst).Nodup)
    {names : List Bytes} {n : Node} : (Node.dir entries).contents names n ↔
      (names = [] ∧ n = .dir entries) ∨ contentsOf entries names n := by
  unfold Node.contents contentsOf
  cases names with
  | nil => simp [Node.at?, eq_comm]
  | cons name rest =>
    rw [Node.at?, Option.bind_eq_some_iff]
    simp only [child?_eq_some_iff h, reduceCtorEq, false_and, false_or]
    constructor
    · rintro ⟨child, hin, hrest⟩
      exact ⟨(name, child), hin, rest, rfl, hrest⟩
    · rintro ⟨e, hin, rest', heq, hrest⟩
      cases heq
      exact ⟨e.2, hin, hrest⟩

theorem at?_append (node : Node) (xs ys : List Bytes) :
    node.at? (xs ++ ys) = (node.at? xs).bind (·.at? ys) := by
  induction xs generalizing node with
  | nil => rfl
  | cons name rest ih =>
    rw [List.cons_append, Node.at?, Node.at?, Option.bind_assoc]
    exact Option.bind_congr fun child _ => ih child

theorem Node.Proper.child {node n : Node} {name : Bytes} (h : node.Proper)
    (hchild : node.child? name = some n) : IsName name ∧ n.Proper := by
  cases h with
  | file data => cases hchild
  | link target => cases hchild
  | dir names nodup below =>
    have hin := (child?_eq_some_iff nodup).1 hchild
    exact ⟨names _ hin, below _ hin⟩

theorem Node.Proper.at? {node n : Node} {names : List Bytes} (h : node.Proper)
    (hat : node.at? names = some n) : (∀ name ∈ names, IsName name) ∧ n.Proper := by
  induction names generalizing node with
  | nil =>
    obtain rfl := Option.some.inj hat
    exact ⟨fun name hname => absurd hname List.not_mem_nil, h⟩
  | cons name rest ih =>
    rw [Node.at?, Option.bind_eq_some_iff] at hat
    obtain ⟨child, hchild, hrest⟩ := hat
    obtain ⟨hname, hproper⟩ := h.child hchild
    obtain ⟨hnames, hn⟩ := ih hproper hrest
    exact ⟨List.forall_mem_cons.2 ⟨hname, hnames⟩, hn⟩

/-- What a path leads to is in the tree. -/
theorem at?_of_follow {root : Node} {last : Bool} (links : Nat) (place parts : List Bytes)
    {found : Place} (h : follow root last links place parts = .ok found) :
    root.at? found.1.reverse = some found.2 := by
  cases parts with
  | nil =>
    rw [follow] at h
    split at h
    · next hplace =>
      cases h
      exact hplace
    · cases h
  | cons part rest =>
    rw [follow] at h
    split at h
    · next entries hplace =>
      split at h
      · exact at?_of_follow links place rest h
      split at h
      · exact at?_of_follow links place.tail rest h
      split at h
      · cases h
      split at h
      · cases h
      · next target hchild =>
        split at h
        · cases h
          rw [List.reverse_cons, at?_append, hplace, Option.bind_some, Node.at?, hchild]
          rfl
        split at h
        · cases h
        · exact at?_of_follow (links - 1) _ _ h
      · exact at?_of_follow links (part :: place) rest h
    · cases h
    · cases h
termination_by (links, parts.length)

/-- A place that resolution found is where its components lead from the root. -/
theorem at?_of_locate {tree : FileTree} {last : Bool} {path : Path} {found : Place}
    (h : locate tree last path = .ok found) : tree.root.at? found.1.reverse = some found.2 := by
  unfold locate at h
  split at h
  · cases h
  split at h
  · cases h
  split at h
  · cases h
  · exact at?_of_follow _ _ _ h

/-! ### Listings -/

/-- The first directory of some contents whose path is too long. -/
structure FirstLong (path : Path) (c : Contents) (names : List Bytes) : Prop where
  dir : ∃ entries, c names (.dir entries)
  long : maxPathSize < (path.below names).length
  first : ∀ other entries, c other (.dir entries) → maxPathSize < (path.below other).length →
    names ≤ other

/-- A listing of some contents: all files, in order, or the place where it breaks off. -/
def Lists (path : Path) (c : Contents) : Except Break (List Path) → Prop
  | .ok files => (∀ names entries, c names (.dir entries) →
        (path.below names).length ≤ maxPathSize) ∧
      ∃ found : List (List Bytes), files = found.map path.below ∧ found.Pairwise (· < ·) ∧
        ∀ names, names ∈ found ↔ ∃ data, c names (.file data)
  | .error broken => ∃ names, FirstLong path c names ∧ broken = (path.below names, .nameTooLong)

/-- Contents under a name. -/
def Contents.under (name : Bytes) (c : Contents) : Contents := fun names n =>
  ∃ rest, names = name :: rest ∧ c rest n

/-- What is in either of two. -/
def Contents.and (c d : Contents) : Contents := fun names n => c names n ∨ d names n

theorem Lists.none (path : Path) : Lists path (fun _ _ => False) (.ok []) := by
  refine ⟨fun _ _ h => h.elim, [], rfl, .nil, fun names => ?_⟩
  simp

/-- A listing of a child lists what is under its name in the parent. -/
theorem Lists.under {path : Path} {name : Bytes} {c : Contents} {r : Except Break (List Path)}
    (h : Lists (path.join name) c r) : Lists path (c.under name) r := by
  cases r with
  | ok files =>
    obtain ⟨hshort, found, rfl, hsorted, hmem⟩ := h
    refine ⟨?_, found.map (name :: ·), ?_, ?_, fun names => ?_⟩
    · rintro _ entries ⟨rest, rfl, hdir⟩
      exact hshort rest entries hdir
    · rw [List.map_map]
      rfl
    · rw [List.pairwise_map]
      exact hsorted.imp fun hlt => List.cons_lt_cons_iff.2 (.inr ⟨rfl, hlt⟩)
    · rw [List.mem_map]
      constructor
      · rintro ⟨rest, hrest, rfl⟩
        obtain ⟨data, hfile⟩ := (hmem rest).1 hrest
        exact ⟨data, rest, rfl, hfile⟩
      · rintro ⟨data, rest, rfl, hfile⟩
        exact ⟨rest, (hmem rest).2 ⟨data, hfile⟩, rfl⟩
  | error broken =>
    obtain ⟨rest, ⟨⟨entries, hdir⟩, hlong, hfirst⟩, rfl⟩ := h
    refine ⟨name :: rest, ⟨⟨entries, rest, rfl, hdir⟩, hlong, ?_⟩, rfl⟩
    rintro _ entries' ⟨other, rfl, hother⟩ hlong'
    exact List.cons_le_cons_iff.2 (.inr ⟨rfl, hfirst other entries' hother hlong'⟩)

/-- One listing behind another. -/
theorem Lists.append {path : Path} {c d : Contents} {r s : Except Break (List Path)}
    (hr : Lists path c r) (hs : Lists path d s)
    (hlt : ∀ a m b n, c a m → d b n → a < b) :
    Lists path (c.and d) (r.bind fun files => s.map (files ++ ·)) := by
  cases r with
  | error broken =>
    obtain ⟨names, ⟨⟨entries, hdir⟩, hlong, hfirst⟩, rfl⟩ := hr
    refine ⟨names, ⟨⟨entries, .inl hdir⟩, hlong, ?_⟩, rfl⟩
    rintro other entries' (hother | hother) hlong'
    · exact hfirst other entries' hother hlong'
    · exact List.le_of_lt (hlt _ _ _ _ hdir hother)
  | ok files =>
    obtain ⟨hshort, found, rfl, hsorted, hmem⟩ := hr
    cases s with
    | error broken =>
      obtain ⟨names, ⟨⟨entries, hdir⟩, hlong, hfirst⟩, rfl⟩ := hs
      refine ⟨names, ⟨⟨entries, .inr hdir⟩, hlong, ?_⟩, rfl⟩
      rintro other entries' (hother | hother) hlong'
      · exact absurd (hshort other entries' hother) (Nat.not_le.2 hlong')
      · exact hfirst other entries' hother hlong'
    | ok more =>
      obtain ⟨hshort', found', rfl, hsorted', hmem'⟩ := hs
      refine ⟨?_, found ++ found', List.map_append.symm, ?_, fun names => ?_⟩
      · rintro names entries (hdir | hdir)
        · exact hshort names entries hdir
        · exact hshort' names entries hdir
      · refine List.pairwise_append.2 ⟨hsorted, hsorted', fun a ha b hb => ?_⟩
        obtain ⟨data, hfile⟩ := (hmem a).1 ha
        obtain ⟨data', hfile'⟩ := (hmem' b).1 hb
        exact hlt _ _ _ _ hfile hfile'
      · rw [List.mem_append, hmem, hmem', ← exists_or]
        rfl

/-! ### Directories -/

theorem entryFiles_eq (path : Path) (entries : List (Bytes × Node)) :
    entryFiles path entries = entries.map fun e => (e.1, filesBelow (path.join e.1) e.2) := by
  induction entries with
  | nil => rfl
  | cons e rest ih => rw [entryFiles, ih, List.map_cons]

/-- The entries of a directory in the order of their names. -/
def inOrder (entries : List (Bytes × Node)) : List (Bytes × Node) :=
  entries.mergeSort fun a b => a.1 ≤ b.1

/-- Sorted entries of different names ascend strictly. -/
theorem pairwise_inOrder {entries : List (Bytes × Node)} (h : (entries.map Prod.fst).Nodup) :
    (inOrder entries).Pairwise fun a b => a.1 < b.1 := by
  have hle : (inOrder entries).Pairwise fun a b => a.1 ≤ b.1 := by
    refine (List.pairwise_mergeSort (fun a b c hab hbc => ?_) (fun a b => ?_) entries).imp
      of_decide_eq_true
    · exact decide_eq_true (List.le_trans (of_decide_eq_true hab) (of_decide_eq_true hbc))
    · simpa using List.le_total a.1 b.1
  have hne : (inOrder entries).Pairwise fun a b => a.1 ≠ b.1 :=
    List.pairwise_map.1 (((List.mergeSort_perm entries _).map Prod.fst).nodup_iff.2 h)
  exact (hle.and hne).imp fun ⟨hle, hne⟩ => Std.lt_of_le_of_ne hle hne

/-- The listing of a directory goes over its entries in the order of their names, and breaks off
where one of them does. -/
theorem filesBelow_dir (path : Path) (entries : List (Bytes × Node)) :
    filesBelow path (.dir entries) =
      if maxPathSize < path.length then .error (path, .nameTooLong)
      else ((inOrder entries).mapM fun e => filesBelow (path.join e.1) e.2).map List.flatten := by
  have hsort : (entryFiles path entries).mergeSort byName =
      (inOrder entries).map fun e => (e.1, filesBelow (path.join e.1) e.2) := by
    rw [entryFiles_eq]
    let found (e : Bytes × Node) := (e.1, filesBelow (path.join e.1) e.2)
    exact (List.map_mergeSort (f := found) fun _ _ _ _ => rfl).symm
  rw [filesBelow, hsort, List.mapM_map]
  rfl

/-- Sorting the entries changes nothing about what they hold. -/
theorem contentsOf_inOrder (entries : List (Bytes × Node)) :
    contentsOf (inOrder entries) = contentsOf entries := by
  funext names n
  simp only [contentsOf, inOrder, List.mem_mergeSort]

/-- If each of some sorted entries is listed below its path, the listings one after the other list
the directory. -/
theorem lists_entries (path : Path) {entries : List (Bytes × Node)}
    (hsorted : entries.Pairwise fun a b => a.1 < b.1)
    (h : ∀ e ∈ entries, Lists (path.join e.1) e.2.contents (filesBelow (path.join e.1) e.2)) :
    Lists path (contentsOf entries)
      ((entries.mapM fun e => filesBelow (path.join e.1) e.2).map List.flatten) := by
  induction entries with
  | nil =>
    have hnone : contentsOf [] = fun _ _ => False := by
      funext names n
      simp [contentsOf]
    rw [hnone]
    exact .none path
  | cons e rest ih =>
    obtain ⟨hfront, hsorted⟩ := List.pairwise_cons.1 hsorted
    obtain ⟨hfirst, hrest⟩ := List.forall_mem_cons.1 h
    have hcontents : contentsOf (e :: rest) = (e.2.contents.under e.1).and (contentsOf rest) := by
      funext names n
      simp only [contentsOf, Contents.and, Contents.under, Node.contents, List.mem_cons,
        exists_eq_or_imp]
    have hresult : ((e :: rest).mapM fun e => filesBelow (path.join e.1) e.2).map List.flatten =
        (filesBelow (path.join e.1) e.2).bind fun files =>
          ((rest.mapM fun e => filesBelow (path.join e.1) e.2).map List.flatten).map
            (files ++ ·) := by
      rw [List.mapM_cons]
      cases filesBelow (path.join e.1) e.2 with
      | error broken => rfl
      | ok files =>
        cases rest.mapM fun e => filesBelow (path.join e.1) e.2 with
        | error broken => rfl
        | ok more => rfl
    rw [hcontents, hresult]
    refine hfirst.under.append (ih hsorted hrest) ?_
    rintro _ m _ n ⟨a, rfl, -⟩ ⟨e', he', b, rfl, -⟩
    exact List.cons_lt_cons_iff.2 (.inl (hfront e' he'))

/-- What is listed below a path is all that its contents hold, in order. -/
theorem lists_filesBelow {node : Node} (h : node.Proper) (path : Path) :
    Lists path node.contents (filesBelow path node) := by
  induction h generalizing path with
  | file data =>
    have hcontents {names : List Bytes} {n : Node} (h : (Node.file data).contents names n) :
        names = [] ∧ n = .file data := by
      cases names with
      | nil => exact ⟨rfl, (Option.some.inj h).symm⟩
      | cons name rest => cases h
    refine ⟨fun names entries hdir => ?_, [[]], rfl, List.pairwise_singleton .., fun names => ?_⟩
    · cases (hcontents hdir).2
    · rw [List.mem_singleton]
      constructor
      · rintro rfl
        exact ⟨data, rfl⟩
      · rintro ⟨data', hfile⟩
        exact (hcontents hfile).1
  | link target =>
    have hcontents {names : List Bytes} {n : Node} (h : (Node.link target).contents names n) :
        n = .link target := by
      cases names with
      | nil => exact (Option.some.inj h).symm
      | cons name rest => cases h
    refine ⟨fun names entries hdir => ?_, [], rfl, .nil, fun names => ?_⟩
    · cases hcontents hdir
    · refine ⟨fun h => absurd h List.not_mem_nil, ?_⟩
      rintro ⟨data, hfile⟩
      cases hcontents hfile
  | @dir entries names nodup below ih =>
    have hdir : (Node.dir entries).contents [] (.dir entries) := rfl
    rw [filesBelow_dir]
    split
    · next hlong =>
      exact ⟨[], ⟨⟨entries, hdir⟩, hlong, fun other _ _ _ => List.nil_le other⟩, rfl⟩
    next hshort =>
    -- the directory can be opened, so that only what is in it can break the listing off
    have hentries := lists_entries path (pairwise_inOrder nodup) fun e he =>
      ih e (List.mem_mergeSort.1 he) (path.join e.1)
    rw [contentsOf_inOrder] at hentries
    have hiff {names : List Bytes} {n : Node} : (Node.dir entries).contents names n ↔
        (names = [] ∧ n = .dir entries) ∨ contentsOf entries names n := contents_dir_iff nodup
    generalize ((inOrder entries).mapM fun e => filesBelow (path.join e.1) e.2).map List.flatten = r
      at hentries ⊢
    cases r with
    | ok files =>
      obtain ⟨hbelow, found, rfl, hsorted, hmem⟩ := hentries
      refine ⟨fun names es h => ?_, found, rfl, hsorted, fun names => ?_⟩
      · rcases hiff.1 h with ⟨rfl, -⟩ | h
        · exact Nat.not_lt.1 hshort
        · exact hbelow names es h
      · rw [hmem]
        simp [hiff]
    | error broken =>
      obtain ⟨names, ⟨⟨es, hdir⟩, hlong, hfirst⟩, rfl⟩ := hentries
      refine ⟨names, ⟨⟨es, hiff.2 (.inr hdir)⟩, hlong, fun other es' hother hlong' => ?_⟩, rfl⟩
      rcases hiff.1 hother with ⟨rfl, -⟩ | hother
      · exact absurd hlong' hshort
      · exact hfirst other es' hother hlong'

end FileTree

namespace Publishing

open FileTree (Node locate maxPathSize)

/-! ### Collections -/

/-- The regular files that a node holds, under the paths that their names make with a path. -/
structure Collected (root : Path) (node : Node) (files : List Path) : Prop where
  mem_iff : ∀ file, file ∈ files ↔
    ∃ names data, node.at? names = some (.file data) ∧ file = root.below names
  nodup : files.Nodup
  ascending : (files.map Path.components).Pairwise (· < ·)

/-- A strictly ascending list of just the ways that lead to files is a collection, once the root is
put in front of each. -/
theorem collected_of_found {root : Path} {node : Node} (hproper : node.Proper)
    {found : List (List Bytes)} (hsorted : found.Pairwise (· < ·))
    (hmem : ∀ names, names ∈ found ↔ ∃ data, node.at? names = some (.file data)) :
    Collected root node (found.map root.below) := by
  have hcomponents {names : List Bytes} (h : names ∈ found) :
      (root.below names).components = root.components ++ names := by
    obtain ⟨data, hat⟩ := (hmem names).1 h
    exact root.components_below (hproper.at? hat).1
  have hascending : ((found.map root.below).map Path.components).Pairwise (· < ·) := by
    rw [List.map_map, List.pairwise_map]
    refine hsorted.imp_of_mem fun ha hb hlt => ?_
    rw [Function.comp_apply, Function.comp_apply, hcomponents ha, hcomponents hb]
    exact List.append_left_lt hlt
  refine ⟨fun file => ?_, ?_, hascending⟩
  · rw [List.mem_map]
    constructor
    · rintro ⟨names, hin, rfl⟩
      obtain ⟨data, hat⟩ := (hmem names).1 hin
      exact ⟨names, data, hat, rfl⟩
    · rintro ⟨names, data, hat, rfl⟩
      exact ⟨names, (hmem names).2 ⟨data, hat⟩, rfl⟩
  · refine (List.pairwise_map.1 hascending).imp fun hlt heq => ?_
    rw [heq] at hlt
    exact List.lt_irrefl _ hlt

/-- **All files, in order.** Below a directory that is not itself a link, collecting gives every
regular file once, under the path that its names make with that of the directory, and in the order
of components, unless some directory has a path that is too long to be opened. Then the first such
directory in that order is the error. -/
theorem collect_in_order {tree : FileTree} (hproper : tree.root.Proper) {root : Path}
    {place : List Bytes} {entries : List (Bytes × Node)}
    (hroot : locate tree false root = .ok (place, .dir entries)) :
    ((∀ names es, (Node.dir entries).at? names = some (.dir es) →
        (root.below names).length ≤ maxPathSize) →
      ∃ files, collect tree root = .ok files ∧ Collected root (.dir entries) files) ∧
    ((∃ names es, (Node.dir entries).at? names = some (.dir es) ∧
        maxPathSize < (root.below names).length) →
      ∃ names, FileTree.FirstLong root (Node.dir entries).contents names ∧
        collect tree root = .error (.unlisted (root.below names) .nameTooLong)) := by
  have hdir : (Node.dir entries).Proper := (hproper.at? (FileTree.at?_of_locate hroot)).2
  have hlists := FileTree.lists_filesBelow hdir root
  have hfiles : tree.files root = FileTree.filesBelow root (.dir entries) := by
    rw [FileTree.files, hroot]
  rw [collect, hfiles]
  generalize FileTree.filesBelow root (.dir entries) = r at hlists ⊢
  cases r with
  | ok files =>
    obtain ⟨hshort, found, rfl, hsorted, hmem⟩ := hlists
    refine ⟨fun _ => ⟨_, rfl, collected_of_found hdir hsorted hmem⟩, ?_⟩
    rintro ⟨names, es, hat, hlong⟩
    exact absurd (hshort names es hat) (Nat.not_le.2 hlong)
  | error broken =>
    obtain ⟨names, hfirst, rfl⟩ := hlists
    refine ⟨fun hshort => ?_, fun _ => ⟨names, hfirst, rfl⟩⟩
    obtain ⟨es, hat⟩ := hfirst.dir
    exact absurd (hshort names es hat) (Nat.not_le.2 hfirst.long)

/-- A directory, a file whose name starts like that of the directory, and a link. -/
def mixedEntries : List (Bytes × Node) :=
  [([0x61, 0x2D, 0x62], .file []), ([0x6C], .link [0x61]), ([0x61], .dir [([0x78], .file [])])]

theorem proper_mixed : (Node.dir mixedEntries).Proper := by
  have hbelow : (Node.dir [([0x78], .file [])]).Proper :=
    .dir (by decide) (by decide) fun e he => List.mem_singleton.1 he ▸ .file []
  refine .dir (by decide) (by decide) fun e he => ?_
  simp only [mixedEntries, List.mem_cons, List.not_mem_nil, or_false] at he
  rcases he with rfl | rfl | rfl
  · exact .file _
  · exact .link _
  · exact hbelow

theorem directories_mixed {names : List Bytes} {es : List (Bytes × Node)}
    (h : (Node.dir mixedEntries).at? names = some (.dir es)) : names = [] ∨ names = [[0x61]] := by
  rcases (FileTree.contents_dir_iff (by decide)).1 h with ⟨rfl, -⟩ | ⟨e, he, rest, rfl, hrest⟩
  · exact .inl rfl
  simp only [mixedEntries, List.mem_cons, List.not_mem_nil, or_false] at he
  rcases he with rfl | rfl | rfl
  · cases rest <;> cases hrest
  · cases rest <;> cases hrest
  · rcases (FileTree.contents_dir_iff (by decide)).1 hrest with ⟨rfl, -⟩ | ⟨e, he, rest, rfl, hrest⟩
    · exact .inr rfl
    · obtain rfl := List.mem_singleton.1 he
      cases rest <;> cases hrest

/-- In the order of components `a/x` comes before `a-b`. What the link leads to is not there. -/
theorem collect_in_order_mixed :
    FileTree.locate ⟨.dir mixedEntries, []⟩ false (FileTree.here 0) = .ok ([], .dir mixedEntries) ∧
    ∃ files, collect ⟨.dir mixedEntries, []⟩ (FileTree.here 0) = .ok files ∧
      Collected (FileTree.here 0) (.dir mixedEntries) files := by
  have hroot := FileTree.locate_here (n := 0) (by decide) mixedEntries false
  refine ⟨hroot, (collect_in_order proper_mixed hroot).1 fun names es h => ?_⟩
  rcases directories_mixed h with rfl | rfl
  · decide
  · decide

def deepEntries : List (Bytes × Node) := [([0x61], .dir [([0x66], .file [])])]

/-- A directory may have a path that can be opened, while what it holds has none. -/
theorem deep_directory_unlisted :
    let long := FileTree.here 4094
    let tree : FileTree := ⟨.dir deepEntries, []⟩
    tree.root.Proper ∧ locate tree false long = .ok ([], tree.root) ∧
    tree.root.at? [[0x61], [0x66]] = some (.file []) ∧
    collect tree long = .error (.unlisted (long ++ [0x61]) .nameTooLong) ∧
    ¬∃ files, collect tree long = .ok files ∧ Collected long tree.root files := by
  intro long tree
  have hproper : tree.root.Proper := by
    have hbelow : (Node.dir [([0x66], .file [])]).Proper :=
      .dir (by decide) (by decide) fun e he => List.mem_singleton.1 he ▸ .file []
    exact .dir (by decide) (by decide) fun e he => List.mem_singleton.1 he ▸ hbelow
  have hroot : locate tree false long = .ok ([], tree.root) :=
    FileTree.locate_here (by decide) deepEntries false
  have hjoin : Path.join long [0x61] = long ++ [0x61] := FileTree.join_here (by decide) [0x61]
  have hlength : long.length = 4095 := FileTree.length_here 4094
  -- from here on only the length of the path matters
  clear_value long
  have hbroken : FileTree.filesBelow (long ++ [0x61]) (.dir [([0x66], .file [])]) =
      .error (long ++ [0x61], .nameTooLong) := by
    rw [FileTree.filesBelow_dir, if_pos]
    rw [List.length_append, hlength, maxPathSize]
    decide
  have hfiles : FileTree.filesBelow long (.dir deepEntries) =
      .error (long ++ [0x61], .nameTooLong) := by
    have horder : FileTree.inOrder deepEntries = deepEntries := List.mergeSort_singleton _
    rw [FileTree.filesBelow_dir, if_neg (by rw [hlength]; decide), horder, deepEntries,
      List.mapM_cons, hjoin, hbroken]
    rfl
  have hcollect : collect tree long = .error (.unlisted (long ++ [0x61]) .nameTooLong) := by
    have hlisting : tree.files long = FileTree.filesBelow long (.dir deepEntries) := by
      rw [FileTree.files, hroot]
    rw [collect, hlisting, hfiles]
  refine ⟨hproper, hroot, rfl, hcollect, ?_⟩
  rintro ⟨files, hok, -⟩
  rw [hcollect] at hok
  cases hok

end Publishing
end Courier
