import Courier.FileTree.Walk
import Courier.Proofs.Artifact.BaseName

/-! A directory by a longer path.

Slashes at the end of a path lead nowhere, so one directory has paths of every length, and what is
found below it is the same under each of them: listed (`files_here`), read (`read_here`) and with
the same name (`fileName_here`). A file is read by its whole path, though, which may be too long
then (`read_of_long`). -/
namespace Courier

/-! ### Text -/

namespace Text

theorem cutAll_replicate {α : Type} [DecidableEq α] (sep : α) (n : Nat) :
    cutAll sep (List.replicate n sep) = List.replicate (n + 1) [] := by
  induction n with
  | zero => rfl
  | succ n ih =>
    rw [List.replicate_succ, cutAll, if_pos rfl, ih]
    rfl

end Text

/-! ### The working directory -/

namespace FileTree

/-- A path to the working directory, with a number of slashes at its end. -/
def here (n : Nat) : Path := 0x2E :: List.replicate n Path.slash

theorem length_here (n : Nat) : (here n).length = n + 1 := by
  rw [here, List.length_cons, List.length_replicate]

theorem zero_not_mem_here (n : Nat) : 0 ∉ here n := by
  intro h
  rcases List.mem_cons.1 h with h | h
  · exact absurd h (by decide)
  · exact absurd (List.eq_of_mem_replicate h) (by decide)

theorem parts_here (n : Nat) : (here n).parts = dot :: List.replicate n [] := by
  unfold Path.parts here
  rw [Text.cutAll, if_neg (by decide), Text.cutAll_replicate]
  rfl

/-- Empty parts of a path stay in the directory that has been reached. -/
theorem follow_replicate_nil {root : Node} {place : List Bytes} {entries : List (Bytes × Node)}
    (h : root.at? place.reverse = some (.dir entries)) (last : Bool) (links n : Nat)
    (rest : List Bytes) :
    follow root last links place (List.replicate n [] ++ rest) =
      follow root last links place rest := by
  induction n with
  | zero => rfl
  | succ n ih =>
    rw [List.replicate_succ, List.cons_append, follow, h]
    simp only [true_or, if_true]
    exact ih

theorem follow_here (entries : List (Bytes × Node)) (last : Bool) (n : Nat) (rest : List Bytes) :
    follow (.dir entries) last maxLinks [] (dot :: (List.replicate n [] ++ rest)) =
      follow (.dir entries) last maxLinks [] rest := by
  rw [follow]
  simp only [List.reverse_nil, Node.at?, or_true, if_true]
  exact follow_replicate_nil rfl last maxLinks n rest

/-- Each of these paths is one to the root, as long as it may be opened. -/
theorem locate_here {n : Nat} (hn : n < maxPathSize) (entries : List (Bytes × Node)) (last : Bool) :
    locate ⟨.dir entries, []⟩ last (here n) = .ok ([], .dir entries) := by
  have hlength : ¬maxPathSize < (here n).length := by
    rw [length_here]
    omega
  have hne : here n ≠ [] := List.cons_ne_nil _ _
  have hstart : start [] (here n) = [] := rfl
  unfold locate
  rw [if_neg (zero_not_mem_here n), if_neg hne, if_neg hlength, List.reverse_nil, hstart,
    parts_here, ← List.append_nil (List.replicate n []), follow_here, follow]
  rfl

theorem join_here {n : Nat} (hn : 0 < n) (name : Bytes) : (here n).join name = here n ++ name := by
  have hlast : (here n).getLast? = some Path.slash := by
    unfold here
    rw [List.getLast?_cons, List.getLast?_replicate, if_neg (by omega)]
    rfl
  rw [Path.join, if_pos (.inr hlast)]

/-- The one file of a directory is listed by any of these paths, behind that path. -/
theorem files_here {n : Nat} (hn : n < maxPathSize) (hslash : 0 < n) (name data : Bytes) :
    files ⟨.dir [(name, .file data)], []⟩ (here n) = .ok [here n ++ name] := by
  have hlength : ¬maxPathSize < (here n).length := by
    rw [length_here]
    omega
  have hbelow : filesBelow (here n) (.dir [(name, .file data)]) = .ok [here n ++ name] := by
    rw [filesBelow, if_neg hlength, entryFiles, entryFiles, filesBelow, List.mergeSort_singleton,
      join_here hslash]
    rfl
  rw [files, locate_here hn]
  exact hbelow

/-- However many slashes there are, the name of a file is what stands behind them. -/
theorem fileName_here {n : Nat} (hn : 0 < n) {front : List Char} {c : Char}
    (hascii : (front ++ [c]).all (·.toNat < 0x80) = true) (hslash : '/' ∉ front ++ [c])
    (hdots : front ++ [c] ≠ ['.', '.']) (hdot : front ++ [c] ≠ ['.'])
    (hblank : Text.isBlank c = false) :
    Artifact.fileName
      (Path.text (here n ++ (front ++ [c]).map fun d => UInt8.ofNat d.toNat)) = front ++ [c] := by
  obtain ⟨n, rfl⟩ : ∃ m, n = m + 1 := ⟨n - 1, by omega⟩
  let dir : List Char := '.' :: List.replicate n '/'
  have hbytes : here (n + 1) ++ (front ++ [c]).map (fun d => UInt8.ofNat d.toNat) =
      (dir ++ '/' :: (front ++ [c])).map fun d => UInt8.ofNat d.toNat := by
    have hdir : here (n + 1) = dir.map (fun d => UInt8.ofNat d.toNat) ++ [Path.slash] := by
      rw [here, List.replicate_succ', List.map_cons, List.map_replicate]
      rfl
    rw [hdir, @List.map_append _ _ _ dir, List.map_cons, List.append_assoc]
    rfl
  have hall : ∀ d ∈ dir ++ '/' :: (front ++ [c]), d.toNat < 0x80 := by
    intro d hd
    rcases List.mem_append.1 hd with hd | hd
    · rcases List.mem_cons.1 hd with rfl | hd
      · decide
      · rw [List.eq_of_mem_replicate hd]
        decide
    · rcases List.mem_cons.1 hd with rfl | hd
      · decide
      · exact of_decide_eq_true (List.all_eq_true.1 hascii d hd)
  have htrim : Text.trim (dir ++ '/' :: (front ++ [c])) = dir ++ '/' :: (front ++ [c]) := by
    have hends := Text.trim_of_ends (show Text.isBlank '.' = false by decide) hblank
      (List.replicate n '/' ++ '/' :: front)
    simpa [dir] using hends
  rw [Path.text, hbytes, Text.lossy_ascii hall]
  exact Artifact.fileName_of_slash hslash (by simp) hdot hdots htrim

/-- Classification makes the same of the file, however long the path to its directory. -/
theorem classify_here {n : Nat} (hn : 0 < n) {front : List Char} {c : Char}
    (hascii : (front ++ [c]).all (·.toNat < 0x80) = true) (hslash : '/' ∉ front ++ [c])
    (hdots : front ++ [c] ≠ ['.', '.']) (hdot : front ++ [c] ≠ ['.'])
    (hblank : Text.isBlank c = false)
    (hname : Artifact.fileName (String.ofList (front ++ [c])) = front ++ [c])
    {answer : Classification}
    (hclass : (Artifact.classify (String.ofList (front ++ [c])) none).toOption = some answer) :
    Artifact.classify (Path.text (here n ++ (front ++ [c]).map fun d => UInt8.ofNat d.toNat)) none =
      .ok answer := by
  have hfile := (fileName_here hn hascii hslash hdots hdot hblank).trans hname.symm
  rw [Artifact.classify_congr hfile]
  exact eq_ok_of_toOption hclass

/-- Names that an entry of a directory can be reached by. -/
structure IsName (name : Bytes) : Prop where
  slash_free : Path.slash ∉ name
  zero_free : 0 ∉ name
  ne_nil : name ≠ []
  ne_dot : name ≠ dot
  ne_dots : name ≠ dotDot
  short : name.length ≤ maxNameSize

theorem isName_iff {name : Bytes} : IsName name ↔ Path.slash ∉ name ∧ 0 ∉ name ∧ name ≠ [] ∧
    name ≠ dot ∧ name ≠ dotDot ∧ name.length ≤ maxNameSize :=
  ⟨fun ⟨h₁, h₂, h₃, h₄, h₅, h₆⟩ => ⟨h₁, h₂, h₃, h₄, h₅, h₆⟩,
    fun ⟨h₁, h₂, h₃, h₄, h₅, h₆⟩ => ⟨h₁, h₂, h₃, h₄, h₅, h₆⟩⟩

instance (name : Bytes) : Decidable (IsName name) := decidable_of_iff _ isName_iff.symm

theorem parts_here_append {n : Nat} {name : Bytes} (h : IsName name) :
    (here (n + 1) ++ name).parts = dot :: (List.replicate n [] ++ [name]) := by
  have hpath : here (n + 1) ++ name = here n ++ Path.slash :: name := by
    rw [here, List.replicate_succ', here]
    simp
  rw [hpath, Path.parts, Text.cutAll_append, Text.cutAll_of_not_mem h.slash_free]
  exact congrArg (· ++ [name]) (parts_here n)

/-- The file is read by a path that is short enough as a whole. -/
theorem read_here {n : Nat} (hn : 0 < n) {name : Bytes} (h : IsName name)
    (hlength : n + name.length < maxPathSize) (data : Bytes) :
    read ⟨.dir [(name, .file data)], []⟩ (here n ++ name) = .ok data := by
  obtain ⟨n, rfl⟩ : ∃ m, n = m + 1 := ⟨n - 1, by omega⟩
  have hzero : 0 ∉ here (n + 1) ++ name := by
    rw [List.mem_append, not_or]
    exact ⟨zero_not_mem_here _, h.zero_free⟩
  have hlength : ¬maxPathSize < (here (n + 1) ++ name).length := by
    rw [List.length_append, length_here]
    omega
  have hchild : (Node.dir [(name, .file data)]).child? name = some (.file data) := by
    simp [Node.child?]
  have hstart : start [] (here (n + 1) ++ name) = [] := rfl
  have hfollow : follow (.dir [(name, .file data)]) true maxLinks [] [name] =
      .ok ([name], .file data) := by
    rw [follow]
    simp only [List.reverse_nil, Node.at?, hchild, h.ne_nil, h.ne_dot, h.ne_dots, or_self, if_false,
      Nat.not_lt.2 h.short]
    rw [follow]
    simp [Node.at?, hchild]
  have hne : here (n + 1) ++ name ≠ [] := List.cons_ne_nil _ _
  unfold read locate
  rw [if_neg hzero, if_neg hne, if_neg hlength, List.reverse_nil, hstart, parts_here_append h,
    follow_here, hfollow]

theorem read_of_long {path : Path} (tree : FileTree) (h : 0 ∉ path)
    (hlong : maxPathSize < path.length) : read tree path = .error .nameTooLong := by
  have hne : path ≠ [] := by
    rintro rfl
    exact absurd hlong (by decide)
  rw [read, locate, if_neg h, if_neg hne, if_pos hlong]

end FileTree
end Courier
