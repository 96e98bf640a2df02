import Courier.Artifact.Classify

/-! Base names.

The name of a file is what stands behind the last slash of its path, whatever directory that is
(`fileName_append`). A base name is a path itself, and stands for itself (`fileName_basename`).
Classification sees nothing else of a path (`classify_congr`). -/
namespace Courier

/-- For what is given, the answer can be computed. Errors need not be compared then. -/
theorem eq_ok_of_toOption {ε α : Type} {x : Except ε α} {a : α} (h : x.toOption = some a) :
    x = .ok a := by
  cases x with
  | error e => cases h
  | ok b => exact congrArg _ (Option.some.inj h)

namespace Text

theorem trim_of_ends {c d : Char} (hc : isBlank c = false) (hd : isBlank d = false)
    (cs : List Char) : trim (c :: cs ++ [d]) = c :: cs ++ [d] := by
  have hstart : trimStart (c :: cs ++ [d]) = c :: cs ++ [d] := by
    rw [trimStart, List.cons_append,
      List.dropWhile_cons_of_neg (by rw [hc]; exact Bool.false_ne_true)]
  have hend : ((c :: cs ++ [d]).reverse.dropWhile isBlank) = (c :: cs ++ [d]).reverse := by
    rw [List.reverse_append, List.reverse_singleton, List.singleton_append,
      List.dropWhile_cons_of_neg (by rw [hd]; exact Bool.false_ne_true)]
  rw [trim, hstart, trimEnd, hend, List.reverse_reverse]

/-- A character that is not blank keeps what stands behind it from being trimmed in front, and what
stands before it at the end. -/
theorem trim_append_cons {c : Char} (h : isBlank c = false) (xs ys : List Char) :
    trim (xs ++ c :: ys) = trimStart xs ++ c :: trimEnd ys := by
  have hstop : (c :: ys).dropWhile isBlank = c :: ys :=
    List.dropWhile_cons_of_neg (by rw [h]; exact Bool.false_ne_true)
  have hstart : trimStart (xs ++ c :: ys) = trimStart xs ++ c :: ys := by
    rw [trimStart, List.dropWhile_append, hstop]
    split
    · next hnil => rw [trimStart, List.isEmpty_iff.1 hnil, List.nil_append]
    · rfl
  rw [trim, hstart, trimEnd_append_cons h]

theorem trimEnd_of_trim {cs : List Char} (h : trim cs = cs) : trimEnd cs = cs := by
  rw [← h, trim, trimEnd_trimEnd]

end Text

namespace Artifact

/-! ### The last component -/

theorem mem_cutAll_of_lastName {path last : List Char} (h : lastName path = some last) :
    last ∈ Text.cutAll '/' path := by
  unfold lastName at h
  split at h
  · cases h
  next part rest hparts =>
  split at h
  · cases h
  · cases h
    exact List.mem_reverse.1 ((List.dropWhile_sublist _).subset (hparts ▸ List.mem_cons_self))

theorem not_mem_of_lastName {path last : List Char} (h : lastName path = some last) :
    '/' ∉ last := Text.not_mem_of_mem_cutAll (mem_cutAll_of_lastName h)

theorem lastName_of_not_mem {name : List Char} (h : '/' ∉ name) :
    (lastName name).getD name = name := by
  rw [lastName, Text.cutAll_of_not_mem h, List.reverse_singleton]
  split
  · rfl
  next last rest hlast =>
  have hmem : last ∈ [name] := (List.dropWhile_sublist _).subset (hlast ▸ List.mem_cons_self ..)
  obtain rfl := List.mem_singleton.1 hmem
  split
  · rfl
  · rfl

/-- A base name stands for itself, but for the blanks around it. -/
theorem fileName_basename (path : String) :
    fileName (String.ofList (fileName path)) = Text.trim (fileName path) := by
  cases hlast : lastName (Text.trim path.toList) with
  | none =>
    have hname : fileName path = Text.trim path.toList := by
      simp only [fileName, hlast, Option.getD]
    rw [hname, fileName, String.toList_ofList, Text.trim_trim, hlast]
    rfl
  | some last =>
    have hname : fileName path = last := by simp only [fileName, hlast, Option.getD]
    rw [hname, fileName, String.toList_ofList]
    exact lastName_of_not_mem fun hin => not_mem_of_lastName hlast (Text.mem_of_mem_trim hin)

/-- Behind the last slash stands the name of the file, unless that is empty or one of the two that
name directories. -/
theorem fileName_of_slash {dir name : List Char} (hslash : '/' ∉ name) (hname : name ≠ [])
    (hdot : name ≠ ['.']) (hdots : name ≠ ['.', '.'])
    (htrim : Text.trim (dir ++ '/' :: name) = dir ++ '/' :: name) :
    fileName (String.ofList (dir ++ '/' :: name)) = name := by
  have hparts : (Text.cutAll '/' (dir ++ '/' :: name)).reverse =
      name :: (Text.cutAll '/' dir).reverse := by
    rw [Text.cutAll_append, Text.cutAll_of_not_mem hslash, List.reverse_append,
      List.reverse_singleton, List.singleton_append]
  have hlast : lastName (dir ++ '/' :: name) = some name := by
    rw [lastName, hparts, List.dropWhile_cons_of_neg (by simp [hname, hdot])]
    exact if_neg hdots
  rw [fileName, String.toList_ofList, htrim, hlast]
  rfl

theorem fileName_trim (path : List Char) :
    fileName (String.ofList (Text.trim path)) = fileName (String.ofList path) := by
  simp only [fileName, String.toList_ofList, Text.trim_trim]

/-- A directory in front does not change the name of a file. -/
theorem fileName_append {dir name : List Char} (hdir : dir = [] ∨ dir.getLast? = some '/')
    (hslash : '/' ∉ name) (hname : name ≠ []) (hdot : name ≠ ['.']) (hdots : name ≠ ['.', '.'])
    (htrim : Text.trim name = name) : fileName (String.ofList (dir ++ name)) = name := by
  rcases hdir with rfl | hdir
  · rw [List.nil_append, fileName, String.toList_ofList, htrim]
    exact lastName_of_not_mem hslash
  · obtain ⟨front, rfl⟩ := List.getLast?_eq_some_iff.1 hdir
    have hpath : Text.trim (front ++ '/' :: name) = Text.trimStart front ++ '/' :: name := by
      rw [Text.trim_append_cons (by decide), Text.trimEnd_of_trim htrim]
    rw [List.append_assoc, List.singleton_append, ← fileName_trim, hpath]
    exact fileName_of_slash hslash hname hdot hdots (by rw [← hpath, Text.trim_trim])

/-- The name of a file holds nothing that its path does not hold. -/
theorem fileName_subset (path : String) : fileName path ⊆ path.toList := by
  intro c hc
  refine Text.mem_of_mem_trim ?_
  cases hlast : lastName (Text.trim path.toList) with
  | none => simpa only [fileName, hlast, Option.getD] using hc
  | some last =>
    have hc : c ∈ last := by simpa only [fileName, hlast, Option.getD] using hc
    have hin : c ∈ '/' :: Text.trim path.toList := by
      rw [← Text.flatMap_cutAll]
      exact List.mem_flatMap.2 ⟨last, mem_cutAll_of_lastName hlast, List.mem_cons_of_mem _ hc⟩
    rcases List.mem_cons.1 hin with rfl | hin
    · exact absurd hc (not_mem_of_lastName hlast)
    · exact hin

/-- Two paths to files of one name are classified alike. -/
theorem classify_congr {a b : String} (h : fileName a = fileName b) (hint : Option Repository) :
    classify a hint = classify b hint := by
  rw [classify, classify, h]

/-! ### Extensions -/

/-- The extension starts at the last dot, unless the name starts there. -/
theorem splitExtension_of_cut {c : Char} {stem extension : List Char} (h : '.' ∉ extension) :
    splitExtension (c :: stem ++ '.' :: extension) = (c :: stem, '.' :: extension) := by
  rw [splitExtension, Text.cutLast_eq_some_iff.2 ⟨rfl, h⟩]

end Artifact
end Courier
