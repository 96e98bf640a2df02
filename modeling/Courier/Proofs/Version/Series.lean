import Courier.Proofs.Version.NormalForm

/-! Directories and components of a series.

The directory of a package and its component are written by rules of their own, yet both name the
series of its version. `Series.directories` and `Series.components` list what a series is written
as. All these texts have the same digits and dots, those of the release line, and the texts of
another series have others (`figures_injective`). So each text tells its series, and no two release
lines share a directory (`directories_coherent`). -/
namespace Courier

theorem Repository.marksReleases_iff {r : Repository} :
    r.marksReleases = true ↔ r ∈ [Repository.centos, .fedora, .rhel] := by
  cases r <;> decide

/-! ### Texts of a series -/

namespace Series

/-- Major and minor number, with a dot between. -/
def line (major minor : Nat) : String := s!"{major}.{minor}"

/-- The directories of a series. Some repositories mark releases, to keep them from stable
builds. -/
def directories : Series → List String
  | .release major minor => [line major minor, line major minor ++ "-release"]
  | .testing => ["t"]

/-- What the component of a series may be. -/
def components : Series → List String
  | .release major minor => ["release-" ++ line major minor, "stable-" ++ line major minor]
  | .testing => ["unstable"]

/-- The digits and dots of all texts of a series. -/
def figures : Series → List Char
  | .release major minor => (line major minor).toList
  | .testing => []

def isFigure (c : Char) : Bool := c.isDigit || c = '.'

theorem isFigure_of_mem_line {major minor : Nat} {c : Char} (h : c ∈ (line major minor).toList) :
    isFigure c = true := by
  rw [line, Version.toList_numbers, List.mem_append, List.mem_cons] at h
  rcases h with h | rfl | h
  · rw [isFigure, Version.isDigit_of_mem_number h, Bool.true_or]
  · decide
  · rw [isFigure, Version.isDigit_of_mem_number h, Bool.true_or]

theorem filter_line (major minor : Nat) :
    (line major minor).toList.filter isFigure = (line major minor).toList :=
  List.filter_eq_self.2 fun _ => isFigure_of_mem_line

/-- The digits and dots of a directory are those of its series. -/
theorem figures_of_directory {s : Series} {text : String} (h : text ∈ s.directories) :
    text.toList.filter isFigure = s.figures := by
  cases s with
  | release major minor =>
    have hmark : "-release".toList.filter isFigure = [] := by decide
    simp only [directories, List.mem_cons, List.not_mem_nil, or_false] at h
    rcases h with rfl | rfl
    · exact filter_line major minor
    · rw [String.toList_append, List.filter_append, filter_line, hmark, List.append_nil]
      rfl
  | testing =>
    obtain rfl := List.mem_singleton.1 h
    decide

theorem figures_of_component {s : Series} {text : String} (h : text ∈ s.components) :
    text.toList.filter isFigure = s.figures := by
  cases s with
  | release major minor =>
    have hrelease : "release-".toList.filter isFigure = [] := by decide
    have hstable : "stable-".toList.filter isFigure = [] := by decide
    simp only [components, List.mem_cons, List.not_mem_nil, or_false] at h
    rcases h with rfl | rfl
    · rw [String.toList_append, List.filter_append, filter_line, hrelease, List.nil_append]
      rfl
    · rw [String.toList_append, List.filter_append, filter_line, hstable, List.nil_append]
      rfl
  | testing =>
    obtain rfl := List.mem_singleton.1 h
    decide

/-- The first dot ends the major number, so both numbers can be read off. -/
theorem line_injective {m n m' n' : Nat} (h : line m n = line m' n') : m = m' ∧ n = n' := by
  have hcut (m n : Nat) : Text.cutFirst '.' (line m n).toList =
      some ((toString m).toList, (toString n).toList) :=
    Text.cutFirst_eq_some_iff.2 ⟨Version.toList_numbers m n, Version.not_mem_number (by decide) m⟩
  have hparts := hcut m n
  rw [h, hcut m' n'] at hparts
  obtain ⟨hmajor, hminor⟩ := Prod.mk.inj (Option.some.inj hparts)
  exact ⟨(Version.number_injective hmajor).symm, (Version.number_injective hminor).symm⟩

/-- Series with the same digits and dots are the same. -/
theorem figures_injective {s t : Series} (h : s.figures = t.figures) : s = t := by
  have hne (m n : Nat) : (line m n).toList ≠ [] := by
    rw [line, Version.toList_numbers]
    exact List.append_ne_nil_of_right_ne_nil _ (List.cons_ne_nil _ _)
  cases s with
  | release m n =>
    cases t with
    | release m' n' =>
      obtain ⟨rfl, rfl⟩ := line_injective (String.toList_inj.1 h)
      rfl
    | testing => exact absurd h (hne m n)
  | testing =>
    cases t with
    | release m' n' => exact absurd h.symm (hne m' n')
    | testing => rfl

/-- No directory is one of two series. -/
theorem eq_of_directory {s t : Series} {text : String} (hs : text ∈ s.directories)
    (ht : text ∈ t.directories) : s = t :=
  figures_injective ((figures_of_directory hs).symm.trans (figures_of_directory ht))

theorem eq_of_component {s t : Series} {text : String} (hs : text ∈ s.components)
    (ht : text ∈ t.components) : s = t :=
  figures_injective ((figures_of_component hs).symm.trans (figures_of_component ht))

end Series

namespace Version

/-! ### Texts of a version -/

theorem series_cases (v : Version) :
    (v.series = .release v.major v.minor ∧ 4 ≤ v.major ∧ 2 ∣ v.minor) ∨
      (v.series = .testing ∧ ¬(4 ≤ v.major ∧ 2 ∣ v.minor)) := by
  rw [series, Nat.dvd_iff_mod_eq_zero]
  by_cases h : 4 ≤ v.major ∧ v.minor % 2 = 0
  · exact .inl ⟨if_pos h, h⟩
  · exact .inr ⟨if_neg h, h⟩

theorem directory_of_release {v : Version} {m n : Nat} (h : v.series = .release m n)
    (r : Repository) : v.directory r =
      Series.line m n ++ if r.marksReleases && !v.isStable then "-release" else "" := by
  simp only [directory, h]
  rfl

theorem component_of_release {v : Version} {m n : Nat} (h : v.series = .release m n) :
    v.component = (if v.isStable then "stable-" else "release-") ++ Series.line m n := by
  simp only [component, h]
  rfl

/-- The directory of a version is one of those of its series. -/
theorem directory_mem (v : Version) (r : Repository) : v.directory r ∈ v.series.directories := by
  cases h : v.series with
  | release m n =>
    rw [directory_of_release h]
    split
    · exact List.mem_cons_of_mem _ (List.mem_singleton_self _)
    · rw [String.append_empty]
      exact List.mem_cons_self
  | testing =>
    simp only [directory, h]
    exact List.mem_singleton_self _

theorem component_mem (v : Version) : v.component ∈ v.series.components := by
  cases h : v.series with
  | release m n =>
    rw [component_of_release h]
    split
    · exact List.mem_cons_of_mem _ (List.mem_singleton_self _)
    · exact List.mem_cons_self
  | testing =>
    simp only [component, h]
    exact List.mem_singleton_self _

theorem directory_eq_iff_testing {v : Version} {r : Repository} :
    v.directory r = "t" ↔ v.series = .testing := by
  constructor
  · intro h
    have hmem := v.directory_mem r
    rw [h] at hmem
    exact Series.eq_of_directory hmem (List.mem_singleton_self _)
  · intro h
    simp only [directory, h]

theorem component_eq_iff_testing {v : Version} : v.component = "unstable" ↔ v.series = .testing := by
  constructor
  · intro h
    have hmem := v.component_mem
    rw [h] at hmem
    exact Series.eq_of_component hmem (List.mem_singleton_self _)
  · intro h
    simp only [component, h]

/-! ### Marks -/

/-- A mark has a hyphen, and numbers have none. -/
theorem marked_iff {v : Version} {r : Repository} (hr : r.marksReleases = true) :
    "-release".toList <:+ (v.directory r).toList ↔ v.series ≠ .testing ∧ v.isStable = false := by
  cases h : v.series with
  | release m n =>
    rw [directory_of_release h, hr, String.toList_append]
    cases hstable : v.isStable with
    | true =>
      have hfree : '-' ∉ (Series.line m n).toList := fun hin =>
        absurd (Series.isFigure_of_mem_line hin) (by decide)
      have hnot : ¬"-release".toList <:+ (Series.line m n).toList := fun hsuffix =>
        hfree (hsuffix.subset (by decide))
      simpa using hnot
    | false => simp
  | testing =>
    have hnot : ¬"-release".toList <:+ "t".toList := by decide
    rw [directory_eq_iff_testing.2 h]
    exact iff_of_false hnot fun htesting => htesting.1 rfl

theorem released_iff {v : Version} :
    "release-".toList <+: v.component.toList ↔ v.series ≠ .testing ∧ v.isStable = false := by
  cases h : v.series with
  | release m n =>
    rw [component_of_release h, String.toList_append]
    cases hstable : v.isStable with
    | true => simp
    | false => simp
  | testing =>
    have hnot : ¬"release-".toList <+: "unstable".toList := by decide
    rw [component_eq_iff_testing.2 h]
    exact iff_of_false hnot fun htesting => htesting.1 rfl

/-- **Directories and components name the same series.** A directory is that of testing just when
the component is, which is so up to major version 3 and for odd minor versions. For every other
version both name its release line, and where releases are marked, the one has the mark just when
the other has. And a directory tells its series: of two versions in the release series that share
one, both numbers are equal, and where releases are marked, both are stable or none is. -/
theorem directories_coherent (v w : Version) (r : Repository) :
    (v.directory r = "t" ↔ v.component = "unstable") ∧
    (v.component = "unstable" ↔ ¬(4 ≤ v.major ∧ 2 ∣ v.minor)) ∧
    (v.component ≠ "unstable" →
      v.directory r ∈ [s!"{v.major}.{v.minor}", s!"{v.major}.{v.minor}" ++ "-release"] ∧
      v.component ∈ ["release-" ++ s!"{v.major}.{v.minor}", "stable-" ++ s!"{v.major}.{v.minor}"]) ∧
    (r ∈ [.centos, .fedora, .rhel] →
      ("-release".toList <:+ (v.directory r).toList ↔ "release-".toList <+: v.component.toList)) ∧
    (v.directory r = w.directory r → v.series = w.series) ∧
    (v.series ≠ .testing → w.series ≠ .testing → v.directory r = w.directory r →
      v.major = w.major ∧ v.minor = w.minor ∧
        (r ∈ [.centos, .fedora, .rhel] → v.isStable = w.isStable)) := by
  have hseries (h : v.directory r = w.directory r) : v.series = w.series :=
    Series.eq_of_directory (v.directory_mem r) (h ▸ w.directory_mem r)
  have hline (u : Version) (h : u.series ≠ .testing) : u.series = .release u.major u.minor :=
    u.series_cases.elim And.left fun hnot => absurd hnot.1 h
  refine ⟨directory_eq_iff_testing.trans component_eq_iff_testing.symm, ?_, ?_, ?_, hseries, ?_⟩
  · rw [component_eq_iff_testing]
    rcases v.series_cases with ⟨h, hrule⟩ | ⟨h, hrule⟩
    · exact iff_of_false (by simp [h]) (not_not_intro hrule)
    · exact iff_of_true h hrule
  · intro h
    have hv := hline v fun htesting => h (component_eq_iff_testing.2 htesting)
    have hdirectory := v.directory_mem r
    have hcomponent := v.component_mem
    rw [hv] at hdirectory hcomponent
    exact ⟨hdirectory, hcomponent⟩
  · intro hr
    exact (marked_iff (Repository.marksReleases_iff.2 hr)).trans released_iff.symm
  · intro hv hw h
    have hsame := hseries h
    rw [hline v hv, hline w hw] at hsame
    obtain ⟨hmajor, hminor⟩ := Series.release.inj hsame
    refine ⟨hmajor, hminor, fun hr => ?_⟩
    have hmarks := Repository.marksReleases_iff.2 hr
    have hmarked := marked_iff (v := v) hmarks
    rw [h, marked_iff hmarks, and_iff_right hw, and_iff_right hv] at hmarked
    cases hstable : v.isStable with
    | false => exact (hmarked.2 hstable).symm
    | true =>
      have hother : w.isStable ≠ false := fun hfalse => by
        rw [hmarked.1 hfalse] at hstable
        cases hstable
      exact (eq_true_of_ne_false hother).symm

/-- Two stable builds of one release line share a directory; a build whose mark is in front is a
release. -/
theorem directories_coherent_stable :
    let v : Version := ⟨4, 20, "1", some "3~ga"⟩
    let w : Version := ⟨4, 20, "", some "rc~1"⟩
    let u : Version := ⟨4, 20, "", some "~1"⟩
    parse? "4.20.1-3~ga" = some v ∧ parse? "4.20-rc~1" = some w ∧ parse? "4.20-~1" = some u ∧
      v.component ≠ "unstable" ∧ v.directory .centos = w.directory .centos ∧
      (v.major = w.major ∧ v.minor = w.minor ∧ v.isStable = w.isStable) ∧
      ("-release".toList <:+ (u.directory .rhel).toList ↔
        "release-".toList <+: u.component.toList) ∧
      u.component = "release-4.20" := by
  intro v w u
  have hshared : v.directory .centos = w.directory .centos := by decide
  obtain ⟨-, -, -, -, -, hsame⟩ := directories_coherent v w .centos
  obtain ⟨hmajor, hminor, hstable⟩ := hsame (by decide) (by decide) hshared
  obtain ⟨-, -, -, hmark, -, -⟩ := directories_coherent u w .rhel
  exact ⟨by decide, by decide, by decide, by decide, hshared,
    ⟨hmajor, hminor, hstable (by decide)⟩, hmark (by decide), by decide⟩

end Version
end Courier
