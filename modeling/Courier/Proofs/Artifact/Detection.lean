import Courier.Proofs.Artifact.BaseName
import Courier.Proofs.Artifact.Names
import Mathlib.Data.List.Find
import Mathlib.Data.List.Infix

/-! What markers say of a package.

Detection looks for markers in a whole stem, not only in the part that names the distribution. A
marker holds a separator in front and none of those that stand between the parts, so it lies in one
part (`infix_append_cons_iff`), and each part can be asked for it alone. An RPM package goes by its
dist tag unless a marker is in its name, its version or its architecture. A Debian package goes by
its distribution unless its version or its architecture holds the marker of Ubuntu, which is looked
for first (`repository_of_markers`). -/
namespace Courier

/-! ### Occurrences and separators -/

namespace Text

variable {α : Type}

/-- A list that is cut at two places, which are the same, or one is in front of the other. -/
theorem append_cons_eq_append_cons_iff {xs ys xs' ys' : List α} {x x' : α} :
    xs ++ x :: ys = xs' ++ x' :: ys' ↔
      (xs = xs' ∧ x = x' ∧ ys = ys') ∨
      (∃ more, xs' = xs ++ x :: more ∧ ys = more ++ x' :: ys') ∨
      ∃ more, xs = xs' ++ x' :: more ∧ ys' = more ++ x :: ys := by
  constructor
  · intro h
    rcases List.append_eq_append_iff.1 h with ⟨more, hfront, hrest⟩ | ⟨more, hfront, hrest⟩
    · cases more with
      | nil =>
        obtain ⟨rfl, rfl⟩ := List.cons.inj hrest
        exact .inl ⟨by simpa using hfront.symm, rfl, rfl⟩
      | cons y more =>
        obtain ⟨rfl, hys⟩ := List.cons.inj hrest
        exact .inr (.inl ⟨more, hfront, hys⟩)
    · cases more with
      | nil =>
        obtain ⟨rfl, rfl⟩ := List.cons.inj hrest
        exact .inl ⟨by simpa using hfront, rfl, rfl⟩
      | cons y more =>
        obtain ⟨rfl, hys⟩ := List.cons.inj hrest
        exact .inr (.inr ⟨more, hfront, hys⟩)
  · rintro (⟨rfl, rfl, rfl⟩ | ⟨more, rfl, rfl⟩ | ⟨more, rfl, rfl⟩)
    · rfl
    · simp
    · simp

/-- A word with a separator nowhere but at its start lies in front of the next separator or starts
at it or later. -/
theorem infix_append_cons_iff {needle : List α} (xs : List α) {ys : List α} {sep : α}
    (h : sep ∉ needle.tail) :
    needle <:+: xs ++ sep :: ys ↔ needle <:+: xs ∨ needle <:+: sep :: ys := by
  rw [List.infix_append_iff]
  constructor
  · rintro (hx | hy | ⟨front, back, rfl, hfront, hback⟩)
    · exact .inl hx
    · exact .inr hy
    · cases front with
      | nil => exact .inr hback.isInfix
      | cons c front =>
        rcases List.prefix_cons_iff.1 hback with rfl | ⟨back, rfl, -⟩
        · exact .inl (by simpa using hfront.isInfix)
        · exact absurd (by simp) h
  · rintro (hx | hy)
    · exact .inl hx
    · exact .inr (.inl hy)

theorem cons_infix_cons_of_ne {needle xs : List α} {c sep : α} (h : c ≠ sep) :
    c :: needle <:+: sep :: xs ↔ c :: needle <:+: xs := by
  rw [List.infix_cons_iff, List.cons_prefix_cons]
  exact or_iff_right fun hfront => h hfront.1

theorem cons_infix_cons_self {needle xs : List α} {sep : α} :
    sep :: needle <:+: sep :: xs ↔ needle <+: xs ∨ sep :: needle <:+: xs := by
  rw [List.infix_cons_iff, List.cons_prefix_cons]
  exact or_congr_left (and_iff_right rfl)

theorem prefix_append_cons_iff {needle xs ys : List α} {sep : α} (h : sep ∉ needle) :
    needle <+: xs ++ sep :: ys ↔ needle <+: xs := by
  constructor
  · intro hfront
    rcases Nat.le_total needle.length xs.length with hle | hlt
    · exact List.prefix_of_prefix_length_le hfront (List.prefix_append _ _) hle
    · obtain ⟨more, rfl⟩ :=
        List.prefix_of_prefix_length_le (List.prefix_append xs (sep :: ys)) hfront hlt
      rcases List.prefix_cons_iff.1 ((List.prefix_append_right_inj xs).1 hfront) with
        rfl | ⟨more, rfl, -⟩
      · exact ⟨[], by simp⟩
      · exact absurd (by simp) h
  · exact fun hfront => hfront.trans (List.prefix_append _ _)

end Text

namespace Artifact

/-! ### Markers that are asked for -/

/-- The repository of the first marker that a test holds of. -/
def firstMarker (markers : List (String × Repository)) (test : List Char → Prop)
    [DecidablePred test] : Option Repository :=
  (markers.find? fun m => test m.1.toList).map (·.2)

theorem firstMarker_congr {markers : List (String × Repository)} {p q : List Char → Prop}
    [DecidablePred p] [DecidablePred q] (h : ∀ m ∈ markers, p m.1.toList ↔ q m.1.toList) :
    firstMarker markers p = firstMarker markers q := by
  unfold firstMarker
  rw [List.find?_congr fun m hm => decide_eq_decide.2 (h m hm)]

theorem findMarker_cons (marker : String) (r : Repository) (rest : List (String × Repository))
    (stem : List Char) : findMarker ((marker, r) :: rest) stem =
      if Text.occursInside marker.toList stem then some r else findMarker rest stem := by
  unfold findMarker
  rw [List.find?_cons]
  dsimp only
  cases Text.occursInside marker.toList stem with
  | true => rfl
  | false => rfl

/-- What the repositories of all markers have in common. -/
theorem of_findMarker {markers : List (String × Repository)} {stem : List Char} {r : Repository}
    {p : Repository → Bool} {b : Bool} (hall : ∀ m ∈ markers, p m.2 = b)
    (h : findMarker markers stem = some r) : p r = b := by
  obtain ⟨m, hm, rfl⟩ := Option.map_eq_some_iff.1 h
  exact hall m (List.mem_of_find?_eq_some hm)

/-- Detection takes the first marker that is in the stem and not at its start. -/
theorem findMarker_eq (markers : List (String × Repository)) (stem : List Char) :
    findMarker markers stem = firstMarker markers fun marker =>
      marker <:+: stem ∧ ¬marker <+: stem := by
  unfold findMarker firstMarker
  congr 2
  funext m
  rw [Bool.eq_iff_iff, decide_eq_true_eq]
  exact Text.occursInside_iff

/-- A Debian repository is detected only by one of the Debian markers, in a name with that
extension. -/
theorem detect_debian {stem extension : List Char} {r : Repository}
    (h : detect stem extension = some r) (hr : r.isDebianFamily = true) :
    extension = ".deb".toList ∧ findMarker debianMarkers stem = some r := by
  unfold detect markers? at h
  by_cases hdeb : extension = ".deb".toList
  · rw [if_pos hdeb] at h
    exact ⟨hdeb, h⟩
  rw [if_neg hdeb] at h
  split at h
  · cases h
    cases hr
  next markers hmarkers =>
  split at hmarkers
  · cases hmarkers
    have hrpm : ∀ m ∈ rpmMarkers, m.2.isDebianFamily = false := by decide
    rw [of_findMarker hrpm h] at hr
    cases hr
  · cases hmarkers

/-- The same for the RPM repositories and theirs. -/
theorem detect_rpm {stem extension : List Char} {r : Repository}
    (h : detect stem extension = some r) (hr : r.isRpmFamily = true) :
    extension = ".rpm".toList ∧ findMarker rpmMarkers stem = some r := by
  unfold detect markers? at h
  by_cases hdeb : extension = ".deb".toList
  · rw [if_pos hdeb] at h
    have hdebian : ∀ m ∈ debianMarkers, m.2.isRpmFamily = false := by decide
    rw [of_findMarker hdebian h] at hr
    cases hr
  rw [if_neg hdeb] at h
  by_cases hrpm : extension = ".rpm".toList
  · rw [if_pos hrpm] at h
    exact ⟨hrpm, h⟩
  · rw [if_neg hrpm] at h
    cases h
    cases hr

/-! ### Debian packages -/

/-- A version starts like a number, and so with no other character. -/
theorem not_prefix_version {text : String} {v : Version} (h : Version.parse? text = some v)
    {c : Char} (hc : Version.startsNumber c = false) (cs : List Char) :
    ¬c :: cs <+: text.toList := by
  obtain ⟨d, rest, htext, hd⟩ := Version.parse?_start h
  intro hfront
  rw [htext, List.cons_prefix_cons] at hfront
  rw [hfront.1, hd] at hc
  cases hc

/-- A word behind an underscore, in the stem of a Debian package. -/
theorem IsDebian.infix_iff {stem : List Char} {d : Distribution} {a : Artifact}
    (h : IsDebian stem d a) {c : Char} {word : List Char} (hc : Version.startsNumber c = false)
    (hunderscore : '_' ∉ c :: word) (hdot : '.' ∉ c :: word) :
    '_' :: c :: word <:+: stem ↔ c :: word <+: d.name.toList ∨
      '_' :: c :: word <:+: a.version.toList ∨ '_' :: c :: word <:+: a.arch.toList := by
  let marker := '_' :: c :: word
  have hname : ¬marker <:+: a.name.toList := fun hin =>
    h.name_free (hin.subset (List.mem_cons_self ..))
  have hdist : ¬marker <:+: d.name.toList := fun hin =>
    underscore_free_of_known h.known (hin.subset (List.mem_cons_self ..))
  have hversion : marker <:+: '_' :: a.version.toList ↔ marker <:+: a.version.toList :=
    Text.cons_infix_cons_self.trans (or_iff_right (not_prefix_version h.number hc word))
  have hdistribution : marker <:+: '_' :: d.name.toList ↔ c :: word <+: d.name.toList :=
    Text.cons_infix_cons_self.trans (or_iff_left hdist)
  have harch : marker <:+: '.' :: a.arch.toList ↔ marker <:+: a.arch.toList :=
    Text.cons_infix_cons_of_ne (by decide)
  have htail : marker <:+: '_' :: (d.name.toList ++ '.' :: a.arch.toList) ↔
      marker <:+: '_' :: d.name.toList ∨ marker <:+: '.' :: a.arch.toList :=
    Text.infix_append_cons_iff ('_' :: d.name.toList) hdot
  have hrest : marker <:+: '_' :: (a.version.toList ++ '_' :: (d.name.toList ++
      '.' :: a.arch.toList)) ↔ marker <:+: '_' :: a.version.toList ∨
        marker <:+: '_' :: (d.name.toList ++ '.' :: a.arch.toList) :=
    Text.infix_append_cons_iff ('_' :: a.version.toList) hunderscore
  rw [h.stem_eq, Text.infix_append_cons_iff _ hunderscore, or_iff_right hname, hrest, hversion, htail,
    hdistribution, harch]
  exact or_left_comm

/-- Known distributions are those of Ubuntu and those of Debian. -/
theorem not_ubuntu_iff {d : Distribution} (h : d ∈ Distribution.known) :
    ¬ "ubuntu".toList <+: d.name.toList ↔ "debian".toList <+: d.name.toList := by
  revert d
  decide

/-- A marker never starts a Debian stem: the name in front of its underscore would be empty, and its
letters would start the version. -/
theorem IsDebian.not_in_front {stem : List Char} {d : Distribution} {a : Artifact}
    (h : IsDebian stem d a) {c : Char} {word : List Char} (hc : Version.startsNumber c = false)
    (hunderscore : '_' ∉ c :: word) : ¬ '_' :: c :: word <+: stem := by
  rw [h.stem_eq]
  intro hfront
  cases hname : a.name.toList with
  | nil =>
    rw [hname, List.nil_append, List.cons_prefix_cons, Text.prefix_append_cons_iff hunderscore]
      at hfront
    exact not_prefix_version h.number hc word hfront.2
  | cons first rest =>
    rw [hname, List.cons_append, List.cons_prefix_cons] at hfront
    exact h.name_free (hname ▸ hfront.1 ▸ List.mem_cons_self ..)

/-- Which of the two Debian repositories a detected package goes to, by its distribution, its
version and its architecture. -/
theorem IsDebian.repository_iff {stem extension : List Char} {d : Distribution} {a : Artifact}
    (h : IsDebian stem d a) (hdetect : detect stem extension = some a.repository)
    (hfamily : a.repository.isDebianFamily = true) :
    (a.repository = .ubuntu ↔ "ubuntu".toList <+: d.name.toList ∨
      "_ubuntu".toList <:+: a.version.toList ∨ "_ubuntu".toList <:+: a.arch.toList) ∧
    (a.repository = .debian ↔ "debian".toList <+: d.name.toList ∧
      ¬ "_ubuntu".toList <:+: a.version.toList ∧ ¬ "_ubuntu".toList <:+: a.arch.toList) := by
  have hmarker := (detect_debian hdetect hfamily).2
  have hinside : Text.occursInside "_ubuntu".toList stem = true ↔ "ubuntu".toList <+: d.name.toList ∨
      "_ubuntu".toList <:+: a.version.toList ∨ "_ubuntu".toList <:+: a.arch.toList := by
    rw [Text.occursInside_iff]
    exact (and_iff_left (h.not_in_front (by decide) (by decide))).trans
      (h.infix_iff (by decide) (by decide) (by decide))
  rw [← not_ubuntu_iff h.known]
  rw [debianMarkers, findMarker_cons, findMarker_cons] at hmarker
  by_cases hubuntu : Text.occursInside "_ubuntu".toList stem = true
  · rw [if_pos hubuntu] at hmarker
    have hrepository : a.repository = .ubuntu := (Option.some.inj hmarker).symm
    rw [hinside] at hubuntu
    rw [hrepository]
    refine ⟨iff_of_true rfl hubuntu, iff_of_false (by decide) ?_⟩
    rintro ⟨hdist, hversion, harch⟩
    exact hubuntu.elim hdist fun h => h.elim hversion harch
  · rw [if_neg hubuntu] at hmarker
    have hrepository : a.repository = .debian := by
      split at hmarker
      · exact (Option.some.inj hmarker).symm
      · cases hmarker
    rw [hinside] at hubuntu
    rw [hrepository]
    obtain ⟨hdist, helsewhere⟩ := not_or.1 hubuntu
    exact ⟨iff_of_false (by decide) hubuntu, iff_of_true rfl ⟨hdist, not_or.1 helsewhere⟩⟩

/-! ### RPM packages -/

/-- A word behind a dot, in the stem of an RPM package. There is no dot in a release. -/
theorem IsRpm.infix_iff {stem : List Char} {release dist : String} {a : Artifact}
    (h : IsRpm stem release dist a) {word : List Char} (hhyphen : '-' ∉ word) (hdot : '.' ∉ word) :
    '.' :: word <:+: stem ↔ '.' :: word <:+: a.name.toList ∨ '.' :: word <:+: a.version.toList ∨
      '.' :: word <:+: '.' :: dist.toList ∨ '.' :: word <:+: '.' :: a.arch.toList := by
  have htail : '.' :: word <:+: '.' :: (dist.toList ++ '.' :: a.arch.toList) ↔
      '.' :: word <:+: '.' :: dist.toList ∨ '.' :: word <:+: '.' :: a.arch.toList :=
    Text.infix_append_cons_iff ('.' :: dist.toList) hdot
  rw [h.stem_eq, Text.infix_append_cons_iff _ hhyphen, Text.cons_infix_cons_of_ne (by decide),
    Text.infix_append_cons_iff _ hdot, htail]

theorem IsRpm.prefix_iff {stem : List Char} {release dist : String} {a : Artifact}
    (h : IsRpm stem release dist a) {marker : List Char} (hhyphen : '-' ∉ marker) :
    marker <+: stem ↔ marker <+: a.name.toList := by
  rw [h.stem_eq, Text.prefix_append_cons_iff hhyphen]

/-- Where a marker counts that an artifact carries: anywhere but in front of the name. -/
def CarriesMarker (a : Artifact) (dist : String) (marker : List Char) : Prop :=
  ¬marker <+: a.name.toList ∧ (marker <:+: a.name.toList ∨ marker <:+: a.version.toList ∨
    marker <:+: '.' :: dist.toList ∨ marker <:+: '.' :: a.arch.toList)

instance (a : Artifact) (dist : String) : DecidablePred (CarriesMarker a dist) :=
  fun marker => inferInstanceAs (Decidable (¬marker <+: a.name.toList ∧ _))

/-- A detected RPM package goes to the repository of the first marker that it carries. -/
theorem IsRpm.repository_eq {stem extension : List Char} {release dist : String} {a : Artifact}
    (h : IsRpm stem release dist a) (hdetect : detect stem extension = some a.repository)
    (hfamily : a.repository.isRpmFamily = true) :
    some a.repository = firstMarker rpmMarkers (CarriesMarker a dist) := by
  have hmarkers : ∀ m ∈ rpmMarkers, m.1.toList = '.' :: m.1.toList.tail ∧
      '-' ∉ m.1.toList.tail ∧ '.' ∉ m.1.toList.tail := by decide
  rw [← (detect_rpm hdetect hfamily).2, findMarker_eq]
  refine firstMarker_congr fun m hm => ?_
  obtain ⟨hmarker, hhyphen, hdot⟩ := hmarkers m hm
  have hfree : '-' ∉ '.' :: m.1.toList.tail := by
    rw [List.mem_cons, not_or]
    exact ⟨by decide, hhyphen⟩
  rw [hmarker, h.infix_iff hhyphen hdot, h.prefix_iff hfree, CarriesMarker]
  exact And.comm

/-! ### Detected repositories -/

/-- **What markers can do to a package.** A Debian package is for Ubuntu just when its distribution
is one of Ubuntu or the marker of Ubuntu is in its version or its architecture. An RPM package is
for the first repository with a marker that it carries; where name, version and architecture hold
no marker that is the one of its dist tag. -/
theorem repository_of_markers {path : String} {a : Artifact}
    (h : classify path none = .ok (.package a)) :
    (∀ d, a.family = .debian d →
      (a.repository = .ubuntu ↔ "ubuntu".toList <+: d.name.toList ∨
        "_ubuntu".toList <:+: a.version.toList ∨ "_ubuntu".toList <:+: a.arch.toList) ∧
      (a.repository = .debian ↔ "debian".toList <+: d.name.toList ∧
        ¬ "_ubuntu".toList <:+: a.version.toList ∧ ¬ "_ubuntu".toList <:+: a.arch.toList)) ∧
    ∀ release dist, a.family = .rpm release dist →
      some a.repository = firstMarker rpmMarkers (CarriesMarker a dist) ∧
      ((∀ m ∈ rpmMarkers, ¬m.1.toList <:+: a.name.toList ∧ ¬m.1.toList <:+: a.version.toList ∧
          ¬m.1.toList <:+: '.' :: a.arch.toList) →
        some a.repository = firstMarker rpmMarkers (· <:+: '.' :: dist.toList)) := by
  obtain ⟨-, hdetect, ⟨hfamily, d, hdebian⟩ | ⟨hfamily, release, dist, hrpm⟩⟩ :=
    classify_eq_package_iff.1 h
  · refine ⟨fun d' hd' => ?_, fun release dist hrpm => ?_⟩
    · obtain rfl : d = d' := by
        rw [hdebian.family] at hd'
        cases hd'
        rfl
      exact hdebian.repository_iff hdetect hfamily
    · rw [hdebian.family] at hrpm
      cases hrpm
  · refine ⟨fun d hd => ?_, fun release' dist' hfamily' => ?_⟩
    · rw [hrpm.family] at hd
      cases hd
    · rw [hrpm.family] at hfamily'
      cases hfamily'
      have hcarries := hrpm.repository_eq hdetect hfamily
      refine ⟨hcarries, fun hfree => hcarries.trans (firstMarker_congr fun m hm => ?_)⟩
      obtain ⟨hname, hversion, harch⟩ := hfree m hm
      rw [CarriesMarker, or_iff_right hname, or_iff_right hversion, or_iff_left harch]
      exact and_iff_right fun hfront => hname hfront.isInfix

/-- The marker of Debian in the version of a package for Ubuntu, which does not matter. -/
theorem repository_of_markers_debian_build :
    let path := "demo_1.0-1_debian_ubuntu18.04.amd64.deb"
    ∃ a d, classify path none = .ok (.package a) ∧ a.family = .debian d ∧
      "_debian".toList <:+: a.version.toList ∧ (a.repository = .ubuntu ↔
        "ubuntu".toList <+: d.name.toList ∨ "_ubuntu".toList <:+: a.version.toList ∨
          "_ubuntu".toList <:+: a.arch.toList) := by
  intro path
  let a : Artifact :=
    { basename := path, repository := .ubuntu, name := "demo", version := "1.0-1_debian",
      arch := "amd64", number := ⟨1, 0, "", some "1_debian"⟩,
      family := .debian ⟨"ubuntu18.04", "bionic"⟩ }
  have h : classify path none = .ok (.package a) := eq_ok_of_toOption (by decide +kernel)
  exact ⟨a, _, h, rfl, by decide +kernel, ((repository_of_markers h).1 _ rfl).1⟩

/-- A package for Debian that goes to Ubuntu for the sake of its version, and one for Fedora that
goes to CentOS for the sake of its name. -/
theorem markers_elsewhere_count :
    (∃ a d, classify "demo_1.0-1_ubuntu_debian10.amd64.deb" none = .ok (.package a) ∧
      a.family = .debian d ∧ "debian".toList <+: d.name.toList ∧ a.repository = .ubuntu) ∧
    ∃ a release dist, classify "lib.centos-1.0-1.fc30.x86_64.rpm" none = .ok (.package a) ∧
      a.family = .rpm release dist ∧
      firstMarker rpmMarkers (· <:+: '.' :: dist.toList) = some .fedora ∧
      a.repository = .centos := by
  constructor
  · let a : Artifact :=
      { basename := "demo_1.0-1_ubuntu_debian10.amd64.deb", repository := .ubuntu, name := "demo",
        version := "1.0-1_ubuntu", arch := "amd64", number := ⟨1, 0, "", some "1_ubuntu"⟩,
        family := .debian ⟨"debian10", "buster"⟩ }
    exact ⟨a, _, eq_ok_of_toOption (by decide +kernel), rfl, by decide +kernel, rfl⟩
  · let a : Artifact :=
      { basename := "lib.centos-1.0-1.fc30.x86_64.rpm", repository := .centos, name := "lib.centos",
        version := "1.0-1", arch := "x86_64", number := ⟨1, 0, "", some "1"⟩,
        family := .rpm "1" "fc30" }
    exact ⟨a, _, _, eq_ok_of_toOption (by decide +kernel), rfl, by decide +kernel, rfl⟩

end Artifact
end Courier
