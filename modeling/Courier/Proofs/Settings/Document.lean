import Courier.Settings.Document

/-! Reading a document of settings.

A document is read pair by pair, and a field is set once at most (`setFields_cons`). So what was read
of a field is its own entry, and a field without one is as it was before (`read_setFields`). Pairs
with other keys are as good as none; those of a user and a password are among them
(`ofText?_congr`). -/
namespace Courier.Settings

open Yaml (Node)

/-! ### Fields -/

/-- The key of a field in a document. -/
def Field.key : Field → String
  | .apiUrl => "api_url"
  | .org => "org"
  | .repository => "repo"
  | .component => "component"
  | .package => "package"
  | .description => "description"
  | .keep => "retention_keep"

theorem ofKey?_eq_some_iff {key : String} {field : Field} :
    Field.ofKey? key = some field ↔ key = field.key := by
  constructor
  · intro h
    unfold Field.ofKey? at h
    split at h <;> cases h <;> rfl
  · rintro rfl
    cases field <;> rfl

/-- What a field holds. -/
def Field.Value : Field → Type
  | .apiUrl | .package | .description => String
  | .org | .repository | .component => Option String
  | .keep => Nat

/-- What settings hold of a field. -/
def Field.get (s : Settings) : (field : Field) → field.Value
  | .apiUrl => s.apiUrl
  | .org => s.org
  | .repository => s.repository
  | .component => s.component
  | .package => s.package
  | .description => s.description
  | .keep => s.keep

/-- What a node says of a field. -/
def Field.read? (node : Node) : (field : Field) → Option field.Value
  | .apiUrl | .package | .description => text? node
  | .org | .repository | .component => optional? node
  | .keep => keep? node

/-- Setting a field reads its node, and leaves the other fields alone. -/
theorem setField_eq_some {s s' : Settings} {field : Field} {node : Node}
    (h : setField s field node = some s') :
    field.read? node = some (field.get s') ∧ ∀ other ≠ field, other.get s' = other.get s := by
  cases field <;> obtain ⟨value, hvalue, rfl⟩ := Option.map_eq_some_iff.1 h <;>
    refine ⟨hvalue, fun other hne => ?_⟩ <;> cases other <;> first | rfl | exact absurd rfl hne

/-! ### Entries -/

/-- The entry of a field. -/
def entryOf? (pairs : List (Node × Node)) (field : Field) : Option Node :=
  (pairs.find? fun pair => text? pair.1 = some field.key).map Prod.snd

/-- The entries of a document with settings; one that is empty has none. -/
def entries? (text : String) : Option (List (Node × Node)) :=
  match Yaml.documents? text with
  | some [] => some []
  | some [.mapping pairs] => some pairs
  | some [.scalar s] => if s.text = "" && s.style = .plain then some [] else none
  | _ => none

theorem ofText?_eq (text : String) : ofText? text = (entries? text).bind (setFields {} []) := by
  unfold ofText? entries?
  cases Yaml.documents? text with
  | none => rfl
  | some nodes =>
    rcases nodes with _ | ⟨node, _ | ⟨other, rest⟩⟩
    · rfl
    · cases node with
      | scalar s =>
        simp only [ofNode?]
        split
        · rfl
        · rfl
      | _ => rfl
    · cases node <;> rfl

theorem entryOf?_cons (pair : Node × Node) (rest : List (Node × Node)) (field : Field) :
    entryOf? (pair :: rest) field =
      if text? pair.1 = some field.key then some pair.2 else entryOf? rest field := by
  rw [entryOf?, List.find?_cons]
  split
  · next h => rw [if_pos (of_decide_eq_true h)]; rfl
  · next h => rw [if_neg (of_decide_eq_false h)]; rfl

theorem key_injective {f g : Field} (h : f.key = g.key) : f = g := by
  have hf := ofKey?_eq_some_iff.2 h
  rw [ofKey?_eq_some_iff.2 rfl] at hf
  exact Option.some.inj hf

/-- What reading a pair comes to: it has the key of no field, or it sets one for the first time. -/
theorem setFields_cons {s s' : Settings} {seen : List Field} {key value : Node}
    {rest : List (Node × Node)} (h : setFields s seen ((key, value) :: rest) = some s') :
    ((∀ field : Field, text? key ≠ some field.key) ∧ setFields s seen rest = some s') ∨
    ∃ field set, text? key = some field.key ∧ (∀ other ≠ field, text? key ≠ some other.key) ∧
      field ∉ seen ∧ setField s field value = some set ∧
      setFields set (field :: seen) rest = some s' := by
  simp only [setFields] at h
  split at h
  · cases h
  next name hname =>
  split at h
  · next hunknown =>
    refine .inl ⟨fun field hkey => ?_, h⟩
    rw [hname, Option.some.injEq, ← ofKey?_eq_some_iff, hunknown] at hkey
    cases hkey
  next field hfield =>
  split at h
  · cases h
  next hfresh =>
  split at h
  · cases h
  next set hset =>
  have hkey : text? key = some field.key := by rw [hname, ofKey?_eq_some_iff.1 hfield]
  refine .inr ⟨field, set, hkey, fun other hne hother => ?_, hfresh, hset, h⟩
  exact hne (key_injective (Option.some.inj (hother.symm.trans hkey)))

/-- A field that is set is not set again. -/
theorem entryOf?_of_seen {s s' : Settings} {seen : List Field} {pairs : List (Node × Node)}
    (h : setFields s seen pairs = some s') {field : Field} (hseen : field ∈ seen) :
    entryOf? pairs field = none := by
  induction pairs generalizing s seen with
  | nil => rfl
  | cons pair rest ih =>
    rw [entryOf?_cons]
    rcases setFields_cons h with ⟨hkey, hrest⟩ | ⟨g, set, -, hkey, hfresh, -, hrest⟩
    · rw [if_neg (hkey field), ih hrest hseen]
    · have hne : field ≠ g := fun heq => hfresh (heq ▸ hseen)
      rw [if_neg (hkey field hne), ih hrest (List.mem_cons_of_mem _ hseen)]

/-- What was read of a field is its entry, or what was there before if it has none. -/
theorem read_setFields {s s' : Settings} {seen : List Field} {pairs : List (Node × Node)}
    (h : setFields s seen pairs = some s') (field : Field) :
    (entryOf? pairs field).elim (some (field.get s)) (field.read? ·) = some (field.get s') := by
  induction pairs generalizing s seen with
  | nil =>
    rw [Option.some.inj h]
    rfl
  | cons pair rest ih =>
    rw [entryOf?_cons]
    rcases setFields_cons h with ⟨hkey, hrest⟩ | ⟨g, set, hset, hkey, -, hfield, hrest⟩
    · rw [if_neg (hkey field), ih hrest]
    · obtain ⟨hread, hothers⟩ := setField_eq_some hfield
      have hlater := ih hrest
      by_cases heq : field = g
      · -- the field is set now, so that the rest has no entry for it
        subst heq
        rw [entryOf?_of_seen hrest List.mem_cons_self] at hlater
        rw [if_pos hset, Option.elim_some, hread]
        exact hlater
      · rw [hothers field heq] at hlater
        rw [if_neg (hkey field heq), hlater]

/-! ### Entries that do not count -/

/-- Whether a pair has the key of a user or a password. -/
def namesCredential (pair : Node × Node) : Bool :=
  text? pair.1 = some "user" || text? pair.1 = some "pass"

/-- The keys of a user and a password are read over. -/
theorem setFields_filter (s : Settings) (seen : List Field) (pairs : List (Node × Node)) :
    setFields s seen (pairs.filter fun pair => !namesCredential pair) =
      setFields s seen pairs := by
  induction pairs generalizing s seen with
  | nil => rfl
  | cons pair rest ih =>
    by_cases hpair : namesCredential pair = true
    · have hskip : setFields s seen (pair :: rest) = setFields s seen rest := by
        rcases (by simpa [namesCredential] using hpair :
          text? pair.1 = some "user" ∨ text? pair.1 = some "pass") with hkey | hkey
        · simp only [setFields, hkey]
          rfl
        · simp only [setFields, hkey]
          rfl
      rw [List.filter_cons_of_neg (by simpa using hpair), hskip]
      exact ih s seen
    · rw [List.filter_cons_of_pos (by simpa using hpair)]
      simp only [setFields, ih]

/-- Documents that differ only under those keys are read alike. -/
theorem ofText?_congr {text text' : String} {pairs pairs' : List (Node × Node)}
    (h : entries? text = some pairs) (h' : entries? text' = some pairs')
    (hothers : pairs.filter (fun pair => !namesCredential pair) =
      pairs'.filter fun pair => !namesCredential pair) : ofText? text = ofText? text' := by
  rw [ofText?_eq, ofText?_eq, h, h', Option.bind_some, Option.bind_some,
    ← setFields_filter {} [] pairs, hothers, setFields_filter]

end Courier.Settings
