import Courier.Text.Cut
import Courier.Text.Numeral

/-! Tables of characters.

A table is a sorted array of spans of code points, each with a value, and is searched by halving. It
has too many spans to be written as terms, so it is written as text: a word for each span, which is
its first and its last code point with a hyphen between them, or one code point if they are the
same. Spans with the same value are written together. -/
namespace Courier.Unicode

/-- Characters that follow each other and have one value. -/
structure Span (α : Type) where
  first : Nat
  last : Nat
  value : α

/-- Spans in order, to be searched by halving. -/
structure Table (α : Type) where
  spans : Array (Span α)

namespace Table

variable {α : Type}

/-! ### Searching -/

/-- The span that holds `n`, among those from `low` on and in front of `high`. -/
def search (spans : Array (Span α)) (n low high : Nat) (h : high ≤ spans.size) : Option (Span α) :=
  if _ : low < high then
    let middle := low + (high - low) / 2
    have : middle < spans.size := by omega
    if n < spans[middle].first then search spans n low middle (by omega)
    else if spans[middle].last < n then search spans n (middle + 1) high h
    else some spans[middle]
  else none
termination_by high - low

/-- The span that a character is in. -/
def span? (t : Table α) (c : Char) : Option (Span α) :=
  search t.spans c.toNat 0 t.spans.size (Nat.le_refl _)

def find? (t : Table α) (c : Char) : Option α := (t.span? c).map (·.value)

def contains (t : Table α) (c : Char) : Bool := (t.span? c).isSome

theorem search_bounds {spans : Array (Span α)} {n low high : Nat} {h : high ≤ spans.size}
    {s : Span α} (hs : search spans n low high h = some s) : s.first ≤ n ∧ n ≤ s.last := by
  fun_induction search spans n low high h with
  | case1 low high h hlt middle hm hfirst ih => exact ih hs
  | case2 low high h hlt middle hm hfirst hlast ih => exact ih hs
  | case3 low high h hlt middle hm hfirst hlast =>
    obtain rfl := Option.some.inj hs
    omega
  | case4 => simp at hs

/-- A search may miss a span, but never gives a wrong one. -/
theorem span?_bounds {t : Table α} {c : Char} {s : Span α} (h : t.span? c = some s) :
    s.first ≤ c.toNat ∧ c.toNat ≤ s.last :=
  search_bounds h

/-! ### Reading -/

/-- The value of digits to base 16. -/
def readHex (word : List Char) : Nat := word.foldl (fun n c => n * 16 + (Text.hexValue? c).getD 0) 0

/-- Reads the word for one span. -/
def readSpan (value : α) (word : List Char) : Span α :=
  match Text.cutFirst '-' word with
  | some (first, last) => ⟨readHex first, readHex last, value⟩
  | none => ⟨readHex word, readHex word, value⟩

/-- The words of a text, with spaces or line ends between them. -/
def words (text : List Char) : List (List Char) :=
  (Text.cutAll ' ' (text.map fun c => if c = '\n' then ' ' else c)).filter (· ≠ [])

/-- A table of spans that may come in any order. -/
def ofSpans (spans : List (Span α)) : Table α :=
  ⟨(spans.mergeSort fun a b => a.first ≤ b.first).toArray⟩

/-- The table of spans that are written behind their values. -/
def ofGroups (groups : List (α × String)) : Table α :=
  ofSpans (groups.flatMap fun (value, text) => (words text.toList).map (readSpan value))

end Table
end Courier.Unicode
