/-! Numbers as text.

`readDigits` reads one or more ASCII digits and nothing else. `readUpTo` refuses a value above a
limit, which it tells without all of the digits (`readUpTo_eq`). `readUnsigned` is the rule of all
numbers that the program reads: a plus sign may stand in front and the value has a limit
(`readUnsigned_eq_some_iff`). -/
namespace Courier.Text

def digitValue (c : Char) : Nat := c.toNat - '0'.toNat

/-- The value of a run of digits, after a number that ends in front of it. -/
def digitsOnto (n : Nat) (cs : List Char) : Nat := cs.foldl (fun n c => n * 10 + digitValue c) n

/-- The value of a text of digits. -/
def readDigits (cs : List Char) : Option Nat :=
  if cs.isEmpty || !cs.all Char.isDigit then none else some (digitsOnto 0 cs)

/-- The value of a run of digits after a number, unless it gets above a limit. -/
def digitsUpTo (limit n : Nat) : List Char → Option Nat
  | [] => if n ≤ limit then some n else none
  | c :: cs => if n ≤ limit then digitsUpTo limit (n * 10 + digitValue c) cs else none

/-- The value of a text of digits, unless it is above the limit. -/
def readUpTo (limit : Nat) (cs : List Char) : Option Nat :=
  if cs.isEmpty || !cs.all Char.isDigit then none else digitsUpTo limit 0 cs

theorem le_digitsOnto (n : Nat) (cs : List Char) : n ≤ digitsOnto n cs := by
  induction cs generalizing n with
  | nil => exact Nat.le_refl n
  | cons c cs ih => exact Nat.le_trans (by omega) (ih (n * 10 + digitValue c))

theorem digitsUpTo_eq (limit n : Nat) (cs : List Char) :
    digitsUpTo limit n cs = (some (digitsOnto n cs)).filter (· ≤ limit) := by
  induction cs generalizing n with
  | nil => by_cases h : n ≤ limit <;> simp [digitsUpTo, digitsOnto, h, Option.filter]
  | cons c cs ih =>
    by_cases h : n ≤ limit
    · simp only [digitsUpTo, h, if_true, ih]
      rfl
    · have hd : ¬digitsOnto n (c :: cs) ≤ limit := fun hle =>
        h (Nat.le_trans (le_digitsOnto n (c :: cs)) hle)
      simp [digitsUpTo, h, Option.filter, hd]

theorem readUpTo_eq (limit : Nat) (cs : List Char) :
    readUpTo limit cs = (readDigits cs).filter (· ≤ limit) := by
  unfold readUpTo readDigits
  split
  · rfl
  · exact digitsUpTo_eq limit 0 cs

/-- Leaves out one plus sign in front. -/
def dropPlus : List Char → List Char
  | '+' :: cs => cs
  | cs => cs

/-- Reads a number that is not above the limit. -/
def readUnsigned (limit : Nat) (cs : List Char) : Option Nat :=
  readUpTo limit (dropPlus cs)

/-! ### Numerals -/

/-- How a number may be written: digits, with a plus sign in front or without one. -/
def Numeral (cs : List Char) (n : Nat) : Prop :=
  ∃ digits, (cs = digits ∨ cs = '+' :: digits) ∧ digits ≠ [] ∧
    (∀ d ∈ digits, d.isDigit = true) ∧ n = Nat.ofDigitChars 10 digits 0

theorem digitsOnto_eq (n : Nat) (cs : List Char) :
    digitsOnto n cs = Nat.ofDigitChars 10 cs n := by
  induction cs generalizing n with
  | nil => rfl
  | cons c cs ih =>
    rw [Nat.ofDigitChars_cons, Nat.mul_comm]
    exact ih _

theorem readDigits_eq_some_iff {cs : List Char} {n : Nat} :
    readDigits cs = some n ↔
      cs ≠ [] ∧ (∀ c ∈ cs, c.isDigit = true) ∧ n = Nat.ofDigitChars 10 cs 0 := by
  unfold readDigits
  rw [digitsOnto_eq]
  cases cs with
  | nil => simp
  | cons c cs =>
    by_cases hall : (c :: cs).all Char.isDigit = true
    · simp only [hall, List.isEmpty_cons, Bool.not_true, Bool.or_false, Bool.false_eq_true,
        if_false, Option.some.injEq]
      exact ⟨fun h => ⟨List.cons_ne_nil _ _, List.all_eq_true.1 hall, h.symm⟩,
        fun h => h.2.2.symm⟩
    · simp only [hall, Bool.not_false, Bool.or_true, if_true]
      exact ⟨nofun, fun h => absurd (List.all_eq_true.2 h.2.1) hall⟩

theorem dropPlus_of_isDigit {cs : List Char} (h : ∀ c ∈ cs, c.isDigit = true) :
    dropPlus cs = cs := by
  unfold dropPlus
  split
  · next rest => exact absurd (h '+' List.mem_cons_self) (by decide)
  · rfl

theorem eq_dropPlus (cs : List Char) : cs = dropPlus cs ∨ cs = '+' :: dropPlus cs := by
  unfold dropPlus
  split
  · exact .inr rfl
  · exact .inl rfl

/-- What is read as a number are the numerals up to the limit. -/
theorem readUnsigned_eq_some_iff {limit : Nat} {cs : List Char} {n : Nat} :
    readUnsigned limit cs = some n ↔ Numeral cs n ∧ n ≤ limit := by
  rw [readUnsigned, readUpTo_eq, Option.filter_eq_some_iff, decide_eq_true_eq,
    readDigits_eq_some_iff]
  refine and_congr_left fun _ => ⟨fun h => ⟨_, eq_dropPlus cs, h⟩, ?_⟩
  intro hnumeral
  obtain ⟨digits, hcs, hne, hdigits, hn⟩ := hnumeral
  have hdrop : dropPlus cs = digits := by
    cases hcs with
    | inl hcs => rw [hcs, dropPlus_of_isDigit hdigits]
    | inr hcs => rw [hcs]; rfl
  rw [hdrop]
  exact ⟨hne, hdigits, hn⟩

/-! ### Digits as text -/

/-- The digit of a value below 16, in small letters. -/
def hexDigit (n : Nat) : Char :=
  if n < 10 then Char.ofNat ('0'.toNat + n) else Char.ofNat ('a'.toNat + (n - 10))

def hexDigitUpper (n : Nat) : Char :=
  if n < 10 then Char.ofNat ('0'.toNat + n) else Char.ofNat ('A'.toNat + (n - 10))

/-- The value of a digit to base 16, in letters of either kind. -/
def hexValue? (c : Char) : Option Nat :=
  if c.isDigit then some (digitValue c)
  else if 'a' ≤ c ∧ c ≤ 'f' then some (c.toNat - 'a'.toNat + 10)
  else if 'A' ≤ c ∧ c ≤ 'F' then some (c.toNat - 'A'.toNat + 10)
  else none

/-- A byte as two hexadecimal digits. -/
def hexByte (b : UInt8) : List Char := [hexDigit (b.toNat / 16), hexDigit (b.toNat % 16)]

/-- A number with zeros in front, at least `width` wide. -/
def padded (width n : Nat) : String :=
  let digits := Nat.toDigits 10 n
  String.ofList (List.replicate (width - digits.length) '0' ++ digits)

end Courier.Text
