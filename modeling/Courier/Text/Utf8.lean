/-! Text as UTF-8 bytes.

`utf8` writes text as bytes and `decode?` reads it back, refusing everything that `utf8` does not
write (`decode?_eq_some_iff`). `lossy` reads any bytes: each longest start of a character that goes
no further becomes one replacement character, U+FFFD. -/
namespace Courier

/-- Bytes as they are sent, stored and hashed, which need not be text. -/
abbrev Bytes := List UInt8

end Courier

namespace Courier.Text

/-- The bytes of a text. -/
def utf8 (s : String) : Bytes := s.toByteArray.data.toList

/-- The text of bytes that are one. -/
def decode? (bs : Bytes) : Option String := String.fromUTF8? ⟨bs.toArray⟩

theorem decode?_utf8 (s : String) : decode? (utf8 s) = some s := by
  simp [decode?, utf8, String.fromUTF8?, s.isValidUTF8, String.fromUTF8]

theorem decode?_eq_some_iff {bs : Bytes} {s : String} : decode? bs = some s ↔ bs = utf8 s := by
  constructor
  · intro h
    simp only [decode?, String.fromUTF8?] at h
    split at h
    · simp only [Option.some.injEq] at h
      subst h
      rfl
    · simp at h
  · rintro rfl
    exact decode?_utf8 s

theorem utf8_injective {s t : String} (h : utf8 s = utf8 t) : s = t := by
  have := decode?_utf8 s
  rw [h, decode?_utf8] at this
  exact (Option.some.inj this).symm

theorem utf8_append (s t : String) : utf8 (s ++ t) = utf8 s ++ utf8 t := by
  rw [utf8, String.toByteArray_append]
  simp [utf8]

theorem utf8_ofList_cons (c : Char) (cs : List Char) :
    utf8 (String.ofList (c :: cs)) = utf8 (String.singleton c) ++ utf8 (String.ofList cs) := by
  rw [← utf8_append, String.singleton_eq_ofList, ← String.ofList_append]
  rfl

theorem utf8_singleton (c : Char) : utf8 (String.singleton c) = String.utf8EncodeChar c := by
  rw [utf8, String.toByteArray_singleton, List.utf8Encode_singleton, List.data_toByteArray]

/-! ### NUL -/

theorem zero_mem_utf8_singleton_iff (c : Char) : 0 ∈ utf8 (String.singleton c) ↔ c = '\x00' := by
  rw [utf8_singleton]
  constructor
  · intro h
    have hzero : c.val.toNat = 0 := by
      simp only [String.utf8EncodeChar] at h
      repeat' split at h
      all_goals
        simp only [List.mem_cons, List.not_mem_nil, or_false, ← UInt8.toNat_inj, UInt8.toNat_zero,
          UInt8.toNat_ofNat'] at h
        omega
    exact Char.ext (UInt32.toNat_inj.1 hzero)
  · intro h
    rw [h]
    decide

/-- A byte of zero is a character by itself, and no part of another one. -/
theorem zero_mem_utf8_iff {s : String} : 0 ∈ utf8 s ↔ '\x00' ∈ s.toList := by
  suffices h : ∀ cs, 0 ∈ utf8 (String.ofList cs) ↔ '\x00' ∈ cs by
    rw [← h, String.ofList_toList]
  intro cs
  induction cs with
  | nil => exact iff_of_false (by decide) List.not_mem_nil
  | cons c cs ih =>
    rw [utf8_ofList_cons, List.mem_append, List.mem_cons, zero_mem_utf8_singleton_iff, ih, eq_comm]

/-! ### Reading damaged text -/

/-- What the first byte of a longer character announces: the bits it carries, the number of bytes
that follow, and the range that the first of them is in. -/
structure Lead where
  bits : Nat
  more : Nat
  low : UInt8
  high : UInt8

/-- What the first byte of a longer character says of the bytes behind it. The bounds keep out
characters written too long, halves of pairs, and what is behind the last character. -/
def lead? (b : UInt8) : Option Lead :=
  let n := b.toNat
  if 0xC2 ≤ n ∧ n ≤ 0xDF then some ⟨n - 0xC0, 1, 0x80, 0xBF⟩
  else if n = 0xE0 then some ⟨0, 2, 0xA0, 0xBF⟩
  else if n = 0xED then some ⟨0xD, 2, 0x80, 0x9F⟩
  else if 0xE1 ≤ n ∧ n ≤ 0xEF then some ⟨n - 0xE0, 2, 0x80, 0xBF⟩
  else if n = 0xF0 then some ⟨0, 3, 0x90, 0xBF⟩
  else if 0xF1 ≤ n ∧ n ≤ 0xF3 then some ⟨n - 0xF0, 3, 0x80, 0xBF⟩
  else if n = 0xF4 then some ⟨4, 3, 0x80, 0x8F⟩
  else none

/-- The character that the following bytes complete, and what is left after all that fit. -/
def follow (bits : Nat) : Nat → UInt8 → UInt8 → Bytes → Option Char × Bytes
  | 0, _, _, rest => (some (Char.ofNat bits), rest)
  | _ + 1, _, _, [] => (none, [])
  | more + 1, low, high, b :: rest =>
    if low ≤ b ∧ b ≤ high then follow (bits * 64 + b.toNat % 64) more 0x80 0xBF rest
    else (none, b :: rest)

/-- One character from the front, or `none` for the longest start of one. -/
def readChar (b : UInt8) (rest : Bytes) : Option Char × Bytes :=
  if b < 0x80 then (some (Char.ofNat b.toNat), rest)
  else match lead? b with
    | none => (none, rest)
    | some l => follow l.bits l.more l.low l.high rest

theorem length_follow (bits more : Nat) (low high : UInt8) (bs : Bytes) :
    (follow bits more low high bs).2.length ≤ bs.length := by
  fun_induction follow bits more low high bs <;> grind

theorem length_readChar (b : UInt8) (rest : Bytes) : (readChar b rest).2.length ≤ rest.length := by
  unfold readChar
  split
  · simp
  · split
    · simp
    · exact length_follow ..

/-- What stands for bytes that are no character. -/
def replacementChar : Char := '\uFFFD'

/-- The characters of `bs` in reverse order, before those already read. -/
def readCharsOnto (read : List Char) : Bytes → List Char
  | [] => read
  | b :: rest => readCharsOnto ((readChar b rest).1.getD replacementChar :: read) (readChar b rest).2
termination_by bs => bs.length
decreasing_by
  have := length_readChar b rest
  simp only [List.length_cons]
  omega

/-- A text for any bytes. -/
def lossy (bs : Bytes) : String := String.ofList (readCharsOnto [] bs).reverse

/-! ### Reading ASCII -/

theorem readCharsOnto_ascii {cs : List Char} (h : ∀ c ∈ cs, c.toNat < 0x80) (read : List Char) :
    readCharsOnto read (cs.map fun c => UInt8.ofNat c.toNat) = cs.reverse ++ read := by
  induction cs generalizing read with
  | nil => rw [List.map_nil, readCharsOnto]; rfl
  | cons c cs ih =>
    obtain ⟨hc, hcs⟩ := List.forall_mem_cons.1 h
    have hbyte : (UInt8.ofNat c.toNat).toNat = c.toNat := by
      rw [UInt8.toNat_ofNat']
      omega
    have hsmall : UInt8.ofNat c.toNat < 0x80 := by
      rw [UInt8.lt_iff_toNat_lt, hbyte]
      exact hc
    have hread : readChar (UInt8.ofNat c.toNat) (cs.map fun c => UInt8.ofNat c.toNat) =
        (some c, cs.map fun c => UInt8.ofNat c.toNat) := by
      rw [readChar, if_pos hsmall, hbyte, Char.ofNat_toNat]
    rw [List.map_cons, readCharsOnto, hread, List.reverse_cons, List.append_assoc]
    exact ih hcs _

theorem lossy_ascii {cs : List Char} (h : ∀ c ∈ cs, c.toNat < 0x80) :
    lossy (cs.map fun c => UInt8.ofNat c.toNat) = String.ofList cs := by
  rw [lossy, readCharsOnto_ascii h, List.append_nil, List.reverse_reverse]

/-! ### Reading text -/

theorem follow_cons {bits more n : Nat} {low high : UInt8} (hn : n < 64)
    (hlow : low.toNat ≤ n + 0x80) (hhigh : n + 0x80 ≤ high.toNat) (rest : Bytes) :
    follow bits (more + 1) low high (UInt8.ofNat (n + 0x80) :: rest) =
      follow (bits * 64 + n) more 0x80 0xBF rest := by
  have hbyte : (UInt8.ofNat (n + 0x80)).toNat = n + 0x80 := by
    rw [UInt8.toNat_ofNat']
    omega
  have hbits : (n + 0x80) % 64 = n := by omega
  rw [follow, if_pos (by simpa only [UInt8.le_iff_toNat_le, hbyte] using ⟨hlow, hhigh⟩), hbyte,
    hbits]

theorem lead?_two {n : Nat} (h : 2 ≤ n) (h' : n < 32) :
    lead? (UInt8.ofNat (n + 0xC0)) = some ⟨n, 1, 0x80, 0xBF⟩ := by
  have hbyte : (UInt8.ofNat (n + 0xC0)).toNat = n + 0xC0 := by
    rw [UInt8.toNat_ofNat']
    omega
  simp only [lead?, hbyte]
  rw [if_pos (by omega), Nat.add_sub_cancel]

theorem lead?_three {n : Nat} (h : n < 16) : lead? (UInt8.ofNat (n + 0xE0)) =
    some ⟨n, 2, if n = 0 then 0xA0 else 0x80, if n = 0xD then 0x9F else 0xBF⟩ := by
  have hbyte : (UInt8.ofNat (n + 0xE0)).toNat = n + 0xE0 := by
    rw [UInt8.toNat_ofNat']
    omega
  simp only [lead?, hbyte]
  grind

theorem lead?_four {n : Nat} (h : n < 5) : lead? (UInt8.ofNat (n + 0xF0)) =
    some ⟨n, 3, if n = 0 then 0x90 else 0x80, if n = 4 then 0x8F else 0xBF⟩ := by
  have hbyte : (UInt8.ofNat (n + 0xF0)).toNat = n + 0xF0 := by
    rw [UInt8.toNat_ofNat']
    omega
  simp only [lead?, hbyte]
  grind

theorem readChar_of_lead {n bits more : Nat} {low high : UInt8} (hn : 0x80 ≤ n) (h : n < 0x100)
    (hlead : lead? (UInt8.ofNat n) = some ⟨bits, more, low, high⟩) (rest : Bytes) :
    readChar (UInt8.ofNat n) rest = follow bits more low high rest := by
  have hlarge : ¬UInt8.ofNat n < 0x80 := by
    rw [UInt8.lt_iff_toNat_lt, UInt8.toNat_ofNat']
    show ¬n % 256 < 128
    omega
  rw [readChar, if_neg hlarge, hlead]

/-- The bytes of one character are read as that character. -/
theorem readChar_utf8EncodeChar (c : Char) (rest : Bytes) :
    ∃ b bs, String.utf8EncodeChar c = b :: bs ∧ readChar b (bs ++ rest) = (some c, rest) := by
  have hchar : Char.ofNat c.val.toNat = c := Char.ofNat_toNat c
  have hvalid : c.val.toNat < 55296 ∨ 57343 < c.val.toNat ∧ c.val.toNat < 1114112 := c.valid
  rw [String.utf8EncodeChar]
  generalize c.val.toNat = v at hchar hvalid
  have hlow : (0x80 : UInt8).toNat = 0x80 := rfl
  have hhigh : (0xBF : UInt8).toNat = 0xBF := rfl
  -- by the number of bytes; the ranges of the second one follow from `hvalid` and from the shorter
  -- forms that are ruled out
  split
  · have hbyte : (UInt8.ofNat v).toNat = v := by
      rw [UInt8.toNat_ofNat']
      omega
    have hsmall : UInt8.ofNat v < 0x80 := by
      rw [UInt8.lt_iff_toNat_lt, hbyte, hlow]
      omega
    refine ⟨_, _, rfl, ?_⟩
    rw [readChar, if_pos hsmall, hbyte, hchar, List.nil_append]
  split
  · have hbits : v / 64 % 32 * 64 + v % 64 = v := by omega
    refine ⟨_, _, rfl, ?_⟩
    rw [readChar_of_lead (by omega) (by omega) (lead?_two (by omega) (by omega)),
      List.singleton_append, follow_cons (by omega) (by omega) (by omega), follow, hbits, hchar]
  split
  · have hbits : (v / 4096 % 16 * 64 + v / 64 % 64) * 64 + v % 64 = v := by omega
    have hsecond : (if v / 4096 % 16 = 0 then 0xA0 else 0x80 : UInt8).toNat ≤ v / 64 % 64 + 0x80 ∧
        v / 64 % 64 + 0x80 ≤ (if v / 4096 % 16 = 0xD then 0x9F else 0xBF : UInt8).toNat := by
      constructor
      · split
        · show 0xA0 ≤ _
          omega
        · omega
      · split
        · show _ ≤ 0x9F
          omega
        · omega
    refine ⟨_, _, rfl, ?_⟩
    rw [readChar_of_lead (by omega) (by omega) (lead?_three (by omega)), List.cons_append,
      follow_cons (by omega) hsecond.1 hsecond.2, List.singleton_append,
      follow_cons (by omega) (by omega) (by omega), follow, hbits, hchar]
  · have hbits : ((v / 262144 % 8 * 64 + v / 4096 % 64) * 64 + v / 64 % 64) * 64 + v % 64 = v := by
      omega
    have hsecond : (if v / 262144 % 8 = 0 then 0x90 else 0x80 : UInt8).toNat ≤
          v / 4096 % 64 + 0x80 ∧
        v / 4096 % 64 + 0x80 ≤ (if v / 262144 % 8 = 4 then 0x8F else 0xBF : UInt8).toNat := by
      constructor
      · split
        · show 0x90 ≤ _
          omega
        · omega
      · split
        · show _ ≤ 0x8F
          omega
        · omega
    refine ⟨_, _, rfl, ?_⟩
    rw [readChar_of_lead (by omega) (by omega) (lead?_four (by omega)), List.cons_append,
      follow_cons (by omega) hsecond.1 hsecond.2, List.cons_append,
      follow_cons (by omega) (by omega) (by omega), List.singleton_append,
      follow_cons (by omega) (by omega) (by omega), follow, hbits, hchar]

theorem readCharsOnto_utf8 (cs : List Char) (read : List Char) :
    readCharsOnto read (utf8 (String.ofList cs)) = cs.reverse ++ read := by
  induction cs generalizing read with
  | nil =>
    rw [show utf8 (String.ofList []) = [] from rfl, readCharsOnto]
    rfl
  | cons c cs ih =>
    obtain ⟨b, bs, hbytes, hread⟩ := readChar_utf8EncodeChar c (utf8 (String.ofList cs))
    rw [utf8_ofList_cons, utf8_singleton, hbytes, List.cons_append, readCharsOnto, hread,
      List.reverse_cons, List.append_assoc]
    exact ih _

/-- Text that is not damaged is read as it is. -/
theorem lossy_utf8 (s : String) : lossy (utf8 s) = s := by
  have hread := readCharsOnto_utf8 s.toList []
  rw [String.ofList_toList] at hread
  rw [lossy, hread, List.append_nil, List.reverse_reverse, String.ofList_toList]

end Courier.Text
