import Courier.Proofs.Packet.Frame

/-! What the two readings say of any bytes.

A packet that is read, strictly or leniently, stands in the buffer as eight bytes of a header, of
which the first is its command, and behind them its name, a NUL and its data (`decode_eq_some`,
`parse_eq_ok`). What the strict reading says of a buffer, packet or error, it also says when more
bytes follow (`decode_append`); only a request for more bytes is open. -/
namespace Courier.Packet

/-- Bytes that a packet is read from. Of the header they show the command only: the lenient reading
trusts nothing else in it. -/
structure Carries (bs : Bytes) (p : Packet) : Prop where
  size_eq : bs.length = p.size
  header_lt : headerSize < bs.length
  command_eq : bs[0]? = some p.command
  body_eq : bs.drop headerSize = Text.utf8 p.peer ++ 0 :: p.payload

theorem carries_cons {p : Packet} {header : Bytes} (h : header.length + 1 = headerSize) :
    Carries (p.command :: header ++ p.body) p := by
  have hlen : (p.command :: header ++ p.body).length = p.size := by
    rw [List.length_append, List.length_cons, length_body, size, h]
    omega
  refine ⟨hlen, ?_, rfl, ?_⟩
  · rw [hlen, size]
    omega
  · exact List.drop_left' (by rw [List.length_cons, h])

/-- The bytes of a body, taken apart where the NUL behind the name is. -/
theorem body_of_parts {bs name : Bytes} {n : Nat} {peer : String}
    (hnul : bs[n]? = some 0) (hname : bs.take n = name) (hpeer : Text.decode? name = some peer)
    (command : UInt8) : body ⟨command, peer, bs.drop (n + 1)⟩ = bs := by
  obtain ⟨hn, hget⟩ := List.getElem?_eq_some_iff.1 hnul
  rw [body, ← Text.decode?_eq_some_iff.1 hpeer, ← hname, ← hget, ← List.drop_eq_getElem_cons hn,
    List.take_append_drop]

/-- A packet that the strict reading gives stands in the buffer behind a header. -/
theorem decode_eq_some {bs rest : Bytes} {p : Packet} (h : decode bs = .ok (some (p, rest))) :
    ∃ header, header.length + 1 = headerSize ∧ bs = p.command :: header ++ p.body ++ rest := by
  unfold decode at h
  split at h
  · next command nameSize low high r₀ r₁ bodySum headerSum tail =>
    simp only at h
    split at h
    · cases h
    split at h
    · cases h
    next hsize =>
    split at h
    · cases h
    split at h
    · cases h
    split at h
    · cases h
    next hnul =>
    split at h
    · cases h
    next peer hpeer =>
    cases h
    have hpos : nameSize.toNat - 1 + 1 = nameSize.toNat := Nat.sub_add_cancel
      (Nat.pos_of_ne_zero fun h => hsize (UInt8.toNat_inj.1 h))
    have hbody := body_of_parts (Decidable.not_not.1 hnul) rfl hpeer command
    rw [hpos] at hbody
    refine ⟨[nameSize, low, high, r₀, r₁, bodySum, headerSum], rfl, ?_⟩
    rw [hbody]
    simp
  · cases h

/-- So does one that the lenient reading gives, and it takes all that is there. -/
theorem parse_eq_ok {bs : Bytes} {p : Packet} (h : parse bs = .ok p) :
    ∃ header, header.length + 1 = headerSize ∧ bs = p.command :: header ++ p.body := by
  unfold parse at h
  split at h
  · next command b₁ b₂ b₃ b₄ b₅ b₆ b₇ tail =>
    split at h
    · cases h
    next name payload hcut =>
    split at h
    · cases h
    next peer hpeer =>
    cases h
    refine ⟨[b₁, b₂, b₃, b₄, b₅, b₆, b₇], rfl, ?_⟩
    rw [(Text.cutFirst_eq_some_iff.1 hcut).1, Text.decode?_eq_some_iff.1 hpeer]
    rfl
  · cases h

/-- **What is said stays said**: with more bytes behind them, bytes that begin with a packet begin
with it still, and damaged bytes are damaged in the same way. -/
theorem decode_append {bs : Bytes} (h : decode bs ≠ .ok none) (more : Bytes) :
    decode (bs ++ more) =
      (decode bs).map (Option.map fun (p, rest) => (p, rest ++ more)) := by
  -- a buffer shorter than a header asks for more bytes, so that a header can be taken off
  match bs, h with
  | command :: nameSize :: low :: high :: r₀ :: r₁ :: bodySum :: headerSum :: tail, h =>
    simp only [List.cons_append, decode] at h ⊢
    by_cases hsum : checksum [command, nameSize, low, high, r₀, r₁, bodySum] ≠ headerSum
    · rw [if_pos hsum, if_pos hsum]
      rfl
    by_cases hname : nameSize = 0
    · rw [if_neg hsum, if_neg hsum, if_pos hname, if_pos hname]
      rfl
    by_cases hshort : tail.length < nameSize.toNat + (low.toNat + 256 * high.toNat)
    · rw [if_neg hsum, if_neg hname, if_pos hshort] at h
      exact absurd rfl h
    -- all that is looked at stands in front of what is appended
    have hlong := Nat.not_lt.1 hshort
    have hlong' : ¬(tail ++ more).length < nameSize.toNat + (low.toNat + 256 * high.toNat) := by
      rw [List.length_append]
      omega
    rw [if_neg hsum, if_neg hsum, if_neg hname, if_neg hname, if_neg hshort, if_neg hlong',
      List.take_append_of_le_length hlong, List.drop_append_of_le_length hlong]
    split
    · rfl
    split
    · rfl
    split <;> rfl

end Courier.Packet
