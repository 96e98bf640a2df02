import Courier.Proofs.Packet.Frame

/-! What becomes of a frame with one wrong byte.

The sum of bytes goes up by as much as one of them does, so it tells every change of a single byte
(`checksum_set_ne`). The header sum is looked at first, and the sizes are believed only after it: a
wrong byte in the header is noticed there, whatever size it would announce. Behind a good header the
whole body is added up before anything in it is read. So no such damage is taken for a packet or
for a request for more bytes, and the strict reading leaves the buffer as it is
(`damage_noticed`). -/
namespace Courier.Packet

/-! ### Sums -/

theorem foldl_add (sum : UInt8) (bs : Bytes) : bs.foldl (· + ·) sum = sum + checksum bs := by
  induction bs generalizing sum with
  | nil => exact (UInt8.add_zero sum).symm
  | cons b bs ih =>
    show bs.foldl (· + ·) (sum + b) = sum + bs.foldl (· + ·) (0 + b)
    rw [ih, ih, UInt8.zero_add, UInt8.add_assoc]

theorem checksum_append (as bs : Bytes) : checksum (as ++ bs) = checksum as + checksum bs := by
  rw [checksum, List.foldl_append]
  exact foldl_add _ bs

theorem checksum_cons (b : UInt8) (bs : Bytes) : checksum (b :: bs) = b + checksum bs := by
  show bs.foldl (· + ·) (0 + b) = b + checksum bs
  rw [foldl_add, UInt8.zero_add]

/-- **A sum tells every change of one byte.** -/
theorem checksum_set_ne {bs : Bytes} {i : Nat} {b : UInt8} (hi : i < bs.length) (hb : b ≠ bs[i]) :
    checksum (bs.set i b) ≠ checksum bs := by
  intro hsum
  have hold : bs = bs.take i ++ bs[i] :: bs.drop (i + 1) := by
    rw [← List.drop_eq_getElem_cons hi, List.take_append_drop]
  have hnew : bs.set i b = bs.take i ++ b :: bs.drop (i + 1) := by
    rw [List.set_eq_take_append_cons_drop, if_pos hi]
  rw [hnew, congrArg checksum hold, checksum_append, checksum_append, checksum_cons,
    checksum_cons] at hsum
  exact hb ((UInt8.add_left_inj _).1 ((UInt8.add_right_inj _).1 hsum))

/-! ### Reading -/

/-- The sum of a header is looked at before anything else. -/
theorem decode_of_headerSum_ne {start rest : Bytes} {sum : UInt8}
    (hstart : start.length + 1 = headerSize) (hne : checksum start ≠ sum) :
    decode (start ++ sum :: rest) = .error (.headerChecksum sum (checksum start)) := by
  obtain ⟨command, nameSize, low, high, r₀, r₁, bodySum, rfl⟩ : ∃ c n l h r₀ r₁ s,
      start = [c, n, l, h, r₀, r₁, s] := by
    match start, hstart with
    | [c, n, l, h, r₀, r₁, s], _ => exact ⟨c, n, l, h, r₀, r₁, s, rfl⟩
  simp only [List.cons_append, List.nil_append, decode]
  rw [if_pos hne]

/-- The sum of a body is looked at as soon as all of it is there. -/
theorem decode_of_bodySum_ne {p : Packet} (h : p.Sendable) {body : Bytes}
    (hlength : body.length = p.body.length) (hne : checksum body ≠ checksum p.body) (rest : Bytes) :
    decode (p.header ++ (body ++ rest)) =
      .error (.dataChecksum (checksum p.body) (checksum body)) := by
  have hlong : ¬(body ++ rest).length < p.body.length := by
    rw [List.length_append]
    omega
  have htake : (body ++ rest).take p.body.length = body := List.take_left' hlength
  rw [decode_header_append h, if_neg hlong, htake]
  exact if_pos hne

/-! ### Damage -/

/-- A header with one wrong byte does not have the sum it says, whichever byte it is. -/
theorem damaged_header {p : Packet} {i : Nat} {b : UInt8} (hi : i < headerSize)
    (hb : p.header[i]? ≠ some b) : ∃ start sum, p.header.set i b = start ++ [sum] ∧
      start.length + 1 = headerSize ∧ checksum start ≠ sum := by
  rcases Nat.lt_or_ge i p.headerStart.length with hlt | hge
  · rw [header, List.getElem?_append_left hlt, List.getElem?_eq_getElem hlt] at hb
    exact ⟨_, _, List.set_append_left i b hlt, by rw [List.length_set]; rfl,
      checksum_set_ne hlt fun h => hb (congrArg some h.symm)⟩
  · obtain rfl : i = p.headerStart.length := Nat.le_antisymm (Nat.le_of_lt_succ hi) hge
    rw [header, List.getElem?_append_right (Nat.le_refl _), Nat.sub_self] at hb
    refine ⟨p.headerStart, b, ?_, rfl, fun h => hb (congrArg some h)⟩
    rw [header, List.set_append_right _ b (Nat.le_refl _), Nat.sub_self]
    rfl

/-- **Every wrong byte is noticed.** A frame with one byte of its header wrong has the wrong header
sum, and one with a byte of its body wrong the wrong body sum, whatever comes behind it. Reading
stops there, and the buffer stays as it is. -/
theorem damage_noticed {p : Packet} {bs : Bytes} (hbs : p.encode = .ok bs) {i : Nat} {b : UInt8}
    (hi : i < bs.length) (hb : b ≠ bs[i]) (trailing : Bytes) :
    let buffer := bs.set i b ++ trailing
    ∃ e, decode buffer = .error e ∧ Decoder.next ⟨buffer⟩ = (.error e, ⟨buffer⟩) ∧
      (i < headerSize → ∃ start sum rest, buffer = start ++ sum :: rest ∧
        start.length + 1 = headerSize ∧ checksum start ≠ sum ∧
        e = .headerChecksum sum (checksum start)) ∧
      (headerSize ≤ i → ∃ body, buffer = p.header ++ (body ++ trailing) ∧
        body.length = p.body.length ∧ checksum body ≠ checksum p.body ∧
        e = .dataChecksum (checksum p.body) (checksum body)) := by
  intro buffer
  obtain ⟨hsendable, rfl⟩ := encode_eq_ok_iff.1 hbs
  have hnext : ∀ {e}, decode buffer = .error e →
      Decoder.next ⟨buffer⟩ = (.error e, ⟨buffer⟩) := by
    intro e he
    simp only [Decoder.next, he]
  have hold : (p.header ++ p.body)[i]? ≠ some b := by
    rw [← frame_eq_append, List.getElem?_eq_getElem hi]
    exact fun h => hb (Option.some.inj h).symm
  rw [frame_eq_append, List.length_append] at hi
  -- header and body have a sum each, and the wrong byte is under one of them only
  rcases Nat.lt_or_ge i p.header.length with hlt | hge
  · rw [List.getElem?_append_left hlt] at hold
    obtain ⟨start, sum, hset, hstart, hne⟩ := damaged_header hlt hold
    have hbuffer : buffer = start ++ sum :: (p.body ++ trailing) := by
      simp only [buffer, frame_eq_append, List.set_append_left i b hlt, hset, List.append_assoc,
        List.cons_append, List.nil_append]
    have he : decode (start ++ sum :: (p.body ++ trailing)) = _ :=
      decode_of_headerSum_ne hstart hne
    rw [← hbuffer] at he
    exact ⟨_, he, hnext he, fun _ => ⟨start, sum, _, hbuffer, hstart, hne, rfl⟩,
      fun hge => absurd hlt (Nat.not_lt.2 hge)⟩
  · have hk : i - p.header.length < p.body.length := by omega
    rw [List.getElem?_append_right hge, List.getElem?_eq_getElem hk] at hold
    have hne := checksum_set_ne hk fun h => hold (congrArg some h.symm)
    have hbuffer : buffer = p.header ++ (p.body.set (i - p.header.length) b ++ trailing) := by
      simp only [buffer, frame_eq_append, List.set_append_right i b hge, List.append_assoc]
    have he := decode_of_bodySum_ne hsendable List.length_set hne trailing
    rw [← hbuffer] at he
    exact ⟨_, he, hnext he, fun hlt => absurd hlt (Nat.not_lt.2 hge),
      fun _ => ⟨_, hbuffer, List.length_set, hne, rfl⟩⟩

/-- The NUL behind a name, damaged, with more bytes behind the frame. It is the sum that is
wrong, not yet the name. -/
theorem damage_noticed_terminator :
    let p := text echoCommand "p" [0x48]
    let bs : Bytes := [0x41, 2, 2, 0, 0, 0, 0xB8, 0xFD, 0x70, 0, 0x48, 0]
    let buffer := bs.set 9 1 ++ [0x41]
    p.encode = .ok bs ∧ ∃ e, Decoder.next ⟨buffer⟩ = (.error e, ⟨buffer⟩) ∧
      ∃ body, checksum body ≠ checksum p.body ∧
        e = .dataChecksum (checksum p.body) (checksum body) := by
  intro p bs buffer
  have hbs : p.encode = .ok bs := encode_eq_ok_iff.2
    ⟨⟨by decide +kernel, by decide +kernel, by decide +kernel⟩, by decide +kernel⟩
  have hnul : (1 : UInt8) ≠ 0 := by decide
  obtain ⟨e, -, hnext, -, hbody⟩ := damage_noticed hbs (show 9 < bs.length by decide) hnul [0x41]
  obtain ⟨body, -, -, hne, he⟩ := hbody (by decide)
  exact ⟨hbs, e, hnext, body, hne, he⟩

end Courier.Packet
