import Courier.Packet.Decoder

/-! What reading makes of a frame.

A packet has a frame when its name is free of NUL and both sizes fit their fields (`Sendable`).
With anything behind it, a frame is read back as its packet and used up exactly (`decode_frame`),
and no proper start of a frame is anything but a request for more bytes (`decode_start`). So on
a stream of frames reading never fails, and the lenient reading is the strict one. -/
namespace Courier.Packet

/-! ### Packets that have a frame -/

/-- Packets that have a frame: their names hold no NUL, and both sizes have a place in the header.
-/
structure Sendable (p : Packet) : Prop where
  name_free : 0 ∉ Text.utf8 p.peer
  name_le : (Text.utf8 p.peer).length ≤ maxPeerSize
  payload_le : p.payload.length ≤ maxPayloadSize

theorem sendable_iff {p : Packet} : p.Sendable ↔ '\x00' ∉ p.peer.toList ∧
    (Text.utf8 p.peer).length ≤ maxPeerSize ∧ p.payload.length ≤ maxPayloadSize := by
  rw [← Text.zero_mem_utf8_iff]
  exact ⟨fun h => ⟨h.name_free, h.name_le, h.payload_le⟩, fun h => ⟨h.1, h.2.1, h.2.2⟩⟩

/-- Just the sendable packets are encoded, as their frames. -/
theorem encode_eq_ok_iff {p : Packet} {bs : Bytes} :
    p.encode = .ok bs ↔ p.Sendable ∧ bs = p.frame := by
  simp only [encode]
  constructor
  · intro h
    by_cases hfree : 0 ∈ Text.utf8 p.peer
    · simp [hfree] at h
    by_cases hname : maxPeerSize < (Text.utf8 p.peer).length
    · simp [hfree, hname] at h
    by_cases hpayload : maxPayloadSize < p.payload.length
    · simp [hfree, hname, hpayload] at h
    simp only [hfree, hname, hpayload, if_false, Except.ok.injEq] at h
    exact ⟨⟨hfree, by omega, by omega⟩, h.symm⟩
  · rintro ⟨⟨hfree, hname, hpayload⟩, rfl⟩
    rw [if_neg hfree, if_neg (by omega), if_neg (by omega)]

/-- Building asks in addition that the frame fits the capacity. -/
theorem build_eq_ok_iff {p : Packet} {capacity : Nat} {bs : Bytes} :
    p.build capacity = .ok bs ↔ p.size ≤ capacity ∧ p.Sendable ∧ bs = p.frame := by
  unfold build
  split
  · simp only [reduceCtorEq, false_iff]
    omega
  · rw [encode_eq_ok_iff]
    exact ⟨fun h => ⟨by omega, h⟩, fun h => h.2⟩

/-! ### The parts of a frame -/

/-- The first eight bytes of a frame, the last of them the sum of the others. -/
def header (p : Packet) : Bytes := p.headerStart ++ [checksum p.headerStart]

theorem frame_eq_append (p : Packet) : p.frame = p.header ++ p.body := by
  simp [frame, header]

@[simp] theorem length_header (p : Packet) : p.header.length = headerSize := rfl

theorem length_body (p : Packet) :
    p.body.length = (Text.utf8 p.peer).length + 1 + p.payload.length := by
  simp only [body, List.length_append, List.length_cons]
  omega

theorem frame_ne_nil (p : Packet) : p.frame ≠ [] := by
  simp [frame]

/-- The name size, as a byte, is still the size of the name. -/
theorem Sendable.nameSize {p : Packet} (h : p.Sendable) :
    ((Text.utf8 p.peer).length + 1).toUInt8.toNat = (Text.utf8 p.peer).length + 1 := by
  have hname := h.name_le
  simp only [maxPeerSize] at hname
  exact Nat.mod_eq_of_lt (by omega)

/-- The two bytes of the data size together are the size of the data. -/
theorem Sendable.dataSize {p : Packet} (h : p.Sendable) :
    p.payload.length.toUInt8.toNat + 256 * (p.payload.length / 256).toUInt8.toNat =
      p.payload.length := by
  have hpayload := h.payload_le
  simp only [maxPayloadSize] at hpayload
  show p.payload.length % 256 + 256 * (p.payload.length / 256 % 256) = p.payload.length
  omega

/-! ### Reading -/

/-- Behind the header of a packet `decode` looks at nothing but the body. -/
theorem decode_header_append {p : Packet} (h : p.Sendable) (rest : Bytes) :
    decode (p.header ++ rest) =
      if rest.length < p.body.length then .ok none
      else
        let body := rest.take p.body.length
        let nameSize := (Text.utf8 p.peer).length
        if checksum body ≠ checksum p.body then
          .error (.dataChecksum (checksum p.body) (checksum body))
        else if body[nameSize]? ≠ some 0 then .error .missingTerminator
        else (Text.decode? (body.take nameSize)).elim (.error .invalidUtf8) fun peer =>
          .ok (some (⟨p.command, peer, body.drop (nameSize + 1)⟩, rest.drop p.body.length)) := by
  have hne : ((Text.utf8 p.peer).length + 1).toUInt8 ≠ 0 := fun he => by
    have := congrArg UInt8.toNat he
    rw [h.nameSize] at this
    exact absurd this (Nat.succ_ne_zero _)
  have hsize : (Text.utf8 p.peer).length + 1 + p.payload.length = p.body.length :=
    (length_body p).symm
  simp only [header, headerStart, List.cons_append, List.nil_append, decode, h.nameSize,
    h.dataSize, hsize, hne, ne_eq, not_true_eq_false, if_false, Nat.add_sub_cancel]
  cases Text.decode? ((rest.take p.body.length).take (Text.utf8 p.peer).length) <;> rfl

/-- A frame is read back as its packet, and what stands behind it is left. -/
theorem decode_frame {p : Packet} (h : p.Sendable) (rest : Bytes) :
    decode (p.frame ++ rest) = .ok (some (p, rest)) := by
  have hname : p.body[(Text.utf8 p.peer).length]? = some 0 := by simp [body]
  have htake : p.body.take (Text.utf8 p.peer).length = Text.utf8 p.peer := by simp [body]
  have hdrop : p.body.drop ((Text.utf8 p.peer).length + 1) = p.payload := by
    simp [body, List.drop_append]
  rw [frame_eq_append, List.append_assoc, decode_header_append h]
  simp [hname, htake, hdrop, Text.decode?_utf8]

theorem decode_of_length_lt {bs : Bytes} (h : bs.length < headerSize) : decode bs = .ok none := by
  unfold decode
  split
  · simp only [headerSize, List.length_cons] at h
    omega
  · rfl

/-- A proper start of a frame asks for more bytes, wherever it is cut. -/
theorem decode_start {p : Packet} (h : p.Sendable) {bs : Bytes} (hbs : bs <+: p.frame)
    (hlt : bs.length < p.frame.length) : decode bs = .ok none := by
  by_cases hshort : bs.length < headerSize
  · exact decode_of_length_lt hshort
  · obtain ⟨more, hmore⟩ : p.header <+: bs :=
      List.prefix_of_prefix_length_le ⟨p.body, (frame_eq_append p).symm⟩ hbs
        (by rw [length_header]; omega)
    have hlen : more.length < p.body.length := by
      rw [← hmore, frame_eq_append, List.length_append, List.length_append] at hlt
      omega
    rw [← hmore, decode_header_append h, if_pos hlen]

namespace Decoder

/-- As long as the strict reading does not fail the lenient one is the same. -/
theorem nextLenient_eq_next {d : Decoder} {r : Option (Packet × Bytes)}
    (h : decode d.buffer = .ok r) : d.nextLenient = d.next := by
  simp only [nextLenient, next, h]
  cases r <;> rfl

end Decoder
end Courier.Packet
