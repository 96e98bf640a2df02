import Courier.Proofs.Packet.Verdict

/-! The strict and the lenient reading of a frame.

Behind the header both readers see the same body: a name, a NUL and the data. The strict reader
trusts the size of the name, the lenient one goes to the first NUL. So they find the same bytes, and
the same packet just when there is no NUL in the name (`readers_agree`). -/
namespace Courier.Packet

open Text (cutFirst_eq_some_iff cutFirst_eq_none_iff)

/-- In front of the first NUL of a body stands a text, the whole name or its first part. -/
theorem exists_cutFirst_body (p : Packet) :
    ∃ name payload, Text.cutFirst 0 p.body = some (Text.utf8 name, payload) := by
  cases hcut : Text.cutFirst '\x00' p.peer.toList with
  | none =>
    have hfree := cutFirst_eq_none_iff.1 hcut
    exact ⟨p.peer, p.payload,
      cutFirst_eq_some_iff.2 ⟨rfl, fun h => hfree (Text.zero_mem_utf8_iff.1 h)⟩⟩
  | some cut =>
    obtain ⟨before, after⟩ := cut
    obtain ⟨hpeer, hfree⟩ := cutFirst_eq_some_iff.1 hcut
    have hnul : Text.utf8 (String.singleton '\x00') = [0] := by decide
    have hname : Text.utf8 p.peer =
        Text.utf8 (String.ofList before) ++ 0 :: Text.utf8 (String.ofList after) := by
      rw [← String.ofList_toList (s := p.peer), hpeer, String.ofList_append, Text.utf8_append,
        Text.utf8_ofList_cons, hnul]
      rfl
    refine ⟨String.ofList before, Text.utf8 (String.ofList after) ++ 0 :: p.payload,
      cutFirst_eq_some_iff.2 ⟨?_, fun h => hfree ?_⟩⟩
    · rw [body, hname, List.append_assoc, List.cons_append]
    · rw [← String.toList_ofList (l := before)]
      exact Text.zero_mem_utf8_iff.1 h

/-- A command and a body are those of one packet without a NUL in its name. -/
theorem eq_of_body {p q : Packet} (hcommand : q.command = p.command) (hbody : q.body = p.body)
    (hq : '\x00' ∉ q.peer.toList) (hp : '\x00' ∉ p.peer.toList) : q = p := by
  have hcut (r : Packet) (hr : '\x00' ∉ r.peer.toList) :
      Text.cutFirst 0 r.body = some (Text.utf8 r.peer, r.payload) :=
    cutFirst_eq_some_iff.2 ⟨rfl, fun h => hr (Text.zero_mem_utf8_iff.1 h)⟩
  have hparts := hcut q hq
  rw [hbody, hcut p hp, Option.some.injEq, Prod.mk.injEq] at hparts
  cases p
  cases q
  rw [Packet.mk.injEq]
  exact ⟨hcommand, Text.utf8_injective hparts.1.symm, hparts.2.symm⟩

/-- What the lenient reading makes of a body behind any header. -/
theorem parse_header_body (p : Packet) {header : Bytes} (h : header.length + 1 = headerSize) :
    ∃ q, parse (p.command :: header ++ p.body) = .ok q ∧ q.command = p.command ∧
      q.body = p.body ∧ (q = p ↔ '\x00' ∉ p.peer.toList) := by
  obtain ⟨name, payload, hcut⟩ := exists_cutFirst_body p
  obtain ⟨hbody, hfree⟩ := cutFirst_eq_some_iff.1 hcut
  let q : Packet := ⟨p.command, name, payload⟩
  have hparse : parse (p.command :: header ++ p.body) = .ok q := by
    match header, h with
    | [_, _, _, _, _, _, _], _ =>
      simp only [parse, List.cons_append, List.nil_append, hcut, Text.decode?_utf8, q]
  have hq : '\x00' ∉ q.peer.toList := fun hin => hfree (Text.zero_mem_utf8_iff.2 hin)
  exact ⟨q, hparse, rfl, hbody.symm, fun heq => heq ▸ hq, eq_of_body rfl hbody.symm hq⟩

/-- **The two readers agree on frames.** What is read strictly of a buffer, with nothing left, is
read leniently as the same bytes, cut at the first NUL: the command is the same, and so are name,
NUL and data together. The packets are the same just when the name holds no NUL, as that of every
packet that is encoded. -/
theorem readers_agree :
    (∀ bs p, decode bs = .ok (some (p, [])) → ∃ q, parse bs = .ok q ∧ q.command = p.command ∧
      Text.utf8 q.peer ++ 0 :: q.payload = Text.utf8 p.peer ++ 0 :: p.payload ∧
      (q = p ↔ '\x00' ∉ p.peer.toList)) ∧
    (∀ p bs, encode p = .ok bs → parse bs = .ok p) ∧
    ∀ p : Packet, '\x00' ∉ p.peer.toList → (Text.utf8 p.peer).length ≤ maxPeerSize →
      p.payload.length ≤ maxPayloadSize → ∃ bs, p.encode = .ok bs := by
  refine ⟨fun bs p h => ?_, fun p bs h => ?_, fun p hfree hname hpayload => ?_⟩
  · obtain ⟨header, hheader, hbs⟩ := decode_eq_some h
    rw [hbs, List.append_nil]
    exact parse_header_body p hheader
  · obtain ⟨hsend, rfl⟩ := encode_eq_ok_iff.1 h
    obtain ⟨q, hparse, -, -, hsame⟩ := @parse_header_body p p.header.tail rfl
    rw [hsame.2 (sendable_iff.1 hsend).1] at hparse
    rw [frame_eq_append]
    exact hparse
  · exact ⟨p.frame, encode_eq_ok_iff.2 ⟨sendable_iff.2 ⟨hfree, hname, hpayload⟩, rfl⟩⟩

/-- A name with a NUL in it, which the lenient reading cuts there; and no name at all, with data
that starts with NUL. -/
theorem readers_agree_at_nul :
    let bs : Bytes := [65, 4, 0, 0, 0, 0, 195, 8, 97, 0, 98, 0]
    let p : Packet := ⟨65, "a\x00b", []⟩
    let login : Packet := ⟨0, "", [0, 1]⟩
    decode bs = .ok (some (p, [])) ∧ (∃ q, parse bs = .ok q ∧ q.body = [97, 0, 98, 0] ∧ q ≠ p) ∧
      ∃ frame, login.encode = .ok frame ∧ parse frame = .ok login := by
  intro bs p login
  obtain ⟨hframes, hencoded, hencode⟩ := readers_agree
  have hdecode : decode bs = .ok (some (p, [])) := by with_unfolding_all rfl
  obtain ⟨q, hparse, -, hbody, hsame⟩ := hframes bs p hdecode
  obtain ⟨frame, hframe⟩ := hencode login (by decide) (by decide) (by decide)
  exact ⟨hdecode, ⟨q, hparse, hbody.trans (by decide), fun heq => hsame.1 heq (by decide)⟩, frame,
    hframe, hencoded login frame hframe⟩

end Courier.Packet
