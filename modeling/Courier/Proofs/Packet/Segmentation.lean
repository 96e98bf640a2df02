import Courier.Proofs.Packet.Drain
import Courier.Proofs.Packet.Verdict

/-! Strict reading of a stream that comes in pieces.

After each piece the decoder is read until it gives no packet (`Reading.feed`). A read that gives a
packet or an error gives the same one when more bytes follow, and one that asks for more bytes takes
none, so two pieces one after the other are read as one piece is (`Reading.feed_feed`). Hence only
the bytes of a stream count and not where it is cut, also when it is damaged, and a stream that was
found damaged stays so (`Reading.eq_of_flatten_eq`). -/
namespace Courier.Packet.Decoder

/-! ### Reading behind more bytes -/

/-- A read that gives a packet or an error gives it again when more bytes follow, and leaves them.
-/
theorem next_extend {d : Decoder} (h : d.next.1 ≠ .ok none) (more : Bytes) :
    (d.extend more).next = (d.next.1, d.next.2.extend more) := by
  have hdecode : decode d.buffer ≠ .ok none := fun hnone => h (by simp only [next, hnone])
  have hmore := decode_append hdecode more
  rcases hd : decode d.buffer with e | _ | ⟨p, rest⟩
  · rw [hd] at hmore
    simp only [next, extend, hmore, hd]
    rfl
  · exact absurd hd hdecode
  · rw [hd] at hmore
    simp only [next, extend, hmore, hd]
    rfl

/-- Frames at the front are taken first, whatever comes behind them. -/
theorem takeFrames_extend (d : Decoder) (more : Bytes) :
    (d.extend more).takeFrames =
      let front := d.takeFrames
      let back := (front.2.extend more).takeFrames
      (front.1 ++ back.1, back.2) := by
  fun_induction takeFrames d with
  | case1 d p rest hd ih =>
    have hnext : (d.extend more).next = (.ok (some p), rest.extend more) := by
      rw [next_extend (by rw [hd]; simp), hd]
    rw [takeFrames_of_packet hnext, ih]
    rfl
  | case2 d hd => rfl

/-- Reading stops where there is no packet. -/
theorem next_takeFrames (d : Decoder) (p : Packet) : d.takeFrames.2.next.1 ≠ .ok (some p) := by
  fun_induction takeFrames d with
  | case1 d q rest hd ih => exact ih
  | case2 d hd => exact fun hp => hd p d.next.2 (Prod.ext hp rfl)

/-! ### Readings -/

/-- How far a stream is read. -/
structure Reading where
  packets : List Packet := []
  /-- What the last read answered, or would have answered before there was one. -/
  outcome : Answer := .ok none
  decoder : Decoder := {}

namespace Reading

/-- Takes a piece and reads until no packet comes. The last read is the one at which no more frames
are taken. -/
def feed (r : Reading) (piece : Bytes) : Reading :=
  let taken := (r.decoder.extend piece).takeFrames
  ⟨r.packets ++ taken.1, taken.2.next.1, taken.2⟩

/-- The reading of a stream in pieces, by a new decoder. -/
def ofPieces (pieces : List Bytes) : Reading := pieces.foldl feed {}

/-- Two pieces one after the other are read as the one they make up. -/
theorem feed_feed (r : Reading) (a b : Bytes) : (r.feed a).feed b = r.feed (a ++ b) := by
  have hextend : r.decoder.extend (a ++ b) = (r.decoder.extend a).extend b := by
    simp only [extend, List.append_assoc]
  simp only [feed, hextend, takeFrames_extend (r.decoder.extend a) b, List.append_assoc]

theorem foldl_feed (r : Reading) (a : Bytes) (pieces : List Bytes) :
    pieces.foldl feed (r.feed a) = r.feed (a ++ pieces.flatten) := by
  induction pieces generalizing a with
  | nil => rw [List.foldl_nil, List.flatten_nil, List.append_nil]
  | cons piece more ih => rw [List.foldl_cons, feed_feed, ih, List.flatten_cons, List.append_assoc]

theorem feed_nil : ({} : Reading).feed [] = {} := by
  have hnothing : takeFrames {} = ([], {}) :=
    takeFrames_of_not_packet fun p => by simp [next, decode]
  have hextend : extend {} [] = {} := rfl
  simp only [feed, hextend, hnothing]
  rfl

/-- A stream in pieces is read as the whole of it is. -/
theorem ofPieces_eq (pieces : List Bytes) :
    ofPieces pieces = ({} : Reading).feed pieces.flatten := by
  have hpieces := foldl_feed {} [] pieces
  rwa [feed_nil, List.nil_append] at hpieces

/-- The frames of packets, with less than a frame behind them, give these packets in any pieces. -/
theorem ofPieces_frames {packets : List Packet} (h : ∀ p ∈ packets, p.Sendable) {rest : Bytes}
    (hrest : decode rest = .ok none) {pieces : List Bytes}
    (hpieces : pieces.flatten = packets.flatMap frame ++ rest) :
    ofPieces pieces = ⟨packets, .ok none, ⟨rest⟩⟩ := by
  have htaken : (extend {} pieces.flatten).takeFrames = (packets, ⟨rest⟩) := by
    rw [hpieces]
    exact takeFrames_append h hrest
  have hnext : next ⟨rest⟩ = (.ok none, ⟨rest⟩) := by simp only [next, hrest]
  rw [ofPieces_eq]
  simp only [feed, htaken, hnext, List.nil_append]

/-- A reading that failed takes no more packets from whatever comes. -/
theorem feed_of_failed {r : Reading} {e : Error} (h : r.decoder.next.1 = .error e) (more : Bytes) :
    r.feed more = ⟨r.packets, .error e, r.decoder.extend more⟩ := by
  have hnext : (r.decoder.extend more).next.1 = .error e := by
    rw [next_extend (by rw [h]; simp)]
    exact h
  have htaken : (r.decoder.extend more).takeFrames = ([], r.decoder.extend more) :=
    takeFrames_of_not_packet (by rw [hnext]; simp)
  simp only [feed, htaken, List.append_nil, hnext]

/-- **It does not matter where a stream is cut**, be it sound or damaged: cut in two ways, it gives
the same packets, the last reads answer the same, and the same bytes are left. That answer is that
nothing is there, or an error; and as soon as it is an error, more pieces only add to the bytes
left. -/
theorem eq_of_flatten_eq {a b : List Bytes} (h : a.flatten = b.flatten) :
    ofPieces a = ofPieces b ∧
      ((ofPieces a).outcome = .ok none ∨ ∃ e, (ofPieces a).outcome = .error e) ∧
      ∀ early late e, a = early ++ late → (ofPieces early).outcome = .error e →
        ofPieces a = { ofPieces early with
          decoder := (ofPieces early).decoder.extend late.flatten } := by
  refine ⟨?_, ?_, ?_⟩
  · rw [ofPieces_eq, ofPieces_eq, h]
  · have hstop : ∀ p, (ofPieces a).outcome ≠ .ok (some p) := fun p => by
      rw [ofPieces_eq]
      exact next_takeFrames _ p
    rcases hout : (ofPieces a).outcome with e | _ | p
    · exact .inr ⟨e, rfl⟩
    · exact .inl rfl
    · exact absurd hout (hstop p)
  · rintro early late e rfl hfailed
    have hnext : (ofPieces early).decoder.next.1 = .error e := by
      rw [ofPieces_eq] at hfailed ⊢
      exact hfailed
    have hlate : ofPieces (early ++ late) = (ofPieces early).feed late.flatten := by
      rw [ofPieces_eq, ofPieces_eq, List.flatten_append, feed_feed]
    rw [hlate, feed_of_failed hnext, ← hfailed]

/-- A frame, and behind it a header with a wrong sum, cut inside the frame and inside that header;
the last piece comes when the damage is known. -/
theorem eq_of_flatten_eq_damaged :
    let whole : List Bytes :=
      [[65, 2, 2, 0, 0, 0, 98, 167, 97, 0, 1, 0, 66, 1, 0, 0, 0, 0, 0, 9, 7]]
    let early : List Bytes :=
      [[65, 2, 2, 0, 0], [0, 98, 167, 97, 0, 1, 0, 66, 1, 0], [0, 0, 0, 0, 9]]
    (early ++ [[7]]).flatten = whole.flatten ∧ ofPieces (early ++ [[7]]) = ofPieces whole ∧
      (ofPieces early).outcome = .error (.headerChecksum 9 67) ∧
      ofPieces whole = ⟨[⟨65, "a", [1, 0]⟩], .error (.headerChecksum 9 67),
        ⟨[66, 1, 0, 0, 0, 0, 0, 9, 7]⟩⟩ := by
  intro whole early
  let p : Packet := ⟨65, "a", [1, 0]⟩
  have hsend : p.Sendable := ⟨by decide, by decide, by decide⟩
  have hearly : ofPieces early =
      ⟨[p], .error (.headerChecksum 9 67), ⟨[66, 1, 0, 0, 0, 0, 0, 9]⟩⟩ := by
    have hbytes : early.flatten = p.frame ++ [66, 1, 0, 0, 0, 0, 0, 9] := by
      simp only [early, p]
      decide
    have hnext : (extend {} early.flatten).next = (.ok (some p), ⟨[66, 1, 0, 0, 0, 0, 0, 9]⟩) := by
      rw [hbytes]
      simp only [next, extend, List.nil_append, decode_frame hsend]
    have hfailed : next ⟨[66, 1, 0, 0, 0, 0, 0, 9]⟩ =
        (.error (.headerChecksum 9 67), ⟨[66, 1, 0, 0, 0, 0, 0, 9]⟩) := rfl
    have hstop : takeFrames ⟨[66, 1, 0, 0, 0, 0, 0, 9]⟩ = ([], ⟨[66, 1, 0, 0, 0, 0, 0, 9]⟩) :=
      takeFrames_of_not_packet (by simp [hfailed])
    rw [ofPieces_eq]
    simp only [feed, takeFrames_of_packet hnext, hstop, hfailed, List.nil_append]
  have hflatten : (early ++ [[7]]).flatten = whole.flatten := rfl
  obtain ⟨hsame, -, hfailed⟩ := eq_of_flatten_eq hflatten
  have hout := congrArg Reading.outcome hearly
  refine ⟨hflatten, hsame, hout, ?_⟩
  rw [← hsame, hfailed early [[7]] _ rfl hout, hearly]
  rfl

end Reading
end Courier.Packet.Decoder
