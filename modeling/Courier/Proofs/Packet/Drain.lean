import Courier.Proofs.Packet.Stream

/-! Reading until nothing is found.

`takeFrames` reads strictly and stops at the first thing that is not a whole frame; from the frames
of packets it takes these packets and leaves what comes behind them (`takeFrames_append`). `drain`
reads leniently, drops what cannot be read and goes on until it finds nothing. -/
namespace Courier.Packet.Decoder

theorem buffered_next {d : Decoder} {p : Packet} {rest : Decoder}
    (h : d.next = (.ok (some p), rest)) : rest.buffered < d.buffered := by
  unfold next at h
  split at h
  · next q bs hd =>
    simp only [Prod.mk.injEq, Except.ok.injEq, Option.some.injEq] at h
    obtain ⟨-, rfl⟩ := h
    exact length_rest hd
  · simp at h
  · simp at h

/-- The packets in whole frames at the front of the buffer, and the decoder behind them. -/
def takeFrames (d : Decoder) : List Packet × Decoder :=
  match _h : d.next with
  | (.ok (some p), rest) => (p :: (takeFrames rest).1, (takeFrames rest).2)
  | _ => ([], d)
termination_by d.buffered
decreasing_by exact buffered_next _h

/-- The packets that lenient reading gives before it finds nothing, and the decoder then. -/
def drain (d : Decoder) : List Packet × Decoder :=
  match _h : d.nextLenient with
  | (.ok none, _) => ([], d)
  | (.error _, rest) => drain rest
  | (.ok (some p), rest) => (p :: (drain rest).1, (drain rest).2)
termination_by d.buffered
decreasing_by
  all_goals
    have := buffered_nextLenient (d := d) (by rw [_h]; simp)
    simpa [_h] using this

/-- A packet that is there is taken first. -/
theorem takeFrames_of_packet {d rest : Decoder} {p : Packet} (h : d.next = (.ok (some p), rest)) :
    takeFrames d = (p :: (takeFrames rest).1, (takeFrames rest).2) := by
  rw [takeFrames]
  split
  · next q left hq =>
    rw [h] at hq
    cases hq
    rfl
  · next hnot => exact absurd h (hnot p rest)

/-- Nothing is taken where no packet stands at the start. -/
theorem takeFrames_of_not_packet {d : Decoder} (h : ∀ p, d.next.1 ≠ .ok (some p)) :
    takeFrames d = ([], d) := by
  rw [takeFrames]
  split
  · next p rest hp => exact absurd (congrArg Prod.fst hp) (h p)
  · rfl

/-- The frames of packets, with something behind them that is no whole frame, are read back as these
packets, and the rest is left. -/
theorem takeFrames_append {packets : List Packet} (h : ∀ p ∈ packets, p.Sendable) {rest : Bytes}
    (hrest : decode rest = .ok none) :
    takeFrames ⟨packets.flatMap frame ++ rest⟩ = (packets, ⟨rest⟩) := by
  induction packets with
  | nil =>
    refine takeFrames_of_not_packet fun p => ?_
    rw [List.flatMap_nil, List.nil_append, next]
    simp [hrest]
  | cons p more ih =>
    have hnext : next ⟨(p :: more).flatMap frame ++ rest⟩ =
        (.ok (some p), ⟨more.flatMap frame ++ rest⟩) := by
      simp only [next, List.flatMap_cons, List.append_assoc,
        decode_frame (h p (List.mem_cons_self ..))]
    rw [takeFrames_of_packet hnext, ih fun q hq => h q (List.mem_cons_of_mem _ hq)]

/-- The frames of packets are read back as these packets, to the last byte. -/
theorem takeFrames_frames {packets : List Packet} (h : ∀ p ∈ packets, p.Sendable) :
    takeFrames ⟨packets.flatMap frame⟩ = (packets, {}) := by
  have hnothing : takeFrames ⟨packets.flatMap frame ++ []⟩ = (packets, ⟨[]⟩) :=
    takeFrames_append h (decode_of_length_lt (by decide))
  rwa [List.append_nil] at hnothing

end Courier.Packet.Decoder
