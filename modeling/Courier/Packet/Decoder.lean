import Courier.Packet.Frame

/-! Packets from a stream of bytes.

The decoder keeps the bytes that are not read yet. `next` reads frames and leaves a damaged buffer
as it is. `nextLenient` reads a damaged buffer as one packet and always empties it then, so that a
stream can go on after bytes that make no sense. -/
namespace Courier.Packet

/-- The bytes that came and are not read yet. -/
structure Decoder where
  buffer : Bytes := []
  deriving DecidableEq, Repr

namespace Decoder

/-- Puts bytes behind those that are there. -/
def extend (d : Decoder) (bs : Bytes) : Decoder := ⟨d.buffer ++ bs⟩

/-- How many bytes wait to be read. -/
def buffered (d : Decoder) : Nat := d.buffer.length

/-- Reads the next packet, strictly. Only a packet takes bytes away. -/
def next (d : Decoder) : Except Error (Option Packet) × Decoder :=
  match decode d.buffer with
  | .ok (some (p, rest)) => (.ok (some p), ⟨rest⟩)
  | .ok none => (.ok none, d)
  | .error e => (.error e, d)

/-- Reads the next packet. Where the strict reading fails, all of the buffer is read as one packet,
and nothing is left of it either way. -/
def nextLenient (d : Decoder) : Except Error (Option Packet) × Decoder :=
  match decode d.buffer with
  | .ok (some (p, rest)) => (.ok (some p), ⟨rest⟩)
  | .ok none => (.ok none, d)
  | .error _ => ((parse d.buffer).map some, ⟨[]⟩)

/-! ### Both ways of reading use up bytes -/

theorem length_rest {bs rest : Bytes} {p : Packet} (h : decode bs = .ok (some (p, rest))) :
    rest.length < bs.length := by
  unfold decode at h
  split at h
  · grind
  · simp at h

theorem ne_nil_of_error {bs : Bytes} {e : Error} (h : decode bs = .error e) : bs ≠ [] := by
  rintro rfl
  simp [decode] at h

/-- Whatever lenient reading gives, a packet or an error, it used up some bytes. -/
theorem buffered_nextLenient {d : Decoder} (h : (d.nextLenient).1 ≠ .ok none) :
    (d.nextLenient).2.buffered < d.buffered := by
  unfold nextLenient at h ⊢
  split at h
  · next p rest hd => exact length_rest hd
  · simp at h
  · next e hd =>
    have := ne_nil_of_error hd
    simp [buffered, List.length_pos_iff, this]

end Decoder
end Courier.Packet
