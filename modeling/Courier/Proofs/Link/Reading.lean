import Courier.Proofs.Link.Story
import Mathlib.Algebra.GroupWithZero.Nat

/-! Packets that are read one after another.

`packetsRead` reads from a connection until there is nothing more to read, and skips what is no
packet. A conversation settles instead what has arrived, before it looks at the next arrival. Both
come upon the same packets (`packetsRead_eq`). -/
namespace Courier.Link

open Packet (Decoder)
open Conversation (Occurrence occurrences)

namespace Arrival

/-- How many bytes an arrival brings. -/
def size : Arrival → Nat
  | .bytes bs => bs.length
  | _ => 0

end Arrival

/-- Bytes that are not read yet, buffered or still to come. -/
def unread (d : Decoder) (inbox : List Arrival) : Nat := d.buffered + (inbox.map Arrival.size).sum

namespace Connection

/-! ### One read -/

theorem nextLenient_none {d e : Decoder} (h : d.nextLenient = (.ok none, e)) : e = d := by
  unfold Decoder.nextLenient at h
  split at h
  · cases h
  · cases h
    rfl
  · cases hp : Packet.parse d.buffer <;> simp [hp, Except.map] at h

theorem readFrom_of_error {d e : Decoder} {error : Packet.Error}
    (h : d.nextLenient = (.error error, e)) (inbox : List Arrival) :
    readFrom d inbox = (.error (.packet error), e, inbox) := by
  rw [readFrom.eq_def, h]

theorem readFrom_of_some {d e : Decoder} {p : Packet} (h : d.nextLenient = (.ok (some p), e))
    (inbox : List Arrival) : readFrom d inbox = (.ok (some p), e, inbox) := by
  rw [readFrom.eq_def, h]

theorem readFrom_bytes {d : Decoder} (h : d.nextLenient = (.ok none, d)) (bs : Bytes)
    (rest : List Arrival) : readFrom d (.bytes bs :: rest) = readFrom (d.extend bs) rest := by
  rw [readFrom.eq_def, h]

theorem readFrom_line {d : Decoder} (h : d.nextLenient = (.ok none, d)) (text : String)
    (rest : List Arrival) : readFrom d (.line text :: rest) = readFrom d rest := by
  rw [readFrom.eq_def, h]

/-- A packet, or bytes that are none, use up bytes. -/
theorem unread_readFrom (d : Decoder) (inbox : List Arrival) :
    (∃ p, (readFrom d inbox).1 = .ok (some p)) ∨ (∃ e, (readFrom d inbox).1 = .error (.packet e)) →
    unread (readFrom d inbox).2.1 (readFrom d inbox).2.2 < unread d inbox := by
  have hfound : ∀ {d e : Decoder} {found}, d.nextLenient = (found, e) → found ≠ .ok none →
      ∀ inbox, unread e inbox < unread d inbox := fun {d _ _} h hne inbox => by
    have hless := Decoder.buffered_nextLenient (d := d) (by rwa [h])
    rw [h] at hless
    exact Nat.add_lt_add_right hless _
  fun_induction readFrom d inbox with
  | case1 d error e inbox h => exact fun _ => hfound h (by simp) inbox
  | case2 d p e inbox h => exact fun _ => hfound h (by simp) inbox
  | case3 d rest h => simp
  | case4 d e rest h => simp
  | case5 d fault rest e h => simp
  | case6 d e bs rest h ih =>
    obtain rfl := nextLenient_none h
    have hmoved : unread (e.extend bs) rest = unread e (.bytes bs :: rest) := by
      simp [unread, Decoder.extend, Decoder.buffered, Arrival.size, Nat.add_assoc]
    exact hmoved ▸ ih
  | case7 d e text rest h ih =>
    obtain rfl := nextLenient_none h
    have hmoved : unread e rest = unread e (.line text :: rest) := by simp [unread, Arrival.size]
    exact hmoved ▸ ih

/-- The packets that reading gives, up to the end of the stream. -/
def packetsRead (d : Decoder) (inbox : List Arrival) : List Packet :=
  match _h : readFrom d inbox with
  | (.ok (some p), e, rest) => p :: packetsRead e rest
  | (.error (.packet _), e, rest) => packetsRead e rest
  | _ => []
termination_by unread d inbox
decreasing_by
  · have := unread_readFrom d inbox (by rw [_h]; simp)
    simpa [_h] using this
  · have := unread_readFrom d inbox (by rw [_h]; simp)
    simpa [_h] using this

/-! ### Reading and settling -/

theorem packetsRead_of_error {d e : Decoder} {error : Packet.Error}
    (h : d.nextLenient = (.error error, e)) (inbox : List Arrival) :
    packetsRead d inbox = packetsRead e inbox := by
  rw [packetsRead]
  split <;> simp_all [readFrom_of_error h inbox]

theorem packetsRead_of_some {d e : Decoder} {p : Packet} (h : d.nextLenient = (.ok (some p), e))
    (inbox : List Arrival) : packetsRead d inbox = p :: packetsRead e inbox := by
  rw [packetsRead]
  split <;> simp_all [readFrom_of_some h inbox]

theorem packetsRead_congr {d e : Decoder} {inbox rest : List Arrival}
    (h : readFrom d inbox = readFrom e rest) : packetsRead d inbox = packetsRead e rest := by
  rw [packetsRead, packetsRead.eq_def e, h]

/-- What is buffered is read first. -/
theorem packetsRead_drain (d : Decoder) (inbox : List Arrival) :
    packetsRead d inbox = d.drain.1 ++ packetsRead d.drain.2 inbox := by
  fun_induction Decoder.drain d with
  | case1 d e h => rfl
  | case2 d error e h ih => rw [packetsRead_of_error h, ih]
  | case3 d p e h ih => rw [packetsRead_of_some h, ih, List.cons_append]

theorem nextLenient_drain (d : Decoder) : d.drain.2.nextLenient = (.ok none, d.drain.2) := by
  fun_induction Decoder.drain d with
  | case1 d e h =>
    obtain rfl := nextLenient_none h
    exact h
  | case2 d error e h ih => exact ih
  | case3 d p e h ih => exact ih

end Connection

/-- The packet, if it is one that occurs. -/
def Conversation.Occurrence.packet? : Occurrence → Option Packet
  | .packet p => some p
  | .line _ => none

namespace Connection

theorem filterMap_packet? (packets : List Packet) :
    (packets.map Occurrence.packet).filterMap Occurrence.packet? = packets := by
  rw [List.filterMap_map]
  exact List.filterMap_some

/-- Behind a decoder that finds nothing, reading comes upon the packets among the occurrences. -/
theorem packetsRead_eq {d : Decoder} (h : d.nextLenient = (.ok none, d)) (inbox : List Arrival) :
    packetsRead d inbox = (occurrences d inbox).filterMap Occurrence.packet? := by
  induction inbox generalizing d with
  | nil =>
    rw [packetsRead]
    simp [readFrom.eq_def, h, occurrences]
  | cons a rest ih =>
    cases a with
    | bytes bs =>
      rw [packetsRead_congr (readFrom_bytes h bs rest), packetsRead_drain, occurrences,
        List.filterMap_append, filterMap_packet?, ih (nextLenient_drain _)]
    | line text =>
      rw [packetsRead_congr (readFrom_line h text rest), occurrences, ih h]
      rfl
    | hangUp =>
      rw [packetsRead]
      simp [readFrom.eq_def, h, occurrences]
    | fault fault =>
      rw [packetsRead]
      simp [readFrom.eq_def, h, occurrences]

end Connection
end Courier.Link
