import Courier.Proofs.Link.Sending

/-! What a packet is refused for, and what a connection never refuses.

Four limits stand between a packet and its frame: the capacity of the buffer, and those of the name
and of the data. They are looked at in a fixed order, and the first one that is passed is what
building fails with (`build_eq`). A packet that passes none has a frame of just the size announced.

The capacity of a connection is at most as large as the largest data, and a frame is larger than its
data. So data that are too large never come as far as their own limit (`not_dataTooLarge`). -/
namespace Courier.Packet

/-- An error, if what it says holds. -/
def Error.when (e : Error) (holds : Prop) [Decidable holds] : List Error :=
  if holds then [e] else []

/-- All that is wrong with a packet for a buffer of this capacity, in the order of the checks. -/
def faults (p : Packet) (capacity : Nat) : List Error :=
  let nameSize := (Text.utf8 p.peer).length
  let dataSize := p.payload.length
  (Error.bufferTooSmall p.size capacity).when (capacity < p.size) ++
  Error.invalidPeerName.when ('\x00' ∈ p.peer.toList) ++
  (Error.peerNameTooLong nameSize).when (maxPeerSize < nameSize) ++
  (Error.dataTooLarge dataSize).when (maxPayloadSize < dataSize)

/-- Building fails with the first fault, and without one it gives the frame. -/
theorem build_eq (p : Packet) (capacity : Nat) :
    p.build capacity = match (p.faults capacity).head? with
      | some e => .error e
      | none => .ok p.frame := by
  simp only [build, encode, faults, Text.zero_mem_utf8_iff]
  by_cases hsize : capacity < p.size
  · simp [hsize, Error.when]
  by_cases hfree : '\x00' ∈ p.peer.toList
  · simp [hsize, hfree, Error.when]
  by_cases hname : maxPeerSize < (Text.utf8 p.peer).length
  · simp [hsize, hfree, hname, Error.when]
  by_cases hpayload : maxPayloadSize < p.payload.length
  · simp [hsize, hfree, hname, hpayload, Error.when]
  · simp [hsize, hfree, hname, hpayload, Error.when]

theorem build_eq_error_iff {p : Packet} {capacity : Nat} {e : Error} :
    p.build capacity = .error e ↔ (p.faults capacity).head? = some e := by
  rw [build_eq]
  cases (p.faults capacity).head? with
  | none => simp
  | some first => simp

/-- A frame has the size that its packet announces. -/
theorem length_frame (p : Packet) : p.frame.length = p.size := by
  rw [frame_eq_append, List.length_append, length_header, length_body, size]
  omega

/-- A frame that was built for a text message is read back as the packet of that message. -/
theorem decode_of_build_text {command : UInt8} {peer : String} {message bs : Bytes} {capacity : Nat}
    (h : (text command peer message).build capacity = .ok bs) :
    ∃ p, decode bs = .ok (some (p, [])) ∧ p.command = command ∧ p.peer = peer ∧
      p.message = message := by
  obtain ⟨-, hsend, rfl⟩ := build_eq_ok_iff.1 h
  have hdecode := decode_frame hsend []
  rw [List.append_nil] at hdecode
  exact ⟨_, hdecode, rfl, rfl, message_text command peer message⟩

/-- Within the largest capacity a packet with too many data is refused for its size before its data
are looked at. -/
theorem build_ne_dataTooLarge {capacity : Nat} (hcapacity : capacity ≤ maxPayloadSize + headerSize)
    (p : Packet) (n : Nat) : p.build capacity ≠ .error (.dataTooLarge n) := by
  intro h
  have hfit : p.size ≤ capacity := by
    unfold build at h
    split at h
    · cases h
    · omega
  have hpayload : ¬maxPayloadSize < p.payload.length := by
    rw [size] at hfit
    omega
  have hfirst := List.mem_of_head? (build_eq_error_iff.1 h)
  simp [faults, Error.when, hpayload] at hfirst

end Courier.Packet

namespace Courier.Link.Connection

open Packet (decode maxPayloadSize)

theorem bufferSize_withBufferSize_le (config : Config) (size : Nat) :
    (config.withBufferSize size).bufferSize ≤ maxBufferSize :=
  Nat.max_le.2 ⟨by decide, Nat.min_le_left ..⟩

theorem config_perform (c : Connection) (s : Sending) :
    (c.perform s).connection.config = c.config := by
  cases s <;> rfl

/-- A sending fails with what its packet cannot be built for, or with what the stream fails with. -/
theorem build_of_perform_error {c : Connection} {s : Sending} {e : Packet.Error}
    (h : (c.perform s).answer = .error (.packet e)) :
    (s.toPacket c.config.host).build c.config.bufferSize = .error e := by
  rw [perform_eq] at h
  simp only [send, transmit] at h
  split at h
  · next first hbuild =>
    cases h
    exact hbuild
  · split at h
    · cases h
    · cases h

theorem not_dataTooLarge {c : Connection} (hcapacity : c.config.bufferSize ≤ maxBufferSize)
    (sendings : List Sending) (n : Nat) :
    .error (.packet (.dataTooLarge n)) ∉ (c.performAll sendings).answers := by
  induction sendings generalizing c with
  | nil => exact List.not_mem_nil
  | cons s rest ih =>
    intro h
    apply (List.mem_cons.1 h).elim
    · intro hanswer
      have hlimit : maxBufferSize ≤ maxPayloadSize + Packet.headerSize := by decide
      exact Packet.build_ne_dataTooLarge (by omega) _ n (build_of_perform_error hanswer.symm)
    · apply ih
      rw [config_perform]
      exact hcapacity

/-- **Building takes exactly what fits**: packets that take at most the capacity, with no NUL and at
most 254 bytes in the name, and at most 65535 bytes of data. The frame has the size announced.
Everything else is refused for the first thing that is wrong with it. What is built for a login or
for a message is read back as that message, also if it is empty or ends in NUL. And whatever buffer
size is asked for, nothing that is sent, on a connection in any state and with any stream, is ever
refused for too large data. -/
theorem building_takes_what_fits :
    (∀ (p : Packet) (capacity : Nat),
      ((∃ bs, p.build capacity = .ok bs) ↔ p.size ≤ capacity ∧ '\x00' ∉ p.peer.toList ∧
        (Text.utf8 p.peer).length ≤ 254 ∧ p.payload.length ≤ 65535) ∧
      (∀ bs, p.build capacity = .ok bs → bs.length = p.size) ∧
      ∀ e, p.build capacity = .error e ↔ (p.faults capacity).head? = some e) ∧
    (∀ (host : String) (capacity : Nat) (bs : Bytes),
      (Packet.login host).build capacity = .ok bs →
        ∃ p, decode bs = .ok (some (p, [])) ∧ p.command = Packet.loginCommand ∧ p.peer = "" ∧
          p.message = Text.utf8 host) ∧
    (∀ (command : UInt8) (peer : String) (message : Bytes) (capacity : Nat) (bs : Bytes),
      (Packet.text command peer message).build capacity = .ok bs →
        ∃ p, decode bs = .ok (some (p, [])) ∧ p.command = command ∧ p.peer = peer ∧
          p.message = message) ∧
    ∀ (c : Connection) (config : Config) (size : Nat), c.config = config.withBufferSize size →
      ∀ (sendings : List Sending) (n : Nat),
        .error (.packet (.dataTooLarge n)) ∉ (c.performAll sendings).answers := by
  refine ⟨fun p capacity => ⟨?_, ?_, fun e => Packet.build_eq_error_iff⟩, ?_, ?_, ?_⟩
  · simp only [Packet.build_eq_ok_iff, exists_and_left, exists_eq, and_true, Packet.sendable_iff]
    exact Iff.rfl
  · intro bs h
    obtain ⟨-, -, rfl⟩ := Packet.build_eq_ok_iff.1 h
    exact Packet.length_frame p
  · intro host capacity bs h
    exact Packet.decode_of_build_text h
  · intro command peer message capacity bs h
    exact Packet.decode_of_build_text h
  · intro c config size hconfig sendings n
    apply not_dataTooLarge
    rw [hconfig]
    exact bufferSize_withBufferSize_le config size

/-- A name with a NUL, for a buffer that is too small as well and for one that is not; an empty
message that just fits and one that ends in NUL; and, on a connection with the largest buffer, data
that are too large for any frame. -/
theorem building_takes_what_fits_bounds :
    let config : Config := ⟨"server", "C2", 2048⟩
    let c : Connection := { config := config.withBufferSize 10000000, inbox := [], sink := {} }
    let broken : Packet := ⟨65, "a\x00", [7]⟩
    let empty : Packet := .text 65 "" []
    broken.build 11 = .error (.bufferTooSmall 12 11) ∧
      broken.build 12 = .error .invalidPeerName ∧
      (∃ bs, empty.build 10 = .ok bs ∧ bs.length = 10 ∧
        ∃ p, decode bs = .ok (some (p, [])) ∧ p.message = []) ∧
      (∃ bs, (Packet.login "a\x00").build 64 = .ok bs ∧
        ∃ p, decode bs = .ok (some (p, [])) ∧ p.message = [97, 0]) ∧
      .error (.packet (.dataTooLarge 70000)) ∉
        (c.performAll [.packet ⟨65, "", List.replicate 70000 7⟩]).answers := by
  intro config c broken empty
  obtain ⟨hbuild, hlogin, htext, hsent⟩ := building_takes_what_fits
  obtain ⟨-, -, hrefused⟩ := hbuild broken 11
  obtain ⟨-, -, hnul⟩ := hbuild broken 12
  obtain ⟨hfits, hlength, -⟩ := hbuild empty 10
  obtain ⟨bs, hbs⟩ := hfits.2 (by decide)
  obtain ⟨login, hok⟩ := (hbuild (.login "a\x00") 64).1.2 (by decide)
  obtain ⟨p, hp, -, -, hempty⟩ := htext 65 "" [] 10 bs hbs
  obtain ⟨q, hq, -, -, hmessage⟩ := hlogin "a\x00" 64 login hok
  exact ⟨(hrefused _).2 (by decide), (hnul _).2 (by decide),
    ⟨bs, hbs, (hlength bs hbs).trans (by decide), p, hp, hempty⟩,
    ⟨login, hok, q, hq, hmessage.trans (by decide)⟩, hsent c config 10000000 rfl _ 70000⟩

end Courier.Link.Connection
