import Courier.Link.Connection
import Courier.Proofs.Link.Writing
import Courier.Proofs.Packet.Segmentation

/-! What reaches a server of the packets that are sent to it.

The stream may take few bytes at a time, and after some bytes it may fail for good. What it took
then is the start of all frames one after the other, of which the last may be torn
(`written_performAll`). A sending succeeds just when its frame came through whole
(`answer_performAll`), and a torn frame is to a reader a frame that is not there yet, so a server
that reads strictly finds the packets of the sendings that succeeded and nothing else
(`sent_frames_arrive`). -/
namespace Courier.Link

open Packet (decode frame)
open Packet.Decoder (Reading takeFrames)

/-- What a client may send. -/
inductive Sending where
  | login
  | command (code : UInt8) (peer : String) (message : Bytes)
  | packet (packet : Packet)
  deriving DecidableEq, Repr

/-- The packet that is sent. -/
def Sending.toPacket (host : String) : Sending → Packet
  | .login => .login host
  | .command code peer message => .text code peer message
  | .packet p => p

/-- The frame that a packet is sent in; nothing if it cannot be built. -/
def wire (capacity : Nat) (p : Packet) : Bytes := (p.build capacity).toOption.getD []

/-- The frames of all sendings one after the other. -/
def wires (config : Config) (sendings : List Sending) : Bytes :=
  sendings.flatMap fun s => wire config.bufferSize (s.toPacket config.host)

/-- What sendings answered, and the bytes that they put on the stream. -/
structure Transcript where
  answers : List (Except Error Nat)
  written : Bytes

namespace Connection

/-- One of the three calls by which a packet is sent. -/
def perform (c : Connection) : Sending → Step Nat
  | .login => c.sendLogin
  | .command code peer message => c.send (.text code peer message)
  | .packet p => c.send p

/-- The calls one after the other, each on the connection that the last has left. -/
def performAll (c : Connection) : List Sending → Transcript
  | [] => ⟨[], []⟩
  | s :: rest =>
    let step := c.perform s
    let more := step.connection.performAll rest
    ⟨step.answer :: more.answers, step.written ++ more.written⟩

/-! ### One sending -/

theorem perform_eq (c : Connection) (s : Sending) :
    c.perform s = c.send (s.toPacket c.config.host) := by
  cases s <;> rfl

theorem transmit_of_build_error {capacity : Nat} {sink : Sink} {p : Packet} {e : Packet.Error}
    (h : p.build capacity = .error e) :
    transmit capacity sink p = ⟨[], .error (.packet e), sink⟩ := by
  simp only [transmit, h]

/-- Of a packet that is built as much is written as the stream takes, and the answer is the size of
the frame if that is all. -/
theorem transmit_of_build {capacity : Nat} {sink : Sink} (hwrite : sink.perWrite ≠ some 0)
    {p : Packet} {bs : Bytes} (h : p.build capacity = .ok bs) :
    transmit capacity sink p =
      ⟨bs.take (sink.takes bs.length),
        if sink.takes bs.length = bs.length then .ok bs.length else .error (.io sink.shortage),
        sink.spend (sink.takes bs.length)⟩ := by
  simp only [transmit, h, Sink.writeAll_eq hwrite]
  by_cases hall : sink.takes bs.length = bs.length
  · simp only [hall, if_true, List.take_length]
  · simp only [hall, if_false]

/-- The frame of a sending on a connection. -/
abbrev frameOf (c : Connection) (s : Sending) : Bytes :=
  wire c.config.bufferSize (s.toPacket c.config.host)

theorem wire_of_build {capacity : Nat} {p : Packet} {bs : Bytes} (h : p.build capacity = .ok bs) :
    wire capacity p = bs := by
  rw [wire, h]
  rfl

theorem wire_of_build_error {capacity : Nat} {p : Packet} {e : Packet.Error}
    (h : p.build capacity = .error e) : wire capacity p = [] := by
  rw [wire, h]
  rfl

/-- Of the frame the stream gets what it takes, and nothing else changes. -/
theorem perform_effect {c : Connection} (hwrite : c.sink.perWrite ≠ some 0) (s : Sending) :
    (c.perform s).written = (c.frameOf s).take (c.sink.takes (c.frameOf s).length) ∧
      (c.perform s).connection =
        { c with sink := c.sink.spend (c.sink.takes (c.frameOf s).length) } := by
  rw [perform_eq, send]
  cases hb : (s.toPacket c.config.host).build c.config.bufferSize with
  | error e =>
    rw [frameOf, wire_of_build_error hb, transmit_of_build_error hb, List.length_nil,
      Nat.le_zero.1 (c.sink.takes_le 0), Sink.spend_zero]
    exact ⟨rfl, rfl⟩
  | ok bs =>
    rw [frameOf, wire_of_build hb, transmit_of_build hwrite hb]
    exact ⟨rfl, rfl⟩

/-- A call succeeds if its packet can be built and the stream takes all of the frame. -/
theorem perform_answer {c : Connection} (hwrite : c.sink.perWrite ≠ some 0) {s : Sending}
    {size : Nat} : (c.perform s).answer = .ok size ↔
      ∃ bs, (s.toPacket c.config.host).build c.config.bufferSize = .ok bs ∧ size = bs.length ∧
        c.sink.takes (c.frameOf s).length = (c.frameOf s).length := by
  rw [perform_eq, send]
  cases hb : (s.toPacket c.config.host).build c.config.bufferSize with
  | error e => simp [transmit_of_build_error hb]
  | ok bs =>
    rw [frameOf, wire_of_build hb, transmit_of_build hwrite hb]
    by_cases hall : c.sink.takes bs.length = bs.length
    · simp [hall, eq_comm]
    · simp [hall]

/-! ### Sendings one after the other -/

theorem wires_cons (config : Config) (s : Sending) (rest : List Sending) :
    wires config (s :: rest) =
      wire config.bufferSize (s.toPacket config.host) ++ wires config rest :=
  List.flatMap_cons

theorem wires_singleton (config : Config) (s : Sending) :
    wires config [s] = wire config.bufferSize (s.toPacket config.host) := by
  rw [wires_cons]
  exact List.append_nil _

/-- The bytes on the stream are the first of all frames, as many as the stream takes. -/
theorem written_performAll {c : Connection} (hwrite : c.sink.perWrite ≠ some 0)
    (sendings : List Sending) :
    (c.performAll sendings).written =
      (wires c.config sendings).take (c.sink.takes (wires c.config sendings).length) := by
  induction sendings generalizing c with
  | nil => simp [performAll, wires]
  | cons s rest ih =>
    obtain ⟨hwritten, hconnection⟩ := perform_effect hwrite s
    have hrest : ((c.perform s).connection.performAll rest).written =
        (wires c.config rest).take ((c.sink.spend (c.sink.takes (c.frameOf s).length)).takes
          (wires c.config rest).length) := by
      rw [hconnection]
      exact ih hwrite
    rw [performAll, hwritten, hrest, wires_cons, List.length_append, Sink.takes_add]
    by_cases hall : c.sink.takes (c.frameOf s).length = (c.frameOf s).length
    · rw [hall, List.take_length, List.take_length_add_append]
    · have hle := c.sink.takes_le (c.frameOf s).length
      rw [Sink.takes_spend_of_short hall, List.take_zero, List.append_nil, Nat.add_zero,
        List.take_append_of_le_length hle]

theorem length_answers (c : Connection) (sendings : List Sending) :
    (c.performAll sendings).answers.length = sendings.length := by
  induction sendings generalizing c with
  | nil => rfl
  | cons s rest ih => rw [performAll, List.length_cons, List.length_cons, ih]

theorem length_wires_take_le (config : Config) (sendings : List Sending) (n : Nat) :
    (wires config (sendings.take n)).length ≤ (wires config sendings).length := by
  have hcut : wires config sendings =
      wires config (sendings.take n) ++ wires config (sendings.drop n) := by
    rw [wires, wires, wires, ← List.flatMap_append, List.take_append_drop]
  rw [hcut, List.length_append]
  exact Nat.le_add_right ..

theorem mem_take_succ {sendings : List Sending} {s : Sending} {i : Nat}
    (h : sendings[i]? = some s) : s ∈ sendings.take (i + 1) :=
  List.mem_of_getElem? ((List.getElem?_take_of_lt (Nat.lt_succ_self i)).trans h)

theorem length_wires_ne_zero {config : Config} {sendings : List Sending} {s : Sending} {bs : Bytes}
    (hs : s ∈ sendings) (hb : (s.toPacket config.host).build config.bufferSize = .ok bs) :
    (wires config sendings).length ≠ 0 := by
  obtain ⟨-, -, rfl⟩ := Packet.build_eq_ok_iff.1 hb
  intro hzero
  have hnil := List.flatMap_eq_nil_iff.1 (List.eq_nil_of_length_eq_zero hzero) s hs
  exact Packet.frame_ne_nil _ ((wire_of_build hb).symm.trans hnil)

/-- A sending succeeds just when its packet can be built and the stream takes everything up to the
end of its frame. -/
theorem answer_performAll {c : Connection} (hwrite : c.sink.perWrite ≠ some 0)
    (sendings : List Sending) (i size : Nat) :
    (c.performAll sendings).answers[i]? = some (.ok size) ↔
      ∃ s bs, sendings[i]? = some s ∧
        (s.toPacket c.config.host).build c.config.bufferSize = .ok bs ∧ size = bs.length ∧
        c.sink.takes (wires c.config (sendings.take (i + 1))).length =
          (wires c.config (sendings.take (i + 1))).length := by
  induction sendings generalizing c i with
  | nil => simp [performAll]
  | cons s rest ih =>
    obtain ⟨-, hconnection⟩ := perform_effect hwrite s
    cases i with
    | zero =>
      simp only [performAll, List.getElem?_cons_zero, Option.some.injEq, perform_answer hwrite,
        List.take_succ_cons, List.take_zero, wires_singleton]
      constructor
      · rintro ⟨bs, hb, hsize, hall⟩
        exact ⟨s, bs, rfl, hb, hsize, hall⟩
      · rintro ⟨_, bs, rfl, hb, hsize, hall⟩
        exact ⟨bs, hb, hsize, hall⟩
    | succ i =>
      simp only [performAll, List.getElem?_cons_succ, List.take_succ_cons, wires_cons,
        List.length_append]
      have hwrite' : (c.perform s).connection.sink.perWrite ≠ some 0 := by
        rw [hconnection]
        exact hwrite
      rw [ih hwrite', hconnection]
      refine exists_congr fun t => exists_congr fun bs => and_congr_right fun ht =>
        and_congr_right fun hb => and_congr_right fun _ => ?_
      exact (Sink.takes_add_eq_iff (length_wires_ne_zero (mem_take_succ ht) hb)).symm

/-! ### What is read of it -/

/-- The packets of the sendings that succeeded. -/
def succeeded (host : String) (sendings : List Sending) (answers : List (Except Error Nat)) :
    List Packet :=
  (sendings.zip answers).filterMap fun (s, answer) => answer.toOption.map fun _ => s.toPacket host

theorem succeeded_cons_ok (host : String) (s : Sending) (rest : List Sending) (size : Nat)
    (answers : List (Except Error Nat)) : succeeded host (s :: rest) (.ok size :: answers) =
      s.toPacket host :: succeeded host rest answers := rfl

theorem succeeded_cons_error (host : String) (s : Sending) (rest : List Sending) (e : Error)
    (answers : List (Except Error Nat)) :
    succeeded host (s :: rest) (.error e :: answers) = succeeded host rest answers := rfl

/-- Behind the end of its budget a stream gets nothing, and nothing succeeds. -/
theorem performAll_of_spent {c : Connection} (hwrite : c.sink.perWrite ≠ some 0)
    (hspent : ∀ n, c.sink.takes n = 0) (sendings : List Sending) :
    (c.performAll sendings).written = [] ∧
      succeeded c.config.host sendings (c.performAll sendings).answers = [] := by
  constructor
  · rw [written_performAll hwrite, hspent, List.take_zero]
  · refine List.filterMap_eq_nil_iff.2 fun (s, answer) hmem => ?_
    cases answer with
    | error e => rfl
    | ok size =>
      obtain ⟨i, hi⟩ := List.mem_iff_getElem?.1 (List.of_mem_zip hmem).2
      obtain ⟨t, bs, ht, hb, -, hall⟩ := (answer_performAll hwrite sendings i size).1 hi
      rw [hspent] at hall
      exact absurd hall.symm (length_wires_ne_zero (mem_take_succ ht) hb)

/-- On the stream are the frames of what succeeded, and at most the start of one more frame. -/
theorem written_eq_frames {c : Connection} (hwrite : c.sink.perWrite ≠ some 0)
    (sendings : List Sending) :
    ∃ torn, (c.performAll sendings).written =
        (succeeded c.config.host sendings (c.performAll sendings).answers).flatMap frame ++ torn ∧
      decode torn = .ok none ∧
      ∀ p ∈ succeeded c.config.host sendings (c.performAll sendings).answers, p.Sendable := by
  induction sendings generalizing c with
  | nil => exact ⟨[], rfl, Packet.decode_of_length_lt (by decide), by simp [succeeded]⟩
  | cons s rest ih =>
    obtain ⟨hwritten, hconnection⟩ := perform_effect hwrite s
    have hwrite' : (c.perform s).connection.sink.perWrite ≠ some 0 := by
      rw [hconnection]
      exact hwrite
    have hconfig : (c.perform s).connection.config = c.config := by rw [hconnection]
    obtain ⟨torn, hmore, htorn, hsends⟩ := ih hwrite'
    rw [hconfig] at hmore hsends
    cases hanswer : (c.perform s).answer with
    | ok size =>
      obtain ⟨bs, hb, -, hall⟩ := (perform_answer hwrite).1 hanswer
      obtain ⟨-, hsend, rfl⟩ := Packet.build_eq_ok_iff.1 hb
      rw [performAll, hanswer, succeeded_cons_ok]
      refine ⟨torn, ?_, htorn, List.forall_mem_cons.2 ⟨hsend, hsends⟩⟩
      rw [hwritten, hall, List.take_length, frameOf, wire_of_build hb, hmore, List.flatMap_cons,
        List.append_assoc]
    | error e =>
      rw [performAll, hanswer, succeeded_cons_error]
      cases hb : (s.toPacket c.config.host).build c.config.bufferSize with
      | error _ =>
        refine ⟨torn, ?_, htorn, hsends⟩
        rw [hwritten, frameOf, wire_of_build_error hb, List.take_nil, hmore, List.nil_append]
      | ok bs =>
        obtain ⟨-, hsend, rfl⟩ := Packet.build_eq_ok_iff.1 hb
        have hframe : c.frameOf s = (s.toPacket c.config.host).frame := wire_of_build hb
        have hshort : c.sink.takes (c.frameOf s).length ≠ (c.frameOf s).length := fun hall => by
          have hok := (perform_answer hwrite).2 ⟨_, hb, rfl, hall⟩
          rw [hanswer] at hok
          cases hok
        -- the frame is torn, and as the budget is used up nothing comes behind it
        obtain ⟨hnothing, hnone⟩ := performAll_of_spent hwrite'
          (by rw [hconnection]; exact Sink.takes_spend_of_short hshort) rest
        rw [hconfig] at hnone
        rw [hnone, hwritten, hnothing, List.append_nil]
        refine ⟨_, rfl, Packet.decode_start hsend ?_ ?_, by simp⟩
        · rw [hframe]
          exact List.take_prefix ..
        · rw [← hframe, List.length_take]
          have hle := c.sink.takes_le (c.frameOf s).length
          omega

/-- **Frames survive short writes and a stream that fails**: on the stream are the first bytes of
the frames of all sendings whose packets can be built, as many as it takes; a sending succeeds, with
the size of its frame, just when its packet can be built and its frame is among those bytes up to
its end; and from those bytes, in any pieces, a strict reader gets the packets of the sendings that
succeeded, and then nothing. -/
theorem sent_frames_arrive {c : Connection} (hwrite : c.sink.perWrite ≠ some 0)
    (sendings : List Sending) :
    let sent := c.performAll sendings
    let all := wires c.config sendings
    (sent.written = match c.sink.budget with
      | some (n, _) => all.take (min n all.length)
      | none => all) ∧
    sent.answers.length = sendings.length ∧
    (∀ i size, sent.answers[i]? = some (.ok size) ↔
      ∃ s bs, sendings[i]? = some s ∧
        (s.toPacket c.config.host).build c.config.bufferSize = .ok bs ∧ size = bs.length ∧
        (wires c.config (sendings.take (i + 1))).length ≤ sent.written.length) ∧
    ∀ pieces, pieces.flatten = sent.written →
      (Reading.ofPieces pieces).packets = succeeded c.config.host sendings sent.answers ∧
        (Reading.ofPieces pieces).outcome = .ok none := by
  intro sent all
  have hwritten : sent.written = all.take (c.sink.takes all.length) :=
    written_performAll hwrite sendings
  refine ⟨?_, length_answers c sendings, fun i size => ?_, fun pieces hpieces => ?_⟩
  · rw [hwritten, Sink.takes]
    cases c.sink.budget with
    | none => exact List.take_length
    | some b => rfl
  · have hlength : sent.written.length = c.sink.takes all.length := by
      rw [hwritten, List.length_take, Nat.min_eq_left (c.sink.takes_le _)]
    have hpart := length_wires_take_le c.config sendings (i + 1)
    -- the frame went through whole when all up to its end is written
    have hall : c.sink.takes (wires c.config (sendings.take (i + 1))).length =
        (wires c.config (sendings.take (i + 1))).length ↔
          (wires c.config (sendings.take (i + 1))).length ≤ sent.written.length := by
      rw [hlength]
      exact ⟨fun h => h ▸ c.sink.takes_le_takes hpart, Sink.takes_of_le⟩
    rw [← hall]
    exact answer_performAll hwrite sendings i size
  · obtain ⟨torn, hframes, htorn, hsends⟩ := written_eq_frames hwrite sendings
    have hread := Reading.ofPieces_frames hsends htorn (hpieces.trans hframes)
    rw [hread]
    exact ⟨rfl, rfl⟩

/-- A login, a packet that does not fit, and a message whose frame is torn after eight of its twelve
bytes, on a stream that takes three bytes at a time. -/
theorem sent_frames_arrive_torn :
    let c : Connection :=
      { config := { address := "server", host := "C2", bufferSize := 64 }, inbox := [],
        sink := { perWrite := some 3, budget := some (20, .takesNothing) } }
    let sendings : List Sending :=
      [.login, .packet ⟨66, "a", List.replicate 60 7⟩, .command 65 "p" [72]]
    let sent := c.performAll sendings
    c.sink.perWrite ≠ some 0 ∧
      sent.written = [0, 1, 3, 0, 0, 0, 117, 121, 0, 67, 50, 0, 65, 2, 2, 0, 0, 0, 184, 253] ∧
      sent.answers[0]? = some (.ok 12) ∧ (∀ size, sent.answers[2]? ≠ some (.ok size)) ∧
      (Reading.ofPieces [sent.written.take 13, sent.written.drop 13]).outcome = .ok none := by
  intro c sendings sent
  have hwrite : c.sink.perWrite ≠ some 0 := by decide
  obtain ⟨hwritten, -, hanswers, hread⟩ := sent_frames_arrive hwrite sendings
  have hbytes : sent.written =
      [0, 1, 3, 0, 0, 0, 117, 121, 0, 67, 50, 0, 65, 2, 2, 0, 0, 0, 184, 253] := by
    refine hwritten.trans ?_
    simp only [c, sendings]
    decide
  have hlogin : (wires c.config (sendings.take 1)).length ≤ sent.written.length := by
    rw [hbytes]
    simp only [c, sendings]
    decide
  have htorn : ¬(wires c.config (sendings.take 3)).length ≤ sent.written.length := by
    rw [hbytes]
    simp only [c, sendings]
    decide
  have hbuild : (Packet.login "C2").build 64 = .ok (Packet.login "C2").frame :=
    Packet.build_eq_ok_iff.2 ⟨by decide, ⟨by decide, by decide, by decide⟩, rfl⟩
  refine ⟨hwrite, hbytes, (hanswers 0 12).2 ⟨.login, _, rfl, hbuild, by decide, hlogin⟩,
    fun size h => ?_, (hread _ ?_).2⟩
  · obtain ⟨_, _, -, -, -, hle⟩ := (hanswers 2 size).1 h
    exact htorn hle
  · simp [sent]

end Connection
end Courier.Link
