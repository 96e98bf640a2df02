import Courier.Proofs.Packet.Frame

/-! A stream of frames, read by a decoder.

Whoever holds a decoder feeds it bytes and reads from it, strictly or leniently, in any order
(`Call`). `Holds` is what stays true meanwhile: the buffer and the bytes that are still to be fed
are together the frames of the packets that are still to be delivered. It follows that no call
fails, that packets come in order, and that all of them have come when nothing is left to be fed
and a read finds nothing (`stream_delivers`). -/
namespace Courier.Packet.Decoder

/-! ### Calls -/

/-- What the holder of a decoder does with it. -/
inductive Call where
  | extend (bytes : Bytes)
  | next
  | nextLenient
  deriving DecidableEq, Repr

/-- What a read gives: a packet, none yet, or an error. -/
abbrev Answer := Except Error (Option Packet)

/-- The bytes that a call brings. -/
def Call.fed : Call → Bytes
  | .extend bs => bs
  | _ => []

/-- Whether a call reads. -/
def Call.isRead : Call → Bool
  | .extend _ => false
  | _ => true

/-- One call. Feeding has no answer. -/
def call (d : Decoder) : Call → Option Answer × Decoder
  | .extend bs => (none, d.extend bs)
  | .next => (some d.next.1, d.next.2)
  | .nextLenient => (some d.nextLenient.1, d.nextLenient.2)

/-- The answers of calls one after the other, and the decoder after them. -/
def run (d : Decoder) : List Call → List Answer × Decoder
  | [] => ([], d)
  | c :: rest =>
    let (answer, d) := d.call c
    let (answers, d) := run d rest
    (answer.toList ++ answers, d)

/-- All bytes that calls feed. -/
def fed (calls : List Call) : Bytes := calls.flatMap Call.fed

/-- The packet that was delivered, if one was. -/
def Answer.packet? : Answer → Option Packet
  | .ok p => p
  | .error _ => none

/-- The packets among the answers. -/
def delivered (answers : List Answer) : List Packet := answers.filterMap Answer.packet?

theorem run_cons (d : Decoder) (c : Call) (rest : List Call) :
    d.run (c :: rest) =
      ((d.call c).1.toList ++ ((d.call c).2.run rest).1, ((d.call c).2.run rest).2) := rfl

theorem Call.fed_of_isRead {c : Call} (h : c.isRead = true) : c.fed = [] := by
  cases c with
  | extend bs => exact absurd h (by simp [Call.isRead])
  | next => rfl
  | nextLenient => rfl

theorem fed_reads {reads : List Call} (h : ∀ c ∈ reads, c.isRead = true) : fed reads = [] :=
  List.flatMap_eq_nil_iff.2 fun c hc => Call.fed_of_isRead (h c hc)

theorem delivered_append (a b : List Answer) : delivered (a ++ b) = delivered a ++ delivered b :=
  List.filterMap_append

/-! ### The invariant -/

/-- Buffer and unfed bytes are the frames of the packets left. -/
structure Holds (d : Decoder) (left : List Packet) (unfed : Bytes) : Prop where
  sendable : ∀ p ∈ left, p.Sendable
  frames : d.buffer ++ unfed = left.flatMap frame

/-- A read either takes the first packet left, or it finds less than its frame. In the second case
some bytes are still to be fed, unless no packet is left. -/
theorem Holds.decode {d : Decoder} {left : List Packet} {unfed : Bytes} (h : Holds d left unfed) :
    (∃ p more rest, left = p :: more ∧ Packet.decode d.buffer = .ok (some (p, rest)) ∧
        Holds ⟨rest⟩ more unfed) ∨
      (Packet.decode d.buffer = .ok none ∧ (unfed = [] → left = [] ∧ d.buffer = [])) := by
  obtain ⟨hs, hf⟩ := h
  cases left with
  | nil =>
    right
    have hbuffer : d.buffer = [] := (List.append_eq_nil_iff.1 hf).1
    exact ⟨decode_of_length_lt (by rw [hbuffer]; decide), fun _ => ⟨rfl, hbuffer⟩⟩
  | cons p more =>
    have hp := hs p (List.mem_cons_self ..)
    rw [List.flatMap_cons] at hf
    by_cases hlen : p.frame.length ≤ d.buffer.length
    · left
      -- the whole frame is in the buffer: what follows it there is the new buffer
      obtain ⟨rest, hrest⟩ : p.frame <+: d.buffer :=
        List.prefix_of_prefix_length_le ⟨_, rfl⟩ ⟨unfed, hf⟩ hlen
      refine ⟨p, more, rest, rfl, ?_, fun q hq => hs q (List.mem_cons_of_mem _ hq), ?_⟩
      · rw [← hrest]
        exact decode_frame hp rest
      · rw [← hrest, List.append_assoc] at hf
        exact List.append_cancel_left hf
    · right
      have hbuffer : d.buffer <+: p.frame :=
        List.prefix_of_prefix_length_le ⟨unfed, hf⟩ ⟨_, rfl⟩ (by omega)
      refine ⟨decode_start hp hbuffer (by omega), fun hu => ?_⟩
      have := congrArg List.length hf
      simp only [hu, List.append_nil, List.length_append] at this
      omega

/-- What a reading call does, strict or lenient. -/
theorem Holds.read {d : Decoder} {left : List Packet} {unfed : Bytes} (h : Holds d left unfed)
    {c : Call} (hc : c.isRead = true) :
    (∃ p more, left = p :: more ∧ (d.call c).1 = some (.ok (some p)) ∧
        Holds (d.call c).2 more unfed) ∨
      (d.call c = (some (.ok none), d) ∧ (unfed = [] → left = [] ∧ d.buffer = [])) := by
  have hnext : d.call c = (some d.next.1, d.next.2) := by
    have hok : ∃ r, Packet.decode d.buffer = .ok r := by
      rcases h.decode with ⟨p, _, rest, _, hd, _⟩ | ⟨hd, _⟩
      · exact ⟨_, hd⟩
      · exact ⟨_, hd⟩
    obtain ⟨r, hr⟩ := hok
    cases c with
    | extend bs => exact absurd hc (by simp [Call.isRead])
    | next => rfl
    | nextLenient => rw [call, nextLenient_eq_next hr]
  rw [hnext]
  rcases h.decode with ⟨p, more, rest, rfl, hd, hrest⟩ | ⟨hd, hend⟩
  · left
    refine ⟨p, more, rfl, ?_, ?_⟩ <;> simp only [next, hd]
    exact hrest
  · right
    refine ⟨?_, hend⟩
    simp only [next, hd]

theorem Holds.extend {d : Decoder} {left : List Packet} {bs unfed : Bytes}
    (h : Holds d left (bs ++ unfed)) : Holds (d.extend bs) left unfed :=
  ⟨h.sendable, by rw [← h.frames, Decoder.extend, List.append_assoc]⟩

/-- One call delivers at most the first packet left, and keeps the invariant. -/
theorem Holds.call {d : Decoder} {left : List Packet} {c : Call} {unfed : Bytes}
    (h : Holds d left (c.fed ++ unfed)) :
    ∃ left', left = delivered (d.call c).1.toList ++ left' ∧ Holds (d.call c).2 left' unfed ∧
      ∀ a ∈ (d.call c).1.toList, ∃ r, a = .ok r := by
  by_cases hc : c.isRead = true
  · rw [Call.fed_of_isRead hc, List.nil_append] at h
    rcases h.read hc with ⟨p, more, rfl, ha, hmore⟩ | ⟨ha, _⟩
    · exact ⟨more, by simp [ha, delivered, Answer.packet?], hmore, by simp [ha]⟩
    · exact ⟨left, by simp [ha, delivered, Answer.packet?], by rw [ha]; exact h, by simp [ha]⟩
  · cases c with
    | extend bs => exact ⟨left, rfl, h.extend, by simp [Decoder.call]⟩
    | next => exact absurd rfl hc
    | nextLenient => exact absurd rfl hc

/-- Whatever the calls, what was delivered and what is left are the packets that were to be
delivered, and no answer is an error. -/
theorem Holds.run {d : Decoder} {left : List Packet} {calls : List Call} {unfed : Bytes}
    (h : Holds d left (fed calls ++ unfed)) :
    ∃ left', left = delivered (d.run calls).1 ++ left' ∧ Holds (d.run calls).2 left' unfed ∧
      ∀ a ∈ (d.run calls).1, ∃ r, a = .ok r := by
  induction calls generalizing d left with
  | nil => exact ⟨left, rfl, h, by simp [Decoder.run]⟩
  | cons c rest ih =>
    rw [fed, List.flatMap_cons, List.append_assoc] at h
    obtain ⟨mid, hmid, hcall, hok⟩ := h.call
    obtain ⟨left', hleft', hrun, hoks⟩ := ih hcall
    rw [run_cons]
    refine ⟨left', ?_, hrun, fun a ha => ?_⟩
    · rw [hmid, hleft', delivered_append, List.append_assoc]
    · rcases List.mem_append.1 ha with ha | ha
      · exact hok a ha
      · exact hoks a ha

/-- With everything fed, reads give the packets left one by one, and then nothing. -/
theorem Holds.answers_of_reads {d : Decoder} {left : List Packet} {reads : List Call}
    (h : Holds d left []) (hr : ∀ c ∈ reads, c.isRead = true) :
    (d.run reads).1 = (left.take reads.length).map (fun p => .ok (some p)) ++
      List.replicate (reads.length - left.length) (.ok none) := by
  induction reads generalizing d left with
  | nil => simp [Decoder.run]
  | cons c rest ih =>
    have hrest : ∀ c ∈ rest, c.isRead = true := fun c hc => hr c (List.mem_cons_of_mem _ hc)
    rw [run_cons]
    rcases h.read (hr c (List.mem_cons_self ..)) with ⟨p, more, rfl, ha, hmore⟩ | ⟨ha, hend⟩
    · simp [ha, ih hmore hrest]
    · obtain ⟨rfl, _⟩ := hend rfl
      simp [ha, ih h hrest, List.replicate_succ]

/-- Reads find nothing exactly when there are more of them than packets left. -/
theorem Holds.none_mem_iff {d : Decoder} {left : List Packet} {reads : List Call}
    (h : Holds d left []) (hr : ∀ c ∈ reads, c.isRead = true) :
    .ok none ∈ (d.run reads).1 ↔ left.length < reads.length := by
  rw [h.answers_of_reads hr]
  simp only [List.mem_append, List.mem_map, List.mem_replicate, Except.ok.injEq, reduceCtorEq,
    and_false, exists_false, false_or, and_true]
  omega

/-- Where the reads find nothing, they have delivered all, and the buffer is empty. -/
theorem Holds.drained {d : Decoder} {left : List Packet} {reads : List Call}
    (h : Holds d left []) (hr : ∀ c ∈ reads, c.isRead = true)
    (hnone : .ok none ∈ (d.run reads).1) :
    delivered (d.run reads).1 = left ∧ (d.run reads).2.buffered = 0 := by
  have hlt := (h.none_mem_iff hr).1 hnone
  have hall : delivered (d.run reads).1 = left := by
    rw [h.answers_of_reads hr, List.take_of_length_le (by omega), delivered_append]
    simp [delivered, Answer.packet?, List.filterMap_map, Function.comp_def]
  refine ⟨hall, ?_⟩
  have hstart : Holds d left (fed reads ++ []) := by
    rw [fed_reads hr]
    exact h
  obtain ⟨last, hlast, hmore, -⟩ := hstart.run
  rw [hall] at hlast
  obtain rfl : last = [] := by simpa using hlast
  have := hmore.frames
  simp only [List.append_nil, List.flatMap_nil] at this
  simp [buffered, this]

/-! ### Streams -/

/-- If all packets could be encoded, all have a frame, and the bytes are these frames. -/
theorem mapM_encode {packets : List Packet} {frames : List Bytes}
    (h : packets.mapM encode = .ok frames) :
    (∀ p ∈ packets, p.Sendable) ∧ frames.flatten = packets.flatMap frame := by
  induction packets generalizing frames with
  | nil =>
    simp only [List.mapM_nil, pure, Except.pure, Except.ok.injEq] at h
    simp [← h]
  | cons p rest ih =>
    rw [List.mapM_cons] at h
    cases hp : p.encode with
    | error e => simp [hp, bind, Except.bind] at h
    | ok bs =>
      cases hrest : rest.mapM encode with
      | error e => simp [hp, hrest, bind, Except.bind] at h
      | ok more =>
        simp only [hp, hrest, bind, Except.bind, pure, Except.pure, Except.ok.injEq] at h
        obtain ⟨hsend, rfl⟩ := encode_eq_ok_iff.1 hp
        obtain ⟨hsends, hflat⟩ := ih hrest
        rw [← h, List.flatten_cons, hflat, List.flatMap_cons]
        exact ⟨List.forall_mem_cons.2 ⟨hsend, hsends⟩, rfl⟩

/-- **However the frames of packets are cut, and whatever reads come between the pieces**, no call
fails and the packets delivered so far are the first ones in order. Once all bytes are fed, a read
that finds nothing has all packets before it and nothing behind it, and one of more reads than
there are packets does find nothing. -/
theorem stream_delivers {packets : List Packet} {frames : List Bytes}
    (hframes : packets.mapM encode = .ok frames) {calls : List Call} {unfed : Bytes}
    (hfed : fed calls ++ unfed = frames.flatten) :
    let ran := run {} calls
    (∀ a ∈ ran.1, ∃ r, a = .ok r) ∧ delivered ran.1 <+: packets ∧
      (unfed = [] → ∀ reads : List Call, (∀ c ∈ reads, c.isRead = true) →
        let more := ran.2.run reads
        (.ok none ∈ more.1 →
            delivered ran.1 ++ delivered more.1 = packets ∧ more.2.buffered = 0) ∧
          (packets.length < reads.length → .ok none ∈ more.1)) := by
  obtain ⟨hsend, hflat⟩ := mapM_encode hframes
  have hstart : Holds {} packets (fed calls ++ unfed) := ⟨hsend, by rw [hfed, hflat]; rfl⟩
  obtain ⟨left, hleft, hran, hok⟩ := hstart.run
  refine ⟨hok, ⟨left, hleft.symm⟩, ?_⟩
  rintro rfl reads hreads
  refine ⟨fun hnone => ?_, fun hlt => (hran.none_mem_iff hreads).2 ?_⟩
  · obtain ⟨hall, hempty⟩ := hran.drained hreads hnone
    exact ⟨by rw [hall, ← hleft], hempty⟩
  · have := congrArg List.length hleft
    rw [List.length_append] at this
    omega

/-- Two frames, the second without name and data, cut inside a header, a name and a sum. -/
theorem stream_delivers_two :
    let packets : List Packet := [⟨65, "a", [1, 0]⟩, ⟨0, "", []⟩]
    let calls : List Call := [.extend [65, 2, 2], .nextLenient, .extend [0, 0, 0, 98, 167, 97],
      .next, .extend [0, 1, 0, 0, 1], .nextLenient, .extend [0, 0, 0, 0, 0, 1, 0]]
    let reads : List Call := [.nextLenient, .next, .nextLenient]
    packets.mapM encode = .ok [[65, 2, 2, 0, 0, 0, 98, 167, 97, 0, 1, 0], [0, 1, 0, 0, 0, 0, 0, 1, 0]] ∧
      delivered (run {} calls).1 <+: packets ∧
      delivered (run {} calls).1 ++ delivered ((run {} calls).2.run reads).1 = packets := by
  intro packets calls reads
  have hframes : packets.mapM encode =
      .ok [[65, 2, 2, 0, 0, 0, 98, 167, 97, 0, 1, 0], [0, 1, 0, 0, 0, 0, 0, 1, 0]] := by rfl
  obtain ⟨-, hpre, hall⟩ := stream_delivers hframes (show fed calls ++ [] = _ from rfl)
  obtain ⟨hdone, hnone⟩ := hall rfl reads (by decide)
  exact ⟨hframes, hpre, (hdone (hnone (by decide))).1⟩

end Courier.Packet.Decoder
