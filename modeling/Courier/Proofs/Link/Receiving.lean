import Courier.Proofs.Link.LifeCycle

/-! How much a connection buffers.

A call of `readPacket` looks into the buffer and reads from the socket by turns, and while it reads
its caller may give it up. `Receiver` is a client that makes such calls one after the other, taken
apart into these steps; a call that nobody gives up is `readPacket` (`answers_readPacket`).

A call reads only when the buffer holds less than the frame which its header announces, and no
header announces more than 255 bytes of name and 65535 of data (`length_lt_of_decode`). A read adds
at most a read buffer full to that, and a look into the buffer only takes bytes away. So whatever
comes from the socket, the buffer stays bounded (`buffer_bounded`). -/
namespace Courier

namespace Packet

/-- The bytes of the largest frame that a header can announce. -/
def maxFrameSize : Nat := headerSize + 255 + maxPayloadSize

/-- Bytes that ask for more are fewer than the largest frame. -/
theorem length_lt_of_decode {bs : Bytes} (h : decode bs = .ok none) : bs.length < maxFrameSize := by
  have hmax : maxFrameSize = 65798 := rfl
  match bs, h with
  | [], _ | [_], _ | [_, _], _ | [_, _, _], _ | [_, _, _, _], _ | [_, _, _, _, _], _
  | [_, _, _, _, _, _], _ | [_, _, _, _, _, _, _], _ => simp [hmax]
  | command :: nameSize :: low :: high :: r₀ :: r₁ :: bodySum :: headerSum :: rest, h =>
    -- behind a header only one outcome asks for more: that fewer bytes are there than it announces
    have hshort : rest.length < nameSize.toNat + (low.toNat + 256 * high.toNat) := by
      simp only [decode] at h
      grind
    have hname := nameSize.toNat_lt
    have hlow := low.toNat_lt
    have hhigh := high.toNat_lt
    simp only [List.length_cons]
    omega

namespace Decoder

/-- A buffer in which no packet is found holds less than the largest frame. -/
theorem buffered_lt_of_nothing {d e : Decoder} (h : d.nextLenient = (.ok none, e)) :
    d.buffered < maxFrameSize := by
  unfold nextLenient at h
  split at h
  · cases h
  · next hdecode => exact length_lt_of_decode hdecode
  · cases hp : parse d.buffer <;> simp [hp, Except.map] at h

/-- A look into the buffer adds nothing to it. -/
theorem buffered_nextLenient_le (d : Decoder) : d.nextLenient.2.buffered ≤ d.buffered := by
  by_cases h : d.nextLenient.1 = .ok none
  · have hkept : d.nextLenient.2 = d := Link.Connection.nextLenient_none (Prod.ext h rfl)
    exact Nat.le_of_eq (congrArg buffered hkept)
  · exact Nat.le_of_lt (buffered_nextLenient h)

end Decoder
end Packet

namespace Link

open Connection (readFrom nextLenient_none)
open Packet (Decoder maxFrameSize)

/-! ### Pieces of a stream -/

/-- No chunk is larger than the read buffer, or than one byte if that has no room. -/
theorem length_of_mem_chunks {size : Nat} {data bs : Bytes} (h : bs ∈ chunks size data) :
    bs.length ≤ max size 1 := by
  fun_induction chunks size data with
  | case1 => cases h
  | case2 data hne ih =>
    rcases List.mem_cons.1 h with rfl | h
    · exact List.length_take_le ..
    · exact ih h

/-- One read brings at most a read buffer full. -/
theorem length_of_mem_arrivals {size : Nat} {console : Console} {script : List ScriptStep}
    {bs : Bytes} (h : .bytes bs ∈ arrivals size console script) : bs.length ≤ max size 1 := by
  have hline (lines : List String) : .bytes bs ∉ lines.map Arrival.line := by simp
  induction script generalizing console with
  | nil => cases h
  | cons step rest ih =>
    cases step with
    | data data =>
      rcases List.mem_append.1 h with h | h
      · obtain ⟨piece, hpiece, heq⟩ := List.mem_map.1 h
        cases heq
        exact length_of_mem_chunks hpiece
      · exact ih h
    | fault fault => exact ih (List.mem_of_ne_of_mem (by simp) h)
    | hangUp => exact absurd h (by simp [arrivals])
    | typed typed => exact ih ((List.mem_append.1 h).resolve_left (hline _))
    | consoleFault => exact ih h
    | consoleEnd => exact ih ((List.mem_append.1 h).resolve_left (hline _))

/-! ### Calls -/

/-- Where a client is with its calls of `readPacket`. -/
inductive Stage where
  /-- No call is running. This is what the last one answered, if it was not given up. -/
  | idle (last : Option (Except Error (Option Packet)))
  /-- The call looks into the buffer. -/
  | looks
  /-- The call found no packet there and reads from the socket. -/
  | reads

/-- A client between two steps of its calls. -/
structure Receiver where
  stage : Stage := .idle none
  connection : Connection

/-- What a client does about the call that is running. -/
inductive Choice where
  | wait
  | giveUp

namespace Receiver

/-- The next step of the call that is running; if none is, the next call is made. -/
def step (r : Receiver) : Receiver :=
  let c := r.connection
  match r.stage with
  | .idle _ => ⟨.looks, c⟩
  | .looks =>
    match c.decoder.nextLenient with
    | (.ok none, decoder) => ⟨.reads, { c with decoder }⟩
    | (found, decoder) => ⟨.idle (some (found.mapError .packet)), { c with decoder }⟩
  | .reads =>
    match c.inbox with
    | [] => ⟨.idle (some (.ok none)), c⟩
    | .hangUp :: _ => ⟨.idle (some (.ok none)), c⟩
    | .fault fault :: inbox => ⟨.idle (some (.error (.io fault))), { c with inbox }⟩
    | .bytes bs :: inbox => ⟨.looks, { c with decoder := c.decoder.extend bs, inbox }⟩
    | .line _ :: inbox => ⟨.reads, { c with inbox }⟩

/-- A call that is given up leaves the connection as it is. -/
def choose (r : Receiver) : Choice → Receiver
  | .wait => r.step
  | .giveUp => { r with stage := .idle none }

/-- A client after some choices. -/
def run (r : Receiver) (choices : List Choice) : Receiver := choices.foldl choose r

/-- The running call, if it is not given up, comes to this answer and leaves this connection. -/
inductive Answers : Receiver → Except Error (Option Packet) → Connection → Prop where
  | now {answer c} : Answers ⟨.idle (some answer), c⟩ answer c
  | later {r answer c} (running : ∀ last, r.stage ≠ .idle last) (rest : Answers r.step answer c) :
      Answers r answer c

/-! ### Calls that are not given up -/

section Answering

variable {c final : Connection} {d : Decoder} {answer : Except Error (Option Packet)}
  {found : Except Packet.Error (Option Packet)}

/-- A look that finds nothing makes the call read. -/
theorem step_of_nothing (h : c.decoder.nextLenient = (.ok none, d)) :
    step ⟨.looks, c⟩ = ⟨.reads, { c with decoder := d }⟩ := by
  simp only [step, h]

/-- A look that finds something ends the call with it. -/
theorem step_of_found (h : c.decoder.nextLenient = (found, d)) (hne : found ≠ .ok none) :
    step ⟨.looks, c⟩ = ⟨.idle (some (found.mapError .packet)), { c with decoder := d }⟩ := by
  match found, hne with
  | .ok none, hne => exact absurd rfl hne
  | .ok (some p), _ => simp only [step, h]
  | .error e, _ => simp only [step, h]

theorem Answers.read (h : Answers (step ⟨.reads, c⟩) answer final) :
    Answers ⟨.reads, c⟩ answer final :=
  .later (by simp) h

theorem answers_of_nothing (h : c.decoder.nextLenient = (.ok none, d))
    (hreads : Answers ⟨.reads, { c with decoder := d }⟩ answer final) :
    Answers ⟨.looks, c⟩ answer final := by
  refine .later (by simp) ?_
  rw [step_of_nothing h]
  exact hreads

theorem answers_of_found (h : c.decoder.nextLenient = (found, d)) (hne : found ≠ .ok none) :
    Answers ⟨.looks, c⟩ (found.mapError .packet) { c with decoder := d } := by
  refine .later (by simp) ?_
  rw [step_of_found h hne]
  exact .now

end Answering

/-- A call answers what reading from its decoder and its inbox does. -/
theorem answers_readFrom (c : Connection) (d : Decoder) (inbox : List Arrival) :
    Answers ⟨.looks, { c with decoder := d, inbox }⟩ (readFrom d inbox).1
      { c with decoder := (readFrom d inbox).2.1, inbox := (readFrom d inbox).2.2 } := by
  fun_induction readFrom d inbox with
  | case1 d error e inbox h =>
    exact answers_of_found (c := { c with decoder := d, inbox }) h (by simp)
  | case2 d p e inbox h =>
    exact answers_of_found (c := { c with decoder := d, inbox }) h (by simp)
  | case3 d e h => exact answers_of_nothing h (.read .now)
  | case4 d e rest h => exact answers_of_nothing h (.read .now)
  | case5 d fault rest e h => exact answers_of_nothing h (.read .now)
  | case6 d e bs rest h ih => exact answers_of_nothing h (.read ih)
  | case7 d e text rest h ih =>
    obtain rfl := nextLenient_none h
    -- a line does not wake the call, so it reads on as it does behind the line
    cases ih with
    | later _ hreads =>
      rw [step_of_nothing h] at hreads
      exact answers_of_nothing h (.read hreads)

/-- A call that nobody gives up is `readPacket`. -/
theorem answers_readPacket (c : Connection) :
    Answers ⟨.looks, c⟩ c.readPacket.answer c.readPacket.connection :=
  answers_readFrom c c.decoder c.inbox

end Receiver

/-! ### The bound -/

/-- A buffer that is bounded, and arrivals that keep it so. -/
structure Contained (size : Nat) (d : Decoder) (inbox : List Arrival) : Prop where
  held : d.buffered < maxFrameSize + size
  arriving : ∀ bs, .bytes bs ∈ inbox → bs.length ≤ size

namespace Contained

variable {size : Nat} {d : Decoder} {inbox : List Arrival}

theorem look (h : Contained size d inbox) : Contained size d.nextLenient.2 inbox :=
  ⟨Nat.lt_of_le_of_lt d.buffered_nextLenient_le h.held, h.arriving⟩

theorem skip {a : Arrival} (h : Contained size d (a :: inbox)) : Contained size d inbox :=
  ⟨h.held, fun bs hbs => h.arriving bs (List.mem_cons_of_mem _ hbs)⟩

/-- One read on top of less than a frame. -/
theorem extend {bs : Bytes} (h : Contained size d (.bytes bs :: inbox))
    (hread : d.buffered < maxFrameSize) : Contained size (d.extend bs) inbox := by
  refine ⟨?_, h.skip.arriving⟩
  have hsize := h.arriving bs List.mem_cons_self
  have hlength : (d.extend bs).buffered = d.buffered + bs.length := List.length_append
  omega

end Contained

namespace Receiver

variable {size : Nat} {r : Receiver}

/-- What every step keeps. -/
structure Bounded (size : Nat) (r : Receiver) : Prop where
  contained : Contained size r.connection.decoder r.connection.inbox
  reading : r.stage = .reads → r.connection.decoder.buffered < maxFrameSize

/-- One step keeps the bounds: a look only takes away, and a read adds one chunk to less than a
frame. -/
theorem Bounded.step (h : Bounded size r) : Bounded size r.step := by
  obtain ⟨stage, c⟩ := r
  obtain ⟨hcontained, hreading⟩ := h
  cases stage with
  | idle last => exact ⟨hcontained, nofun⟩
  | looks =>
    rcases hlook : c.decoder.nextLenient with ⟨found, d⟩
    have hcontained : Contained size d c.inbox := by
      have hlooked := hcontained.look
      rwa [hlook] at hlooked
    by_cases hfound : found = .ok none
    · subst hfound
      rw [step_of_nothing hlook]
      refine ⟨hcontained, fun _ => ?_⟩
      rw [Connection.nextLenient_none hlook]
      exact Decoder.buffered_lt_of_nothing hlook
    · rw [step_of_found hlook hfound]
      exact ⟨hcontained, nofun⟩
  | reads =>
    obtain ⟨config, inbox, sink, d⟩ := c
    cases inbox with
    | nil => exact ⟨hcontained, nofun⟩
    | cons a rest =>
      cases a with
      | bytes bs => exact ⟨hcontained.extend (hreading rfl), nofun⟩
      | fault fault => exact ⟨hcontained.skip, nofun⟩
      | hangUp => exact ⟨hcontained, nofun⟩
      | line text => exact ⟨hcontained.skip, fun _ => hreading rfl⟩

/-- So does any number of steps, with calls given up where one likes. -/
theorem Bounded.run (h : Bounded size r) (choices : List Choice) :
    Bounded size (r.run choices) := by
  induction choices generalizing r with
  | nil => exact h
  | cons choice rest ih =>
    apply ih
    cases choice with
    | wait => exact h.step
    | giveUp => exact ⟨h.contained, nofun⟩

end Receiver

namespace Conversation

variable {config : Config} {greeting : Greeting} {l m : Loop}

/-- The loops that turns lead to, up to the last turn. -/
inductive Loop.Leads (config : Config) (greeting : Greeting) (l : Loop) : Loop → Prop where
  | here : Leads config greeting l l
  | turn {m n} (before : Leads config greeting l m) (next : (m.turn config greeting).2 = (n, none)) :
      Leads config greeting l n

theorem Loop.showAll_inbox (l : Loop) (done : List Action) :
    (l.showAll done).2.inbox = l.inbox := by
  induction done generalizing l with
  | nil => rfl
  | cons action rest ih =>
    cases action with
    | wrote bytes => exact ih l
    | received p => exact ih (l.emit (.received p)).2

/-- The loop goes on with the state that a part leaves. -/
theorem Loop.follow_on {phase : Phase} {part : Part} (h : (l.follow phase part).2 = (m, none)) :
    part.2 = .ok m.state ∧ m.inbox = l.inbox := by
  obtain ⟨done, result⟩ := part
  cases result with
  | error ending => cases h
  | ok state =>
    cases h
    exact ⟨rfl, l.showAll_inbox done⟩

/-- A turn looks into the buffer once, or takes one arrival where nothing is in it. -/
theorem contained_turn {size : Nat} (h : Contained size l.state.decoder l.inbox)
    (hturn : (l.turn config greeting).2 = (m, none)) : Contained size m.state.decoder m.inbox := by
  obtain ⟨phase, next, s, inbox⟩ := l
  obtain ⟨_, _, t, behind⟩ := m
  cases phase with
  | connected =>
    obtain ⟨hgreet, rfl⟩ := Loop.follow_on (l := ⟨.connected, next + 1, s, inbox⟩) hturn
    rw [greet_decoder hgreet]
    exact h
  | disconnected => cases hturn
  | awaiting =>
    have hlooked := h.look
    rcases hlook : s.decoder.nextLenient with ⟨found, d⟩
    simp only [Loop.turn, hlook] at hlooked hturn
    cases found with
    | error e =>
      obtain ⟨hstate, rfl⟩ := Loop.follow_on hturn
      cases hstate
      exact hlooked
    | ok found =>
      cases found with
      | some p =>
        obtain ⟨htake, rfl⟩ := Loop.follow_on hturn
        rw [take_decoder htake]
        exact hlooked
      | none =>
        cases inbox with
        | nil => cases hturn
        | cons a rest =>
          cases a with
          | bytes bs =>
            obtain ⟨hstate, rfl⟩ := Loop.follow_on hturn
            cases hstate
            obtain rfl := nextLenient_none hlook
            -- more is read only when less than a frame is buffered
            exact h.extend (Decoder.buffered_lt_of_nothing hlook)
          | _ =>
            obtain ⟨hmeet, rfl⟩ := Loop.follow_on hturn
            rw [meet_decoder (by simp) hmeet]
            exact h.skip

/-- As often as the loop of a client turns, what it buffers stays bounded. -/
theorem contained_leads {size : Nat} (h : Contained size l.state.decoder l.inbox)
    (hleads : Loop.Leads config greeting l m) : Contained size m.state.decoder m.inbox := by
  induction hleads with
  | here => exact h
  | turn before hturn ih => exact contained_turn ih hturn

end Conversation

/-! ### Every client -/

/-- A fresh client has nothing in its buffer. -/
theorem contained_fresh (config : Config) (size : Nat) (console : Console)
    (script : List ScriptStep) :
    Contained (config.withBufferSize size).bufferSize {}
      (arrivals (config.withBufferSize size).bufferSize console script) := by
  have hsize : 1 ≤ (config.withBufferSize size).bufferSize :=
    Nat.le_trans (by decide) (Nat.le_max_left minBufferSize _)
  refine ⟨Nat.lt_of_lt_of_le (Nat.zero_lt_succ _) (Nat.le_add_right _ _), fun bs hbs => ?_⟩
  have hlength := length_of_mem_arrivals hbs
  rwa [Nat.max_eq_left hsize] at hlength

/-- **The receive buffer is bounded**, whatever size of reads is asked for and whatever comes from
the socket in whatever pieces. A client that calls `readPacket` again and again, and gives calls up
at any time, reads only when it holds fewer bytes than the largest frame has, and never holds more
than these and one read. A call that it does not give up is `readPacket`. The same bounds hold for a
conversation between any two of its turns, with what is typed meanwhile. -/
theorem buffer_bounded (base : Config) (size : Nat) (sink : Sink) (console : Console)
    (script : List ScriptStep) :
    let config := base.withBufferSize size
    let inbox := arrivals config.bufferSize console script
    (∀ choices : List Choice,
      let r := Receiver.run { connection := { config, inbox, sink } } choices
      (r.stage = .reads → r.connection.decoder.buffered < 8 + 255 + 65535) ∧
        r.connection.decoder.buffered ≤ 65797 + config.bufferSize) ∧
    (∀ c : Connection,
      Receiver.Answers ⟨.looks, c⟩ c.readPacket.answer c.readPacket.connection) ∧
    ∀ (greeting : Greeting) (l : Conversation.Loop),
      Conversation.Loop.Leads config greeting { state := { sink }, inbox } l →
        (l.state.decoder.nextLenient.1 = .ok none →
          l.state.decoder.buffered < 8 + 255 + 65535) ∧
        l.state.decoder.buffered ≤ 65797 + config.bufferSize := by
  intro config inbox
  have hfresh : Contained config.bufferSize {} inbox := contained_fresh base size console script
  have hmax : maxFrameSize = 65798 := rfl
  refine ⟨fun choices => ?_, Receiver.answers_readPacket, fun greeting l hleads => ⟨fun h => ?_, ?_⟩⟩
  · have hbounded : Receiver.Bounded config.bufferSize
        (Receiver.run { connection := { config, inbox, sink } } choices) :=
      Receiver.Bounded.run ⟨hfresh, by simp⟩ choices
    have hheld := hbounded.contained.held
    exact ⟨hbounded.reading, by omega⟩
  · exact Decoder.buffered_lt_of_nothing (Prod.ext h rfl)
  · have hheld := (Conversation.contained_leads hfresh hleads).held
    omega

/-! ### A flood -/

/-- A header that announces the largest frame. -/
def floodHeader : Bytes := [65, 255, 255, 255, 0, 0, 0, 62]

def zeros (n : Nat) : Bytes := List.replicate n 0

theorem length_zeros (n : Nat) : (zeros n).length = n := List.length_replicate

/-- Behind such a header all bytes but the last one are waited for. -/
theorem nextLenient_flood {n : Nat} (h : n < 65790) :
    Decoder.nextLenient ⟨floodHeader ++ zeros n⟩ = (.ok none, ⟨floodHeader ++ zeros n⟩) := by
  have hshort : (zeros n).length <
      (255 : UInt8).toNat + ((255 : UInt8).toNat + 256 * (255 : UInt8).toNat) := by
    rw [length_zeros]
    exact h
  have hdecode : Packet.decode (floodHeader ++ zeros n) = .ok none := by
    simp only [floodHeader, List.cons_append, List.nil_append, Packet.decode]
    rw [if_neg (by decide), if_neg (by decide), if_pos hshort]
  simp only [Decoder.nextLenient, hdecode]

theorem extend_flood (m n : Nat) :
    Decoder.extend ⟨floodHeader ++ zeros m⟩ (zeros n) = ⟨floodHeader ++ zeros (m + n)⟩ := by
  rw [Decoder.extend, List.append_assoc, zeros, zeros, List.replicate_append_replicate]
  rfl

theorem buffered_flood (n : Nat) : Decoder.buffered ⟨floodHeader ++ zeros n⟩ = 8 + n := by
  rw [Decoder.buffered, List.length_append, length_zeros]
  rfl

theorem chunks_of_length_le {size : Nat} {bs : Bytes} (hne : 0 < bs.length)
    (h : bs.length ≤ size) : chunks size bs = [bs] := by
  have hall : bs.length ≤ max size 1 := Nat.le_trans h (Nat.le_max_left ..)
  rw [chunks, if_neg (List.length_pos_iff.1 hne), List.take_of_length_le hall,
    List.drop_of_length_le hall, chunks, if_pos rfl]

/-- Pieces that fit into one read each come one by one. -/
theorem arrivals_data {size n : Nat} {bs : Bytes} (hlength : bs.length = n) (hne : 0 < n)
    (hle : n ≤ size) (console : Console) (rest : List ScriptStep) :
    arrivals size console (.data bs :: rest) = .bytes bs :: arrivals size console rest := by
  subst hlength
  rw [arrivals, chunks_of_length_le hne hle]
  rfl

namespace Receiver

variable {config : Config} {sink : Sink} {rest : List Arrival}

/-- A chunk behind which no packet is found is read and kept. -/
theorem run_piece {d : Decoder} (h : d.nextLenient = (.ok none, d)) (bs : Bytes)
    (choices : List Choice) :
    run ⟨.looks, ⟨config, .bytes bs :: rest, sink, d⟩⟩ (.wait :: .wait :: choices) =
      run ⟨.looks, ⟨config, rest, sink, d.extend bs⟩⟩ choices := by
  show run (step (step _)) choices = _
  rw [step_of_nothing (c := ⟨config, .bytes bs :: rest, sink, d⟩) h]
  rfl

/-- A frame in two pieces, whose last byte is missing, after a call that was given up. -/
theorem run_flood {m n : Nat} (h : m + n < 65790) :
    run ⟨.idle none, ⟨config,
        .bytes (floodHeader ++ zeros m) :: .bytes (zeros n) :: rest, sink, {}⟩⟩
        [.wait, .wait, .giveUp, .wait, .wait, .wait, .wait, .wait, .wait] =
      ⟨.reads, ⟨config, rest, sink, ⟨floodHeader ++ zeros (m + n)⟩⟩⟩ := by
  calc run _ _
      = run ⟨.looks, ⟨config, .bytes (floodHeader ++ zeros m) :: .bytes (zeros n) :: rest, sink,
          {}⟩⟩ [.wait, .wait, .wait, .wait, .wait] := rfl
    _ = run ⟨.looks, ⟨config, .bytes (zeros n) :: rest, sink, ⟨floodHeader ++ zeros m⟩⟩⟩
          [.wait, .wait, .wait] := run_piece rfl _ _
    _ = run ⟨.looks, ⟨config, rest, sink, ⟨floodHeader ++ zeros (m + n)⟩⟩⟩ [.wait] := by
        rw [run_piece (nextLenient_flood (by omega)), extend_flood]
    _ = _ := step_of_nothing (nextLenient_flood h)

end Receiver

/-- The same frame comes to a conversation, which waits for its last byte. -/
theorem Conversation.leads_flood {config : Config} {greeting : Greeting} {sink : Sink}
    {m n : Nat} {done : List Action} {s : State} (h : m + n < 65790) (rest : List Arrival)
    (hgreet : greet config greeting { sink } = (done, .ok s)) :
    ∃ l : Loop, Loop.Leads config greeting ⟨.connected, 1, { sink },
        .bytes (floodHeader ++ zeros m) :: .bytes (zeros n) :: rest⟩ l ∧
      l.state.decoder = ⟨floodHeader ++ zeros (m + n)⟩ := by
  let inbox : List Arrival := .bytes (floodHeader ++ zeros m) :: .bytes (zeros n) :: rest
  have hturn {next : Nat} {t : State} {d : Decoder} (bs : Bytes) (behind : List Arrival)
      (hnothing : t.decoder.nextLenient = (.ok none, d)) :
      (Loop.turn config greeting ⟨.awaiting, next, t, .bytes bs :: behind⟩).2 =
        (⟨.awaiting, next, { t with decoder := d.extend bs }, behind⟩, none) := by
    simp only [Loop.turn, hnothing]
    rfl
  have hgreeted : (Loop.turn config greeting ⟨.connected, 1, { sink }, inbox⟩).2 =
      (⟨.awaiting, (Loop.showAll ⟨.connected, 2, { sink }, inbox⟩ done).2.next, s, inbox⟩, none) := by
    simp only [Loop.turn, Loop.emit, hgreet, Loop.follow, Loop.showAll_inbox]
  have hdecoder : s.decoder = {} := greet_decoder (by rw [hgreet])
  have hempty : s.decoder.nextLenient = (.ok none, {}) := by
    rw [hdecoder]
    rfl
  exact ⟨_, .turn (.turn (.turn .here hgreeted) (hturn _ _ hempty))
    (hturn _ _ (nextLenient_flood (by omega))), extend_flood m n⟩

/-- All but the last byte of a frame are held while a call reads, after an earlier one was given up;
with one more read the buffer is as full as it gets. A conversation waits for the same byte. -/
theorem buffer_bounded_flood :
    let base : Config := ⟨"server", "C2", 2048⟩
    let config := base.withBufferSize 10000000
    let script : List ScriptStep :=
      [.data (floodHeader ++ zeros 65528), .data (zeros 261), .data (zeros 65536)]
    let inbox := arrivals config.bufferSize .closed script
    let filled := Receiver.run { connection := { config, inbox, sink := {} } }
      [.wait, .wait, .giveUp, .wait, .wait, .wait, .wait, .wait, .wait]
    (filled.stage = .reads ∧ filled.connection.decoder.buffered = 65797 ∧
        filled.connection.decoder.buffered < 8 + 255 + 65535) ∧
      filled.step.connection.decoder.buffered = 65797 + config.bufferSize ∧
      ∃ l, Conversation.Loop.Leads config ⟨"p", [72]⟩ { state := { sink := {} }, inbox } l ∧
        l.state.decoder.nextLenient.1 = .ok none ∧ l.state.decoder.buffered = 65797 ∧
        l.state.decoder.buffered < 8 + 255 + 65535 := by
  intro base config script inbox filled
  have hsize : config.bufferSize = 65536 := by decide
  have hinbox : inbox =
      [.bytes (floodHeader ++ zeros 65528), .bytes (zeros 261), .bytes (zeros 65536)] := by
    simp only [inbox, script, hsize]
    rw [arrivals_data (buffered_flood _) (by omega) (by omega),
      arrivals_data (length_zeros _) (by omega) (by omega),
      arrivals_data (length_zeros _) (by omega) (by omega), arrivals]
  have hfilled : filled = ⟨.reads, ⟨config, [.bytes (zeros 65536)], {},
      ⟨floodHeader ++ zeros (65528 + 261)⟩⟩⟩ := by
    simp only [filled, hinbox]
    exact Receiver.run_flood (by omega)
  obtain ⟨hcalls, -, hturns⟩ := buffer_bounded base 10000000 {} .closed script
  obtain ⟨hread, -⟩ := hcalls [.wait, .wait, .giveUp, .wait, .wait, .wait, .wait, .wait, .wait]
  -- the run is named, or it would be computed here
  have hname : Receiver.run _ _ = filled := rfl
  rw [hname] at hread
  have hreads : filled.stage = .reads := by rw [hfilled]
  have hheld : filled.connection.decoder.buffered = 65797 := by
    rw [hfilled]
    exact buffered_flood _
  refine ⟨⟨hreads, hheld, hread hreads⟩, ?_, ?_⟩
  · have hstep : filled.step.connection.decoder =
        filled.connection.decoder.extend (zeros 65536) := by
      rw [hfilled]
      rfl
    rw [hstep, hsize, Decoder.buffered, Decoder.extend, List.length_append, length_zeros]
    exact congrArg (· + 65536) hheld
  · have hgreet : ∃ done s, Conversation.greet config ⟨"p", [72]⟩ { sink := {} } = (done, .ok s) :=
      ⟨_, _, by with_unfolding_all rfl⟩
    obtain ⟨done, s, hgreet⟩ := hgreet
    obtain ⟨l, hleads, hdecoder⟩ := Conversation.leads_flood (m := 65528) (n := 261) (by omega)
      [.bytes (zeros 65536)] hgreet
    rw [← hinbox] at hleads
    have hnothing : l.state.decoder.nextLenient.1 = .ok none := by
      rw [hdecoder, nextLenient_flood (by omega)]
    refine ⟨l, hleads, hnothing, ?_, (hturns _ l hleads).1 hnothing⟩
    rw [hdecoder]
    exact buffered_flood _

end Link
end Courier
