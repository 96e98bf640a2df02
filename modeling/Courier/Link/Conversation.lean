import Courier.Link.Connection
import Courier.Text.Blank

/-! The conversation of a client with its server.

A client logs in, greets its peer with an echo request, and then takes what arrives until the
stream ends. It answers each echo request before it reports the packet, drops bytes that it cannot
read, and sends each typed line that is not blank to its peer.

`converse` gives what the client does between its first and its last event; `run` numbers the
events and puts those two around them. -/
namespace Courier.Link

/-- Who is greeted, and with what. -/
structure Greeting where
  peer : String
  message : Bytes
  deriving DecidableEq, Repr

namespace Conversation

/-- Where a client is with its conversation. -/
inductive Phase where
  | connected
  | awaiting
  | disconnected
  deriving DecidableEq, Repr

/-- What a client tells its caller. -/
inductive Event where
  | connected
  | received (packet : Packet)
  | disconnected
  deriving DecidableEq, Repr

/-- What a client does: it writes bytes, or it has received a packet. -/
inductive Action where
  | wrote (bytes : Bytes)
  | received (packet : Packet)
  deriving DecidableEq, Repr

/-- How a conversation ended. -/
abbrev Ending := Except Error Unit

/-- What a client has to remember from one arrival to the next. -/
structure State where
  decoder : Packet.Decoder := {}
  sink : Sink

/-- A part of a conversation: what was done, and the state to go on from or the ending. -/
abbrev Part := List Action × Except Ending State

/-- Goes on after a part, unless the conversation ended in it. -/
def Part.andThen (p : Part) (next : State → Part) : Part :=
  match p with
  | (done, .error ending) => (done, .error ending)
  | (done, .ok s) => let (more, result) := next s; (done ++ more, result)

theorem Part.andThen_eq_ok_iff {p : Part} {next : State → Part} {t : State} :
    (p.andThen next).2 = .ok t ↔ ∃ s, p.2 = .ok s ∧ (next s).2 = .ok t := by
  obtain ⟨done, result⟩ := p
  cases result <;> simp [andThen]

def wrote (bytes : Bytes) : List Action := if bytes = [] then [] else [.wrote bytes]

/-- Sends a packet; a failure ends the conversation. -/
def say (config : Config) (p : Packet) (s : State) : Part :=
  let sent := Connection.transmit config.bufferSize s.sink p
  (wrote sent.written,
    match sent.result with
    | .error e => .error (.error e)
    | .ok _ => .ok { s with sink := sent.sink })

/-- Answers a packet that asks for an echo, and leaves every other one unanswered. -/
def answer (config : Config) (p : Packet) (s : State) : Part :=
  if p.command = Packet.echoCommand then say config p.echoAnswer s else ([], .ok s)

/-- Answers a packet if it asks for an echo, and reports it. -/
def take (config : Config) (p : Packet) (s : State) : Part :=
  (answer config p s).andThen fun s => ([.received p], .ok s)

theorem say_decoder {config : Config} {p : Packet} {s t : State}
    (h : (say config p s).2 = .ok t) : t.decoder = s.decoder := by
  simp only [say] at h
  split at h
  · simp at h
  · simp only [Except.ok.injEq] at h
    exact h ▸ rfl

theorem take_decoder {config : Config} {p : Packet} {s t : State}
    (h : (take config p s).2 = .ok t) : t.decoder = s.decoder := by
  obtain ⟨u, hu, ht⟩ := Part.andThen_eq_ok_iff.1 h
  simp only [Except.ok.injEq] at ht
  subst ht
  unfold answer at hu
  split at hu
  · exact say_decoder hu
  · simp only [Except.ok.injEq] at hu
    exact hu ▸ rfl

/-- Takes every packet that is buffered, and drops what cannot be read. -/
def settle (config : Config) (s : State) : Part :=
  match _h : s.decoder.nextLenient with
  | (.ok none, _) => ([], .ok s)
  | (.error _, d) => settle config { s with decoder := d }
  | (.ok (some p), d) =>
    match _ht : take config p { s with decoder := d } with
    | (done, .error ending) => (done, .error ending)
    | (done, .ok t) => let (more, result) := settle config t; (done ++ more, result)
termination_by s.decoder.buffered
decreasing_by
  · have := Packet.Decoder.buffered_nextLenient (d := s.decoder) (by rw [_h]; simp)
    simpa [_h] using this
  · have := Packet.Decoder.buffered_nextLenient (d := s.decoder) (by rw [_h]; simp)
    have hd := take_decoder (t := t) (by rw [_ht])
    simpa [_h, hd] using this

/-- Sends a typed line to the peer, without the blanks at its end. -/
def sayLine (config : Config) (peer line : String) (s : State) : Part :=
  match Text.trimEnd line.toList with
  | [] => ([], .ok s)
  | text => say config (.echo peer (Text.utf8 (String.ofList text))) s

/-- What one arrival leads to. -/
def meet (config : Config) (peer : String) (a : Arrival) (s : State) : Part :=
  match a with
  | .bytes bs => settle config { s with decoder := s.decoder.extend bs }
  | .line line => sayLine config peer line s
  | .hangUp => ([], .error (.ok ()))
  | .fault fault =>
    let e := Error.io fault
    ([], .error (if e.isDisconnect then .ok () else .error e))

/-- Meets one arrival after another. -/
def meetAll (config : Config) (peer : String) : List Arrival → State → Part
  | [], s => ([], .ok s)
  | a :: rest, s => (meet config peer a s).andThen (meetAll config peer rest)

/-- Login and greeting. -/
def greet (config : Config) (greeting : Greeting) (s : State) : Part :=
  (say config (.login config.host) s).andThen
    (say config (.echo greeting.peer greeting.message))

/-- Where nothing more arrives the stream has ended. -/
def Part.ending (p : Part) : Ending :=
  match p.2 with
  | .error ending => ending
  | .ok _ => .ok ()

/-- What a client does with all that arrives, and how its conversation ends. -/
def converse (config : Config) (greeting : Greeting) (sink : Sink) (inbox : List Arrival) :
    List Action × Ending :=
  let part := (greet config greeting { sink }).andThen (meetAll config greeting.peer inbox)
  (part.1, part.ending)

/-! ### Events -/

/-- What the caller sees: bytes on the stream, and events with their number and phase. -/
inductive Record where
  | wrote (bytes : Bytes)
  | event (number : Nat) (phase : Phase) (event : Event)
  deriving DecidableEq, Repr

/-- Numbers the packets received from `n` on; the second part is the number after the last. -/
def number : Nat → List Action → List Record × Nat
  | n, [] => ([], n)
  | n, .wrote bytes :: rest => let (records, m) := number n rest; (.wrote bytes :: records, m)
  | n, .received p :: rest =>
    let (records, m) := number (n + 1) rest
    (.event n .awaiting (.received p) :: records, m)

/-- The whole story of a client: its first event is number 1 and its last one is always that the
connection is gone. -/
def report (done : List Action) : List Record :=
  let (records, last) := number 2 done
  .event 1 .connected .connected :: records ++ [.event last .disconnected .disconnected]

/-- All that a client shows, from the first event to the last, and its ending. -/
def run (config : Config) (greeting : Greeting) (sink : Sink) (inbox : List Arrival) :
    List Record × Ending :=
  let (done, ending) := converse config greeting sink inbox
  (report done, ending)

end Conversation
end Courier.Link
