import Courier.Link.Arrival
import Courier.Link.Sink
import Courier.Packet.Decoder

/-! A connection to a server.

The size of the read buffer is also the capacity for packets that go out. A packet that does not
fit is refused before a byte of it is written. -/
namespace Courier.Link

/-- How to reach a server, and how much to read at a time. -/
structure Config where
  /-- Host and port of the server. -/
  address : String
  /-- The name that the login packet announces. -/
  host : String
  bufferSize : Nat := Packet.bufferSize
  deriving DecidableEq, Repr

/-- The smallest read buffer that can be set. -/
def minBufferSize : Nat := 64
/-- The largest read buffer that can be set. -/
def maxBufferSize : Nat := 65536

/-- Sets the size of the read buffer, as near to what is asked for as is allowed. -/
def Config.withBufferSize (c : Config) (size : Nat) : Config :=
  { c with bufferSize := max minBufferSize (min maxBufferSize size) }

/-- An open connection: what it has yet to bring, what it can still take, and what was read of it
and not used. -/
structure Connection where
  config : Config
  /-- What the socket still brings. -/
  inbox : List Arrival
  sink : Sink
  decoder : Packet.Decoder := {}

namespace Connection

/-! ### Sending -/

/-- What sending did: the bytes written, the size of the packet or what failed, and the sink. -/
structure Sent where
  written : Bytes
  result : Except Error Nat
  sink : Sink

/-- Sends a packet that fits `capacity`. -/
def transmit (capacity : Nat) (sink : Sink) (p : Packet) : Sent :=
  match p.build capacity with
  | .error e => ⟨[], .error (.packet e), sink⟩
  | .ok frame =>
    let w := sink.writeAll frame.length
    match w.result with
    | .error fault => ⟨frame.take w.taken, .error (.io fault), w.sink⟩
    | .ok () => ⟨frame, .ok frame.length, w.sink⟩

/-- What one operation answers, what it writes, and the connection after it. -/
structure Step (α : Type) where
  answer : Except Error α
  written : Bytes
  connection : Connection

/-- Sends one packet, and answers its size. -/
def send (c : Connection) (p : Packet) : Step Nat :=
  let s := transmit c.config.bufferSize c.sink p
  ⟨s.result, s.written, { c with sink := s.sink }⟩

def sendLogin (c : Connection) : Step Nat := c.send (.login c.config.host)

/-! ### Receiving -/

/-- The first thing the socket brings, and what comes after it. A stream that hung up stays so. -/
def nextRead : List Arrival → Except Error Bytes × List Arrival
  | [] => (.error .closed, [])
  | .hangUp :: rest => (.error .closed, .hangUp :: rest)
  | .fault fault :: rest => (.error (.io fault), rest)
  | .bytes bs :: rest => (.ok bs, rest)
  | .line _ :: rest => nextRead rest

/-- One read, past the decoder. -/
def readRaw (c : Connection) : Step Bytes :=
  let (answer, inbox) := nextRead c.inbox
  ⟨answer, [], { c with inbox }⟩

/-- Reads until a packet is there; `none` is the end of the stream. -/
def readFrom (d : Packet.Decoder) (inbox : List Arrival) :
    Except Error (Option Packet) × Packet.Decoder × List Arrival :=
  match d.nextLenient, inbox with
  | (.error e, d), inbox => (.error (.packet e), d, inbox)
  | (.ok (some p), d), inbox => (.ok (some p), d, inbox)
  | (.ok none, d), [] => (.ok none, d, [])
  | (.ok none, d), .hangUp :: rest => (.ok none, d, .hangUp :: rest)
  | (.ok none, d), .fault fault :: rest => (.error (.io fault), d, rest)
  | (.ok none, d), .bytes bs :: rest => readFrom (d.extend bs) rest
  | (.ok none, d), .line _ :: rest => readFrom d rest

/-- Reads the next packet, from what is buffered or from the socket; `none` where the stream ends.
-/
def readPacket (c : Connection) : Step (Option Packet) :=
  let (answer, decoder, inbox) := readFrom c.decoder c.inbox
  ⟨answer, [], { c with decoder, inbox }⟩

/-! ### One echo -/

/-- Logs in, sends one echo request and reads the next arrival as the reply, whatever it is. -/
def exchangeEcho (c : Connection) (peer : String) (message : Bytes) : Step Packet :=
  let login := c.sendLogin
  match login.answer with
  | .error e => ⟨.error e, login.written, login.connection⟩
  | .ok _ =>
    let request := login.connection.send (.echo peer message)
    let written := login.written ++ request.written
    match request.answer with
    | .error e => ⟨.error e, written, request.connection⟩
    | .ok _ =>
      let reply := request.connection.readRaw
      match reply.answer with
      | .error e => ⟨.error e, written, reply.connection⟩
      | .ok bs => ⟨(Packet.parse bs).mapError .packet, written, reply.connection⟩

/-- Closes the writing side. -/
def close (c : Connection) : Except Error Unit := c.sink.close.mapError .io

end Connection
end Courier.Link
