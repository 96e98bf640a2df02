import Courier.Text.Utf8

/-! Packets: a command, the name of a peer, and data.

A text message is carried as its bytes and a NUL. `message` takes one NUL from the end again, so
that a message which itself ends in NUL comes back whole (`message_text`). -/
namespace Courier

/-- What one frame carries. -/
structure Packet where
  command : UInt8
  /-- Who the packet goes to, or who it comes from. -/
  peer : String
  payload : Bytes
  deriving DecidableEq, Repr

namespace Packet

/-- The command of the first packet, which names the client. -/
def loginCommand : UInt8 := 0
/-- The command that asks for an answer with the same data. -/
def echoCommand : UInt8 := 65
/-- The command of such an answer. -/
def echoAnswerCommand : UInt8 := 66

/-- The bytes in front of the name. -/
def headerSize : Nat := 8
/-- The longest name, without the NUL behind it. -/
def maxPeerSize : Nat := 254
/-- The most data that two bytes can count. -/
def maxPayloadSize : Nat := 65535

/-- What packet buffers hold by convention. -/
def bufferSize : Nat := 2048

def defaultPort : Nat := 9010

/-- A packet with a text message, which a NUL ends. -/
def text (command : UInt8) (peer : String) (message : Bytes) : Packet :=
  ⟨command, peer, message ++ [0]⟩

/-- The data as a message, without the NUL at its end. -/
def message (p : Packet) : Bytes :=
  if p.payload.getLast? = some 0 then p.payload.dropLast else p.payload

def messageText (p : Packet) : String := Text.lossy p.message

/-- The bytes that the packet takes on the wire: header, name, NUL and data. -/
def size (p : Packet) : Nat := headerSize + (Text.utf8 p.peer).length + 1 + p.payload.length

@[simp] theorem message_text (command : UInt8) (peer : String) (message : Bytes) :
    (text command peer message).message = message := by
  simp [text, Packet.message]

/-- The login packet has no peer; its message is the name of the host. -/
def login (host : String) : Packet := text loginCommand "" (Text.utf8 host)

/-- A packet that asks a peer for an echo. -/
def echo (peer : String) (message : Bytes) : Packet := text echoCommand peer message

/-- The answer to an echo request goes back with the same data. -/
def echoAnswer (request : Packet) : Packet := ⟨echoAnswerCommand, request.peer, request.payload⟩

end Packet
end Courier
