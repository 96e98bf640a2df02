import Courier.Packet.Error
import Courier.Text.Cut

/-! The wire form of a packet.

A frame is a header of eight bytes, the name of the peer with a NUL after it, and the data:

    command, name size, data size (two bytes, low first), 0, 0, body sum, header sum

The name size counts the NUL. The body sum is the sum of all bytes after the header and the header
sum that of the seven bytes before it, both modulo 256.

`encode` writes a frame and `decode` reads one from the front of a buffer. `parse` reads a buffer as
one packet and trusts nothing in its header but the command. -/
namespace Courier.Packet

/-- The sum of all bytes, modulo 256. -/
def checksum (bs : Bytes) : UInt8 := bs.foldl (· + ·) 0

/-! ### Writing -/

/-- Name, NUL and data. -/
def body (p : Packet) : Bytes := Text.utf8 p.peer ++ 0 :: p.payload

/-- The header without its own sum. -/
def headerStart (p : Packet) : Bytes :=
  let nameSize := (Text.utf8 p.peer).length + 1
  let dataSize := p.payload.length
  [p.command, nameSize.toUInt8, dataSize.toUInt8, (dataSize / 256).toUInt8, 0, 0, checksum p.body]

/-- All bytes of a packet. This says nothing of whether the packet fits a frame. -/
def frame (p : Packet) : Bytes := p.headerStart ++ checksum p.headerStart :: p.body

/-- The frame of a packet, if it fits one. The errors are checked in this order. -/
def encode (p : Packet) : Except Error Bytes :=
  let name := Text.utf8 p.peer
  if 0 ∈ name then .error .invalidPeerName
  else if maxPeerSize < name.length then .error (.peerNameTooLong name.length)
  else if maxPayloadSize < p.payload.length then .error (.dataTooLarge p.payload.length)
  else .ok p.frame

/-- The frame of a packet, if it fits a buffer of `capacity` bytes. -/
def build (p : Packet) (capacity : Nat) : Except Error Bytes :=
  if capacity < p.size then .error (.bufferTooSmall p.size capacity) else p.encode

/-! ### Reading -/

/-- Reads the frame at the front of a buffer; `none` asks for more bytes. The second part of an
answer is what is left of the buffer. -/
def decode : Bytes → Except Error (Option (Packet × Bytes))
  | command :: nameSize :: low :: high :: r₀ :: r₁ :: bodySum :: headerSum :: rest =>
    let sum := checksum [command, nameSize, low, high, r₀, r₁, bodySum]
    let size := nameSize.toNat + (low.toNat + 256 * high.toNat)
    if sum ≠ headerSum then .error (.headerChecksum headerSum sum)
    else if nameSize = 0 then .error .invalidPeerName
    else if rest.length < size then .ok none
    else
      let body := rest.take size
      let name := body.take (nameSize.toNat - 1)
      if checksum body ≠ bodySum then .error (.dataChecksum bodySum (checksum body))
      else if body[nameSize.toNat - 1]? ≠ some 0 then .error .missingTerminator
      else match Text.decode? name with
        | none => .error .invalidUtf8
        | some peer =>
          .ok (some (⟨command, peer, body.drop nameSize.toNat⟩, rest.drop size))
  | _ => .ok none

/-- Reads a whole buffer: the name is what stands between the header and the first NUL after it,
the data all that comes after that NUL. -/
def parse (bs : Bytes) : Except Error Packet :=
  match bs with
  | command :: _ :: _ :: _ :: _ :: _ :: _ :: _ :: rest =>
    match Text.cutFirst 0 rest with
    | none => .error .missingTerminator
    | some (name, payload) =>
      match Text.decode? name with
      | none => .error .invalidUtf8
      | some peer => .ok ⟨command, peer, payload⟩
  | _ => .error (.truncated bs.length)

end Courier.Packet
