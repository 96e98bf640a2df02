import Courier.Packet.Basic
import Courier.Text.Numeral

/-! What can be wrong with a packet or with its bytes. -/
namespace Courier.Packet

/-- What is wrong, with the sizes or sums that show it. -/
inductive Error where
  | peerNameTooLong (size : Nat)
  | dataTooLarge (size : Nat)
  | bufferTooSmall (needed capacity : Nat)
  | headerChecksum (expected actual : UInt8)
  | dataChecksum (expected actual : UInt8)
  | invalidPeerName
  | truncated (size : Nat)
  | missingTerminator
  | invalidUtf8
  deriving DecidableEq, Repr

/-- A checksum as it is reported: two hexadecimal digits after `0x`. -/
def sumText (b : UInt8) : String := "0x" ++ String.ofList (Text.hexByte b)

def Error.message : Error → String
  | .peerNameTooLong size => s!"peer name too long: {size} bytes (max {maxPeerSize})"
  | .dataTooLarge size => s!"packet data too large: {size} bytes (max {maxPayloadSize})"
  | .bufferTooSmall needed capacity =>
    s!"buffer too small: packet needs {needed} bytes, capacity is {capacity}"
  | .headerChecksum expected actual =>
    s!"header checksum mismatch: expected {sumText expected}, got {sumText actual}"
  | .dataChecksum expected actual =>
    s!"data checksum mismatch: expected {sumText expected}, got {sumText actual}"
  | .invalidPeerName => "invalid peer name field"
  | .truncated size => s!"truncated packet: {size} bytes, header needs {headerSize}"
  | .missingTerminator => "peer name is not NUL-terminated"
  | .invalidUtf8 => "invalid UTF-8 in peer name"

end Courier.Packet
