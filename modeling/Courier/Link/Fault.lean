import Courier.Packet.Error

/-! What goes wrong on a link to a server. -/
namespace Courier.Link

/-- The kinds of faults that are told apart. -/
inductive FaultKind where
  | connectionReset
  | connectionAborted
  | brokenPipe
  | unexpectedEnd
  | other
  deriving DecidableEq, Repr

/-- A failure of the stream below the packets, with the words it is reported in. -/
structure Fault where
  kind : FaultKind
  text : String
  deriving DecidableEq, Repr

/-- A write that took nothing, though there was something to write. -/
def Fault.writeZero : Fault := ⟨.other, "write zero"⟩

/-- The fault of a server that nobody listens at. -/
def Fault.refused : Fault := ⟨.other, "Connection refused (os error 111)"⟩

/-- Why an operation on a connection did not succeed. -/
inductive Error where
  | io (fault : Fault)
  | packet (error : Packet.Error)
  | closed
  deriving DecidableEq, Repr

namespace Error

def message : Error → String
  | .io fault => "I/O error: " ++ fault.text
  | .packet error => "protocol error: " ++ error.message
  | .closed => "connection closed"

/-- Whether the other side went away, as opposed to a failure on this side. -/
def isDisconnect : Error → Bool
  | .closed => true
  | .io fault => fault.kind != .other
  | .packet _ => false

end Error
end Courier.Link
