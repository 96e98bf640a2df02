import Courier.Link.Fault
import Courier.Text.Cut
import Courier.Text.Numeral

/-! Where a server is: a host and, behind the last colon, a port. -/
namespace Courier.Link

/-- A host as it is written, and the number of a port. -/
structure Address where
  host : String
  port : Nat
  deriving DecidableEq, Repr

namespace Address

def maxPort : Nat := 65535

def noPort : Fault := ⟨.other, "invalid socket address"⟩

/-- The fault of an address with something else than a port behind the last colon. -/
def invalidPort : Fault := ⟨.other, "invalid port value"⟩

/-- Reads an address. The host is not looked at, and may hold colons itself. -/
def ofText (text : String) : Except Fault Address :=
  match Text.cutLast ':' text.toList with
  | none => .error noPort
  | some (host, port) =>
    match Text.readUnsigned maxPort port with
    | none => .error invalidPort
    | some port => .ok ⟨String.ofList host, port⟩

end Address
end Courier.Link
