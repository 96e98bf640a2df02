import Courier.Http.Wire

/-! A server that answers from a script.

It can be reached at one address. Each request takes the next reply of the script, and when the
script is at its end every request succeeds with nothing in its body. -/
namespace Courier.Http

/-- What the script sends for one request. -/
structure Scripted where
  status : Nat := 200
  /-- The reason, byte by byte; the usual one of the status if there is none. -/
  reason : Option Bytes := none
  body : Bytes := []
  /-- The length that is announced, if it is not that of the body. -/
  announced : Option Nat := none
  /-- The connection is closed instead. -/
  dropped : Bool := false
  deriving DecidableEq, Repr

namespace Scripted

/-- The reasons that servers give with the statuses which scripts use. -/
def usualReasons : List (Nat × String) :=
  [(200, "OK"), (201, "Created"), (202, "Accepted"), (204, "No Content"),
   (300, "Multiple Choices"), (304, "Not Modified"), (400, "Bad Request"), (401, "Unauthorized"),
   (403, "Forbidden"), (404, "Not Found"), (409, "Conflict"), (500, "Internal Server Error"),
   (502, "Bad Gateway"), (503, "Service Unavailable")]

def usualReason (status : Nat) : String := (usualReasons.lookup status).getD ""

/-- Whether a response with this status ends behind its head. -/
def hasNoBody (status : Nat) : Bool := status = 204 || status = 304

/-- What goes over the connection. The reason stands there as it is, whatever it holds. -/
def toBytes (s : Scripted) : Bytes :=
  let reason := s.reason.getD (Text.utf8 (usualReason s.status))
  let body := if hasNoBody s.status then [] else s.body
  let length := s.announced.getD body.length
  Text.utf8 s!"HTTP/1.1 {s.status} " ++ reason ++
    Text.utf8 s!"\r\ncontent-length: {length}\r\nconnection: close\r\n\r\n" ++ body

/-- What comes of a request that is answered so. -/
def reply (s : Scripted) : Reply := if s.dropped then .lost else .ofBytes s.toBytes

end Scripted

/-- A server in the middle of its script. -/
structure Script where
  replies : List Scripted
  /-- The requests that came in, the last one first. -/
  seen : List Request := []

namespace Script

def host : String := "server.test"
def port : Nat := 8080

/-- Whether an address is that of the server. -/
def isReached (u : Url) : Bool :=
  u.scheme == "http" && u.host == some (.name host) && u.port == some port

/-- The reply to a request. One to another address is not noted and uses up nothing. -/
def answer (script : Script) (request : Request) : Reply × Script :=
  if !isReached request.url then (.lost, script)
  else
    let next := script.replies.headD {}
    (next.reply, ⟨script.replies.tail, request :: script.seen⟩)

end Script
end Courier.Http
