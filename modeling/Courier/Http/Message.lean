import Courier.Text.Utf8
import Courier.Url.Parse

/-! Requests to a server, and what comes back. -/
namespace Courier.Http

/-- The methods that the server of packages understands. -/
inductive Method where
  | get
  | post
  | put
  | delete
  deriving DecidableEq, Repr

/-- The method as a request writes it. -/
def Method.name : Method → String
  | .get => "GET"
  | .post => "POST"
  | .put => "PUT"
  | .delete => "DELETE"

/-- A request with all that differs from one to another. -/
structure Request where
  method : Method
  url : Url
  authorization : String
  contentType : Option String := none
  body : Bytes := []
  deriving DecidableEq, Repr

/-- How the client calls itself. -/
def userAgent : String := "teonet-bintray/0.1.0"

/-- What a server answers, as far as anybody asks for it. -/
structure Response where
  status : Nat
  reason : String
  /-- The body, if all of it came. -/
  body : Option Bytes
  deriving DecidableEq, Repr

namespace Response

/-- Whether the status is one of success. -/
def isSuccess (r : Response) : Bool := 200 ≤ r.status && r.status < 300

end Response

/-- What comes of a request. -/
inductive Reply where
  /-- There is no response: nobody was reached, or what came back makes no sense. -/
  | lost
  | answered (response : Response)
  deriving DecidableEq, Repr

/-- The longest address that a request can go to, in bytes. -/
def maxUrlSize : Nat := 65534

end Courier.Http
