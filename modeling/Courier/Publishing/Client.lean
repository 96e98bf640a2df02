import Courier.Http.Session
import Courier.Listing
import Courier.Publishing.Error
import Courier.Text.Base64

/-! The requests that a server of packages understands. -/
namespace Courier.Publishing

open Http (Session Reply Response)

/-- Who asks, and where. -/
structure Client where
  authorization : String
  /-- The address of the server, without slashes at its end. -/
  apiUrl : String
  owner : String
  deriving DecidableEq, Repr

/-- What came of creating a version. -/
inductive VersionStatus where
  | created
  | alreadyExists
  deriving DecidableEq, Repr

/-- What came of an upload. -/
inductive UploadStatus where
  | uploaded
  /-- The file is stored already. -/
  | conflict
  deriving DecidableEq, Repr

namespace Client

/-- The authorization that a request carries. -/
def basicAuthorization (user pass : Bytes) : String :=
  "Basic " ++ String.ofList (Text.Base64.encode (user ++ 0x3A :: pass))

def dropSlashes (text : String) : String :=
  String.ofList (text.toList.reverse.dropWhile (· = '/')).reverse

/-- A client with the credentials of the settings, without which there is none. -/
def ofSettings (settings : Settings) : Except Error Client :=
  match settings.credentials with
  | .error e => .error (.settings e)
  | .ok (user, pass) =>
    .ok { authorization := basicAuthorization (Text.utf8 user) (Text.utf8 pass)
          apiUrl := dropSlashes settings.apiUrl
          owner := settings.owner }

/-! ### Addresses -/

/-- The address of a place on the server, as text. What the place holds is not escaped. -/
def url (c : Client) (path : String) : String :=
  if path.toList.head? = some '/' then c.apiUrl ++ path else c.apiUrl ++ "/" ++ path

/-- The parts of a path, without the empty ones. -/
def pathSegments (path : String) : List String :=
  ((Text.cutAll '/' path.toList).filter (· ≠ [])).map String.ofList

/-- The address of a stored file. Segments of its path that are dots are left out of it. -/
def contentUrl (c : Client) (repository path : String) : Except Error Url :=
  match Url.parse c.apiUrl with
  | .error e => .error (.invalidUrl c.apiUrl (some e))
  | .ok base =>
    match base.appendAll (["content", c.owner, repository] ++ pathSegments path) with
    | some url => .ok url
    | none => .error (.invalidUrl c.apiUrl none)

/-! ### Requests -/

/-- User and password of an address; they are sent instead of those of the client. -/
def urlAuthorization (u : Url) : Option String :=
  let user := Url.percentDecode u.user.toList
  let pass := Url.percentDecode u.pass.toList
  let pass := if (Text.decode? pass).isSome then pass else []
  if (Text.decode? user).isNone || (user = [] && pass = []) then none
  else some (basicAuthorization user pass)

/-- A request to an address, which is sent without its user and password. -/
def requestTo (c : Client) (method : Http.Method) (u : Url) (contentType : Option String)
    (body : Bytes) : Http.Request :=
  { method, url := { u with user := "", pass := "" }, contentType, body
    authorization := (urlAuthorization u).getD c.authorization }

/-- Sends a request; one that has nowhere to go has no reply. A request is what is handed to the
HTTP library, and a reply what the library hands back: whether it follows redirects on the way, and
which schemes it refuses, lies in the reply. -/
def exchange (request : Option Http.Request) : Session Reply :=
  match request with
  | none => .done .lost
  | some r =>
    if r.url.host.isNone || Http.maxUrlSize < r.url.text.utf8ByteSize then .done .lost
    else .send r

/-- Sends a request to an address that is still text. -/
def exchangeText (c : Client) (method : Http.Method) (url : String) (contentType : Option String)
    (body : Bytes) : Session Reply :=
  exchange ((Url.parse url).toOption.map fun u => c.requestTo method u contentType body)

/-! ### Responses -/

def httpError (url : String) (r : Response) : Error := .http url r.status r.reason

/-- The whole body of a response. -/
def bodyOf (r : Response) : Except Error Bytes :=
  match r.body with
  | some body => .ok body
  | none => .error .transport

/-- An answer that depends on the status, once the body is there. -/
def settle {α : Type} (reply : Reply) (url : String) (read : Response → Option α) : Except Error α :=
  match reply with
  | .lost => .error .transport
  | .answered r =>
    match read r with
    | some answer => (bodyOf r).map fun _ => answer
    | none => .error (httpError url r)

/-- A body that is read. -/
def readBody {α : Type} (reply : Reply) (url : String) (read : Bytes → Option α) : Except Error α :=
  match reply with
  | .lost => .error .transport
  | .answered r =>
    if !r.isSuccess then .error (httpError url r)
    else
      match bodyOf r with
      | .error e => .error e
      | .ok body =>
        match read body with
        | some answer => .ok answer
        | none => .error .transport

/-! ### Versions and files -/

/-- Creating and uploading succeed, or find that there is nothing to do. -/
def outcome {α : Type} (fresh existing : α) (r : Response) : Option α :=
  if r.status = 200 ∨ r.status = 201 then some fresh
  else if r.status = 409 then some existing
  else none

/-- What the server is told of a new version. -/
def versionBody (version description : String) : Bytes :=
  Text.utf8 s!"\x7b\"name\":{Json.quote version},\"desc\":{Json.quote description}\x7d"

/-- Where the server has a package. -/
def packagePath (c : Client) (repository package : String) : String :=
  s!"/packages/{c.owner}/{repository}/{package}"

/-- Creates a version, which may exist already. -/
def createVersion (c : Client) (repository package version description : String) :
    Session (Except Error VersionStatus) :=
  let url := c.url (c.packagePath repository package ++ "/versions")
  (c.exchangeText .post url (some "application/json") (versionBody version description)).bind
    fun reply => .done (settle reply url (outcome .created .alreadyExists))

/-- Uploads a file to a place, where it may be stored already. -/
def uploadFile (c : Client) (path : String) (data : Bytes) : Session (Except Error UploadStatus) :=
  let url := c.url path
  (c.exchangeText .put url (some "application/binary") data).bind
    fun reply => .done (settle reply url (outcome .uploaded .conflict))

/-- Asks for the files of a package. -/
def listFiles (c : Client) (repository package : String) (unpublished : Bool) :
    Session (Except Error (List RemoteFile)) :=
  let flag := if unpublished then "1" else "0"
  let url := c.url (c.packagePath repository package ++ s!"/files?include_unpublished={flag}")
  (c.exchangeText .get url none []).bind fun reply => .done (readBody reply url Listing.parse?)

/-- Asks for all that the server tells about a package. -/
def packageInfo (c : Client) (repository package : String) : Session (Except Error Json) :=
  let url := c.url (c.packagePath repository package)
  (c.exchangeText .get url none []).bind fun reply => .done (readBody reply url Json.parse?)

/-- Deletes a stored file. Where its path says nothing the address is that of the whole repository.
-/
def deleteFile (c : Client) (repository path : String) : Session (Except Error Unit) :=
  match c.contentUrl repository path with
  | .error e => .done (.error e)
  | .ok url =>
    (exchange (some (c.requestTo .delete url none []))).bind fun reply =>
      .done (settle reply url.text fun r => if r.isSuccess then some () else none)

end Client
end Courier.Publishing
