import Courier.Url.Host

/-! Addresses of what a server holds, in their parts. Each part is kept as it is written. -/
namespace Courier

/-- Segments behind slashes, or a text of which nothing is known. -/
inductive Url.Path where
  | segments (all : List String)
  | opaqueText (text : String)
  deriving DecidableEq, Repr

/-- An address, taken apart. -/
structure Url where
  scheme : String
  user : String := ""
  pass : String := ""
  host : Option Url.Host := none
  /-- The port, unless it is the usual one of the scheme. -/
  port : Option Nat := none
  path : Url.Path
  /-- Whether a dot stands in front of the path. Two slashes at the start of a path would look like
  a host where there is none. The dot stays when the path is changed. -/
  guarded : Bool := false
  query : Option String := none
  fragment : Option String := none
  deriving DecidableEq, Repr

namespace Url

/-! ### Schemes -/

/-- The usual ports of the schemes that always have a host. -/
def usualPorts : List (String × Nat) :=
  [("http", 80), ("https", 443), ("ws", 80), ("wss", 443), ("ftp", 21)]

/-- The usual port of a scheme; a scheme that is not known has none. -/
def usualPort? (scheme : String) : Option Nat := usualPorts.lookup scheme

/-- The scheme of local files, which may do without a host. -/
def fileScheme : String := "file"

/-- Schemes of which the parts are known. In their paths a backslash counts as a slash. -/
def isSpecial (scheme : String) : Bool := (usualPort? scheme).isSome || scheme == fileScheme

/-! ### Writing -/

/-- The path as it stands in an address, each segment behind a slash. -/
def Path.text : Path → String
  | .segments all => String.join (all.map ("/" ++ ·))
  | .opaqueText text => text

/-- User and password as they stand in an address. -/
def userInfo (u : Url) : String :=
  if u.user = "" ∧ u.pass = "" then ""
  else u.user ++ (if u.pass = "" then "" else ":" ++ u.pass) ++ "@"

def portText (u : Url) : String :=
  match u.port with
  | some port => s!":{port}"
  | none => ""

def hostText (u : Url) : String :=
  match u.host with
  | some host => host.text
  | none => ""

/-- Everything between the scheme and the path. -/
def authority (u : Url) : String :=
  match u.host with
  | some _ => "//" ++ u.userInfo ++ u.hostText ++ u.portText
  | none => if u.guarded then "/." else ""

def queryText (u : Url) : String :=
  match u.query with
  | some query => "?" ++ query
  | none => ""

def fragmentText (u : Url) : String :=
  match u.fragment with
  | some fragment => "#" ++ fragment
  | none => ""

/-- The address as it is written. -/
def text (u : Url) : String :=
  u.scheme ++ ":" ++ u.authority ++ u.path.text ++ u.queryText ++ u.fragmentText

/-- What a request names: path and query. -/
def target (u : Url) : String := u.path.text ++ u.queryText

end Url
end Courier
