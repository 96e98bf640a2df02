import Courier.Url.Segments

/-! Reading an address.

Blanks around it do not count, nor do tabs and line ends in it. It has to have a scheme. -/
namespace Courier.Url

/-! ### Cutting -/

/-- What a scheme may hold behind its first letter. -/
def isSchemeChar (c : Char) : Bool := c.isAlphanum || c = '+' || c = '-' || c = '.'

/-- The scheme, in small letters, and what follows its colon. -/
def cutScheme (cs : List Char) : Option (String × List Char) :=
  match cs.span isSchemeChar with
  | (c :: scheme, ':' :: rest) =>
    if c.isAlpha then some (String.ofList ((c :: scheme).map Char.toLower), rest) else none
  | _ => none

/-- What stands in front of a mark, and what behind it if there is one. -/
def cutAt (mark : Char) (cs : List Char) : List Char × Option (List Char) :=
  match Text.cutFirst mark cs with
  | some (before, after) => (before, some after)
  | none => (cs, none)

/-! ### Authorities -/

/-- User and password in front of the last at sign. -/
def cutUserInfo (cs : List Char) : List Char × List Char × List Char :=
  match Text.cutLast '@' cs with
  | none => ([], [], cs)
  | some (info, host) =>
    let (user, pass) := cutAt ':' info
    (user, pass.getD [], host)

/-- The host up to the first colon outside of brackets, and what follows that colon. -/
def cutPort (inside : Bool) : List Char → List Char × Option (List Char)
  | [] => ([], none)
  | c :: rest =>
    if c = ':' && !inside then ([], some rest)
    else
      let (host, port) := cutPort (c = '[' || (inside && c ≠ ']')) rest
      (c :: host, port)

def maxPort : Nat := 65535

/-- A port, if one is named and it is not the usual one. -/
def readPort (scheme : String) (port : List Char) : Except Error (Option Nat) :=
  if port = [] then .ok none
  else
    match Text.readUpTo maxPort port with
    | none => .error .badPort
    | some n => .ok (if usualPort? scheme = some n then none else some n)

/-! ### Paths -/

/-- A path that is not taken apart, as it is written. -/
def encodePath (segment : List Char) : String := String.ofList (percentEncode .path segment)

/-- The segments behind the first slash of a path. -/
def readSegments (cs : List Char) : List String :=
  resolveDots [] ((Text.cutAll '/' cs).map encodePath)

/-- The segments of a path that starts with a slash, or is empty. A path of a special scheme is
never empty. -/
def readPath (special : Bool) (cs : List Char) : Path :=
  match cs with
  | [] => .segments (if special then [""] else [])
  | c :: rest => .segments (readSegments (if c = '/' then rest else c :: rest))

/-! ### Addresses with a host -/

/-- An address with nothing but its scheme, its authority and its path. Behind a port a backslash
starts the path, also where it is no slash. -/
def readHosted (scheme : String) (cs : List Char) (more : Bool) : Except Error Url := do
  let special := isSpecial scheme
  let (authority, path) := cs.span (· ≠ '/')
  let (user, pass, rest) := cutUserInfo authority
  let (host, port) := cutPort false rest
  let (port, behind) := match port with
    | some port => let (port, behind) := port.span (· ≠ '\\'); (some port, behind)
    | none => (none, [])
  let named := user ≠ [] || pass ≠ [] || (authority = ['@'] && (path ≠ [] || more))
  if host = [] && (special || port.isSome || named) then throw .emptyHost
  let host ← if special then Host.parse host else Host.parseOpaque host
  let port ← readPort scheme (port.getD [])
  let encode cs := String.ofList (percentEncode .userInfo cs)
  return { scheme, user := encode user, pass := encode pass, host := some host, port
           path := readPath special (behind ++ path) }

/-! ### Addresses of files -/

/-- A file of a computer. Empty segments in front of its path do not count. A drive at the start of
the path belongs to this computer, whatever is named. -/
def fileOn (host : Host) (path : List Char) : Url :=
  let segments := readSegments path
  let (host, segments) := match segments with
    | first :: rest =>
      if isDrive first.toList then (Host.name "", writeDrive first :: rest) else (host, segments)
    | [] => (host, segments)
  let segments := segments.dropWhile (· = "")
  { scheme := fileScheme, host := some host
    path := .segments (if segments = [] then [""] else segments) }

/-- A file of this computer, or of one that is named behind two slashes. -/
def readFile (cs : List Char) : Except Error Url :=
  match cs with
  | '/' :: '/' :: rest =>
    let (host, path) := rest.span (· ≠ '/')
    if isDrive host then .ok (fileOn (.name "") rest)
    else if host = [] then .ok (fileOn (.name "") path)
    else
      (Host.parse host).map fun h =>
        if h = .name "localhost" then fileOn (.name "") path else fileOn h (path.drop 1)
  | '/' :: path => .ok (fileOn (.name "") path)
  | path => .ok (fileOn (.name "") path)

/-! ### Addresses -/

/-- An address without a host. -/
def readHostless (scheme : String) (path : Path) : Url :=
  let guarded := match path with
    | .segments ("" :: _ :: _) => true
    | _ => false
  { scheme, path, guarded }

/-- Everything but query and fragment; `more` says whether there is one of them. -/
def readMain (scheme : String) (cs : List Char) (more : Bool) : Except Error Url :=
  let cs := if isSpecial scheme then cs.map fun c => if c = '\\' then '/' else c else cs
  if scheme = fileScheme then readFile cs
  else if isSpecial scheme then readHosted scheme (cs.dropWhile (· = '/')) more
  else
    match cs with
    | '/' :: '/' :: rest => readHosted scheme rest more
    | '/' :: _ => .ok (readHostless scheme (readPath false cs))
    | _ => .ok (readHostless scheme (.opaqueText (String.ofList (percentEncode .controls cs))))

/-- What does not count at the ends of an address. -/
def isBlankEnd (c : Char) : Bool := c.toNat ≤ 0x20

def trimEnds (cs : List Char) : List Char :=
  ((cs.dropWhile isBlankEnd).reverse.dropWhile isBlankEnd).reverse

/-- Reads an address, or says what is wrong with it. -/
def parse (text : String) : Except Error Url :=
  let cs := (trimEnds text.toList).filter fun c => !isIgnored c
  match cutScheme cs with
  | none => .error .noBase
  | some (scheme, rest) =>
    let (rest, fragment) := cutAt '#' rest
    let (main, query) := cutAt '?' rest
    let querySet : EncodeSet := if isSpecial scheme then .specialQuery else .query
    let written (set : EncodeSet) (part : Option (List Char)) :=
      part.map fun cs => String.ofList (percentEncode set cs)
    (readMain scheme main (query.isSome || fragment.isSome)).map fun u =>
      { u with query := written querySet query, fragment := written .fragment fragment }

end Courier.Url
