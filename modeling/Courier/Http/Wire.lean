import Courier.Http.Message
import Courier.Text.Cut
import Courier.Text.Numeral

/-! Requests and responses as they go over a connection.

A connection serves one request, and the server closes it behind the response. The head of a
response is lines: its status, then a field each, then an empty one. It says where the body ends. A
response whose head makes no sense is no response, and one whose body breaks off has no body. -/
namespace Courier.Http

/-! ### Requests -/

/-- What ends each line of a head that is written. -/
def lineEnd : String := "\r\n"

/-- The fields of a request. The type of the body is only given where there is one. -/
def Request.fields (r : Request) : List (String × String) :=
  let contentType := match r.contentType with
    | some type => [("content-type", type)]
    | none => []
  [("host", r.url.hostText ++ r.url.portText), ("user-agent", userAgent), ("accept", "*/*"),
    ("authorization", r.authorization), ("content-length", s!"{r.body.length}"),
    ("connection", "close")] ++ contentType

/-- A request as it is sent, head and body. -/
def Request.toBytes (r : Request) : Bytes :=
  let first := s!"{r.method.name} {r.url.target} HTTP/1.0"
  let fields := r.fields.map fun (name, value) => s!"{name}: {value}"
  Text.utf8 (String.join ((first :: fields).map (· ++ lineEnd)) ++ lineEnd) ++ r.body

/-! ### Lines -/

def lineFeed : UInt8 := 0x0A
def carriageReturn : UInt8 := 0x0D
def isLineEnd (b : UInt8) : Bool := b = lineFeed || b = carriageReturn

/-- The first line, without what ends it, and what follows. -/
def cutLine (bs : Bytes) : Option (Bytes × Bytes) :=
  (Text.cutFirst lineFeed bs).map fun (line, rest) =>
    (if line.getLast? = some carriageReturn then line.dropLast else line, rest)

/-- A byte that may stand in a reason or in the value of a field: no control character. -/
def isTextByte (b : UInt8) : Bool := b = 0x09 || (0x20 ≤ b && b ≠ 0x7F)

def isAscii (b : UInt8) : Bool := b < 0x80

/-- The characters of ASCII bytes. -/
def asciiChars (bs : Bytes) : List Char := bs.map fun b => Char.ofNat b.toNat

/-- Whether a byte may stand in the name of a field. -/
def isNameByte (b : UInt8) : Bool :=
  let c := Char.ofNat b.toNat
  isAscii b && (c.isAlphanum || "!#$%&'*+-.^_`|~".toList.contains c)

/-- Blanks and tabs, which do not count around the value of a field. -/
def isGap (b : UInt8) : Bool := b = 0x20 || b = 0x09

/-- Leaves out the gaps at both ends. -/
def trimGaps (bs : Bytes) : Bytes := ((bs.dropWhile isGap).reverse.dropWhile isGap).reverse

/-! ### Heads -/

/-- The head of a response, as far as it is used. -/
structure Head where
  status : Nat
  reason : String
  /-- The fields in order, their names in small letters. -/
  fields : List (String × Bytes)
  deriving DecidableEq, Repr

/-- What the status line of a response may start with. -/
def versions : List Bytes := [Text.utf8 "HTTP/1.0 ", Text.utf8 "HTTP/1.1 "]

/-- What a reason is read as: nothing, if a byte of it is outside of ASCII. -/
def reasonText (reason : Bytes) : String :=
  if reason.all isAscii then String.ofList (asciiChars reason) else ""

/-- Status and reason. A space stands between them, also in front of an empty reason. -/
def readStatusLine (line : Bytes) : Option (Nat × String) := do
  let version ← versions.find? (·.isPrefixOf line)
  let digits := (line.drop version.length).take 3
  let status ← if digits.length = 3 then Text.readDigits (asciiChars digits) else none
  let reason ← match line.drop (version.length + 3) with
    | [] => some []
    | b :: reason => if b = 0x20 then some reason else none
  if status < 100 || !reason.all isTextByte then none else return (status, reasonText reason)

/-- Reads a line with a field. Blanks around the name are not allowed. -/
def readField (line : Bytes) : Option (String × Bytes) := do
  let (name, value) ← Text.cutFirst 0x3A line
  if name = [] || !name.all isNameByte || !value.all isTextByte then none
  else return (String.ofList ((asciiChars name).map Char.toLower), trimGaps value)

/-- The most fields that the head of a response may have. -/
def maxFields : Nat := 100

/-- Fields up to an empty line, one less than `lines`, and what follows that line. -/
def readFields : Nat → Bytes → Option (List (String × Bytes) × Bytes)
  | 0, _ => none
  | lines + 1, bs => do
    let (line, rest) ← cutLine bs
    if line = [] then return ([], rest)
    else
      let field ← readField line
      let (fields, rest) ← readFields lines rest
      return (field :: fields, rest)

/-- The longest head, in bytes. -/
def maxHeadSize : Nat := 417792

/-- A head and what follows it. Empty lines in front of it do not count. -/
def readHead (bs : Bytes) : Option (Head × Bytes) := do
  let (line, rest) ← cutLine (bs.dropWhile isLineEnd)
  let (status, reason) ← readStatusLine line
  let (fields, rest) ← readFields (maxFields + 1) rest
  if maxHeadSize < bs.length - rest.length then none else return (⟨status, reason, fields⟩, rest)

/-! ### Bodies -/

/-- Where a body ends. -/
inductive Framing where
  | empty
  | sized (length : Nat)
  /-- Behind a chunk of no bytes. -/
  | chunked
  /-- Where the connection does. -/
  | toEnd
  deriving DecidableEq, Repr

/-- The largest announced length of a body. -/
def maxLength : Nat := 18446744073709551613

/-- The values of all fields of this name, in order. -/
def Head.valuesOf (h : Head) (name : String) : List Bytes := (h.fields.filter (·.1 = name)).map (·.2)

/-- The items of the fields with a name. Commas stand between items. -/
def Head.itemsOf (h : Head) (name : String) : List Bytes :=
  (h.valuesOf name).flatMap fun value => (Text.cutAll 0x2C value).map trimGaps

/-- A length in decimal; `none` if it is too large. -/
def readLength (item : Bytes) : Option Nat :=
  if item.all isAscii then Text.readUpTo maxLength (asciiChars item) else none

/-- How the body behind a head is framed. A length may be named more than once, but has to be the
same each time. -/
def Head.framing (h : Head) : Option Framing :=
  if h.status = 101 || h.status = 204 || h.status = 304 then some .empty
  else
    match (h.itemsOf "transfer-encoding").getLast?, h.itemsOf "content-length" with
    | some coding, _ =>
      some (if (asciiChars coding).map Char.toLower = "chunked".toList then .chunked else .toEnd)
    | none, [] => some .toEnd
    | none, item :: items =>
      match readLength item with
      | some length => if items.all (readLength · = some length) then some (.sized length) else none
      | none => none

/-- The size in front of a chunk. What stands behind a semicolon does not count. -/
def chunkSize? (line : Bytes) : Option Nat :=
  let digits := trimGaps (line.takeWhile (· ≠ 0x3B))
  if digits = [] then none
  else (asciiChars digits).foldlM (fun n c => (Text.hexValue? c).map (n * 16 + ·)) 0

/-- The rest of a body in chunks, behind those that are read, the last one first. Each chunk uses up
a byte. -/
def readChunks (done : List Bytes) : Nat → Bytes → Option Bytes
  | 0, _ => none
  | steps + 1, bs => do
    let (line, rest) ← cutLine bs
    let size ← chunkSize? line
    if size = 0 then (readFields (maxFields + 1) rest).map fun _ => done.reverse.flatten
    else
      let chunk := rest.take size
      let (ending, rest) ← cutLine (rest.drop size)
      if chunk.length < size || ending ≠ [] then none else readChunks (chunk :: done) steps rest

/-- The body at the front of all that came behind a head, if all of it came. -/
def Framing.read (f : Framing) (bs : Bytes) : Option Bytes :=
  match f with
  | .empty => some []
  | .sized length =>
    let body := bs.take length
    if body.length < length then none else some body
  | .chunked => readChunks [] (bs.length + 1) bs
  | .toEnd => some bs

/-! ### Responses -/

/-- A status that only announces a response. -/
def Head.isInformational (h : Head) : Bool := h.status < 200 && h.status ≠ 101

/-- The first response that is not just an announcement. Each head uses up a byte. -/
def Reply.readFrom : Nat → Bytes → Reply
  | 0, _ => .lost
  | steps + 1, bs =>
    match readHead bs with
    | none => .lost
    | some (head, rest) =>
      if head.isInformational then Reply.readFrom steps rest
      else
        match head.framing with
        | none => .lost
        | some framing => .answered ⟨head.status, head.reason, framing.read rest⟩

/-- The response of which these are all bytes that came. -/
def Reply.ofBytes (bs : Bytes) : Reply := Reply.readFrom (bs.length + 1) bs

end Courier.Http
