import Courier.Link.Fault
import Courier.Text.Utf8

/-! What reaches a client, in order.

A script says what the socket delivers and what is typed at the console. `arrivals` cuts it into
what one wait of the client brings: at most a buffer full of bytes, a fault, or one typed line. The
client has read everything before it waits again, so the order of the script is the order of the
arrivals.

The console is a source of lines. A line ends at a line feed, and what is left at the end of the
console counts as a line. A line that is not UTF-8 closes the console, as a failed read does, and
what is typed after that reaches nobody. -/
namespace Courier.Link

/-- One thing that happens to a client: at its socket, or at its console. -/
inductive ScriptStep where
  | data (bytes : Bytes)
  | fault (fault : Fault)
  | hangUp
  | typed (bytes : Bytes)
  | consoleFault
  | consoleEnd
  deriving DecidableEq, Repr

/-- What one wait of the client brings. -/
inductive Arrival where
  | bytes (data : Bytes)
  | fault (fault : Fault)
  | hangUp
  | line (text : String)
  deriving DecidableEq, Repr

/-! ### Reads -/

/-- Data in pieces of at most `size` bytes; a size of 0 stands for 1. -/
def chunks (size : Nat) (bs : Bytes) : List Bytes :=
  if bs = [] then [] else bs.take (max size 1) :: chunks size (bs.drop (max size 1))
termination_by bs.length
decreasing_by
  have := List.length_pos_iff.2 ‹¬bs = []›
  simp only [List.length_drop]
  omega

/-! ### Lines -/

def lineFeed : UInt8 := 10
def carriageReturn : UInt8 := 13

/-- One byte in front of lines and of what follows the last of them. -/
def consLine (b : UInt8) : List Bytes × Bytes → List Bytes × Bytes
  | (lines, rest) =>
    if b = lineFeed then ([] :: lines, rest)
    else match lines with
      | [] => ([], b :: rest)
      | line :: more => ((b :: line) :: more, rest)

/-- The lines that end in `bs`, and what follows the last of them. -/
def splitLines (bs : Bytes) : List Bytes × Bytes := bs.foldr consLine ([], [])

/-- A line without the carriage return before its end. -/
def dropReturn (line : Bytes) : Bytes :=
  if line.getLast? = some carriageReturn then line.dropLast else line

/-- The readable lines at the front, and whether all lines are readable. -/
def readLines : List Bytes → List String × Bool
  | [] => ([], true)
  | line :: more =>
    match Text.decode? line with
    | none => ([], false)
    | some text => let (texts, whole) := readLines more; (text :: texts, whole)

/-- An open console holds the start of a line. -/
inductive Console where
  | opened (held : Bytes)
  | closed
  deriving DecidableEq, Repr

namespace Console

/-- The lines that new input completes. -/
def type (typed : Bytes) : Console → List String × Console
  | .closed => ([], .closed)
  | .opened held =>
    let (lines, rest) := splitLines (held ++ typed)
    let (texts, whole) := readLines (lines.map dropReturn)
    (texts, if whole then .opened rest else .closed)

/-- The line that the end of the console completes. -/
def finish : Console → List String
  | .opened (b :: held) => (readLines [b :: held]).1
  | _ => []

end Console

/-! ### Scripts -/

/-- What a script brings to a client that reads at most so many bytes at a time. Nothing comes
behind the end of the stream. -/
def arrivals (size : Nat) (console : Console) : List ScriptStep → List Arrival
  | [] => []
  | .data bytes :: rest => (chunks size bytes).map .bytes ++ arrivals size console rest
  | .fault fault :: rest => .fault fault :: arrivals size console rest
  | .hangUp :: _ => [.hangUp]
  | .typed bytes :: rest =>
    let (lines, console) := console.type bytes
    lines.map .line ++ arrivals size console rest
  | .consoleFault :: rest => arrivals size .closed rest
  | .consoleEnd :: rest => console.finish.map .line ++ arrivals size .closed rest

/-- What reaches a client without a console. -/
def socketArrivals (size : Nat) (script : List ScriptStep) : List Arrival :=
  arrivals size .closed script

end Courier.Link
