import Courier.Http.Message
import Courier.Report

/-! Sessions with a server, as data.

A session prints lines and sends requests, and goes on with the reply to each of them until it ends
in an answer. It says nothing of where the replies come from: `play` takes them from a function
that stands for the server. -/
namespace Courier.Http

/-- What is still to be done, up to the answer. What comes behind a request depends on its reply. -/
inductive Session (α : Type) where
  | done (answer : α)
  | print (line : Output) (next : Session α)
  | ask (request : Request) (next : Reply → Session α)

namespace Session

variable {α β : Type}

/-- Goes on with another session, which may depend on the answer of the first. -/
def bind (s : Session α) (f : α → Session β) : Session β :=
  match s with
  | .done answer => f answer
  | .print line next => .print line (next.bind f)
  | .ask request next => .ask request fun reply => (next reply).bind f

instance : Monad Session where
  pure := .done
  bind := bind

/-- Prints one line. -/
def say (line : Output) : Session Unit := .print line (.done ())

/-- Prints lines, one after the other. -/
def sayAll (lines : List Output) : Session Unit :=
  match lines with
  | [] => .done ()
  | line :: rest => .print line (sayAll rest)

/-- Sends one request; the answer is its reply. -/
def send (request : Request) : Session Reply := .ask request .done

/-- Goes on with a result, unless it is an error. -/
def andThen {ε : Type} (s : Session (Except ε α)) (f : α → Session (Except ε β)) :
    Session (Except ε β) :=
  s.bind fun
    | .ok a => f a
    | .error e => .done (.error e)

/-- Changes a result that is no error. -/
def mapOk {ε : Type} (f : α → β) (s : Session (Except ε α)) : Session (Except ε β) :=
  s.andThen fun a => .done (.ok (f a))

/-- What came of a session: its answer, the lines it printed, and the state of the server. -/
structure Played (σ α : Type) where
  answer : α
  lines : List Output
  server : σ

/-- A session with a server whose replies depend on its state. -/
def play {σ : Type} (reply : σ → Request → Reply × σ) (server : σ) : Session α → Played σ α
  | .done answer => ⟨answer, [], server⟩
  | .print line next =>
    let played := play reply server next
    { played with lines := line :: played.lines }
  | .ask request next =>
    let (r, server) := reply server request
    play reply server (next r)

end Session
end Courier.Http
