import Courier.Link.Conversation

/-! A conversation with a peer that follows a script.

The peer waits for packets and sends bytes. Whenever it waits for packets that have not come, the
next line is typed at the console of the client; with no line left nothing more can happen, and the
peer hangs up, as it does at the end of its script. -/
namespace Courier.Link

/-- One step in the script of a peer. -/
inductive PeerStep where
  /-- Waits until so many packets have come in all. -/
  | await (packets : Nat)
  | send (bytes : Bytes)
  deriving DecidableEq, Repr

namespace Peer

open Conversation (Action Ending Part State)

/-- What a peer sends to a client that sends `packets` packets and then only listens. -/
def arrivalsFor (size packets : Nat) : List PeerStep → List Arrival
  | [] => []
  | .await n :: rest => if n ≤ packets then arrivalsFor size packets rest else []
  | .send bytes :: rest => (chunks size bytes).map .bytes ++ arrivalsFor size packets rest

/-- Whether an action sends bytes, and is not only a report. -/
def isWrite : Action → Bool
  | .wrote _ => true
  | .received _ => false

/-- How many packets are among the actions: each of them is written at once. -/
def packetCount (actions : List Action) : Nat := (actions.filter isWrite).length

/-- The conversation after `done`. -/
def follow (config : Config) (peer : String) (done : List Action) (s : State) :
    List PeerStep → List String → Part
  | [], _ => (done, .ok s)
  | .send bytes :: rest, lines =>
    match Conversation.meetAll config peer ((chunks config.bufferSize bytes).map .bytes) s with
    | (more, .error ending) => (done ++ more, .error ending)
    | (more, .ok s) => follow config peer (done ++ more) s rest lines
  | .await n :: rest, lines =>
    if n ≤ packetCount done then follow config peer done s rest lines
    else
      match lines with
      | [] => (done, .ok s)
      | line :: lines =>
        match Conversation.meet config peer (.line line) s with
        | (more, .error ending) => (done ++ more, .error ending)
        | (more, .ok s) => follow config peer (done ++ more) s (.await n :: rest) lines
termination_by steps lines => (steps.length, lines.length)

/-- A whole conversation, the lines at the console given. -/
def converse (config : Config) (greeting : Greeting) (steps : List PeerStep) (lines : List String) :
    List Action × Ending :=
  let part : Part := match Conversation.greet config greeting { sink := {} } with
    | (done, .error ending) => (done, .error ending)
    | (done, .ok s) => follow config greeting.peer done s steps lines
  (part.1, part.ending)

end Peer
end Courier.Link
