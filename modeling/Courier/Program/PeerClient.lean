import Courier.Link.Address
import Courier.Link.Peer
import Courier.Program.Arguments
import Courier.Report
import Courier.Settings.Load

/-! The program that talks to a peer behind a server.

It sends one message and prints the reply, or it holds a conversation until the server hangs up. -/
namespace Courier.Program.PeerClient

open Link

/-- Whether one message is exchanged, or a whole conversation. -/
inductive Mode where
  | echo
  | listen
  deriving DecidableEq, Repr

/-- The name of the command for it. -/
def Mode.name : Mode → String
  | .echo => "echo"
  | .listen => "listen"

/-- What is sent if no message is given. -/
def Mode.message : Mode → String
  | .echo => "Hello world from Teonet L0 client sample!"
  | .listen => "Hello world from Teonet L0 async client sample!"

/-- Who is talked to, and what is said first. -/
structure Command where
  mode : Mode
  peer : String
  message : String
  deriving DecidableEq, Repr

/-- A command and the server that it is for. -/
structure Job where
  server : String
  host : String
  command : Command
  deriving DecidableEq, Repr

/-! ### Arguments -/

/-- Where the server is. -/
def serverSwitch : Switch := { name := "server", letter := some 's', takesValue := true }
/-- The name to log in with. -/
def hostSwitch : Switch := { name := "host-name", takesValue := true }
/-- The peer to talk to. -/
def peerSwitch : Switch := { name := "peer", letter := some 'p', takesValue := true }
/-- The message to send. -/
def messageSwitch : Switch := { name := "message", letter := some 'm', takesValue := true }

/-- The server if none is given: on this computer, at the usual port. -/
def defaultServer : String := s!"127.0.0.1:{Packet.defaultPort}"
def defaultHost : String := "C2"
def defaultPeer : String := "ps-server"

/-- The form of both commands, which take the same switches and no words. -/
def form (mode : Mode) : Form Command where
  name := mode.name
  switches := [peerSwitch, messageSwitch]
  read a := match a.words with
    | [] => some
      { mode, peer := (a.value? peerSwitch.name).getD defaultPeer
        message := (a.value? messageSwitch.name).getD mode.message }
    | _ => none

/-- The server is given by a switch, or by a variable, or it is the one on this machine. -/
def Job.ofArguments (env : Environment) (args : List String) : Except Halt Job :=
  (readCommand [.version, serverSwitch, hostSwitch] [.help] [form .echo, form .listen] args).map
    fun (before, command) =>
      { command, host := (before.value? hostSwitch.name).getD defaultHost
        server := ((before.value? serverSwitch.name).or (env "TEONET_L0_SERVER")).getD defaultServer }

/-! ### Lines -/

def echoTitle : Output := .out "Teonet L0 client example, ver. 0.1.0\n"

def listenTitle : Output := .out "Teonet L0 async client example, ver. 0.1.0\n"

/-- What is about to be sent. -/
def echoIntro (host : String) (command : Command) : List Output :=
  let login := (Packet.login host).size
  let request := (Packet.echo command.peer (Text.utf8 command.message)).size
  [.out s!"Send {login} bytes initialize packet to L0 server",
    .out s!"Send {request} bytes packet to L0 server to peer {command.peer}, data: {command.message}"]

/-- What is printed of a reply. Its size counts the NUL, its text leaves it out. -/
def replyLine (p : Packet) : Output :=
  .out s!"Receive {p.payload.length} bytes data from L0 server, from peer {p.peer}, cmd: {p.command.toNat}, data: {p.messageText}"

/-- What is printed of a packet in a conversation. -/
def packetText (p : Packet) : String :=
  s!"Receive {p.size} bytes: {p.message.length} bytes data from L0 server, from peer {p.peer}, cmd: {p.command.toNat}, data: {p.messageText}"

/-- An event behind its number. -/
def eventLine (number : Nat) : Conversation.Event → Output
  | .connected => .out s!"{number}: Connected"
  | .received p => .out s!"{number}: {packetText p}"
  | .disconnected => .out s!"{number}: Disconnected"

/-- Only events are printed. -/
def recordLine : Conversation.Record → Option Output
  | .wrote _ => none
  | .event number _ event => some (eventLine number event)

/-- The error that ended a conversation. -/
def errorLine (e : Link.Error) : Output := .err s!"Error: {e.message}"

/-- The error of a server that cannot be reached. -/
def connectionFailed (server : String) (fault : Fault) : Output :=
  .err s!"Connection failed: {server}: {(Link.Error.io fault).message}"

/-! ### The program -/

/-- What came of a program that talked to a server. -/
structure Outcome where
  code : Nat
  lines : List Output
  /-- All bytes that the server got. -/
  sent : Bytes := []

/-- Sends one message to a server that behaves as its script says. -/
def echo (config : Config) (command : Command) (steps : List PeerStep) : Outcome :=
  let connection : Connection :=
    { config, inbox := Peer.arrivalsFor config.bufferSize 2 steps, sink := {} }
  let exchange := connection.exchangeEcho command.peer (Text.utf8 command.message)
  let before := echoTitle :: echoIntro config.host command
  match exchange.answer with
  | .error e => ⟨1, before ++ [errorLine e], exchange.written⟩
  | .ok reply => ⟨0, before ++ [replyLine reply, .out "done"], exchange.written⟩

/-- The bytes that go out, without the reports between them. -/
def bytesWritten : List Conversation.Action → Bytes
  | [] => []
  | .wrote bytes :: rest => bytes ++ bytesWritten rest
  | .received _ :: rest => bytesWritten rest

/-- Holds a conversation with such a server. -/
def listen (config : Config) (command : Command) (steps : List PeerStep) (typed : Bytes) : Outcome :=
  let (whole, console) := (Console.opened []).type typed
  let greeting := ⟨command.peer, Text.utf8 command.message⟩
  let (done, ending) := Peer.converse config greeting steps (whole ++ console.finish)
  let lines := listenTitle :: (Conversation.report done).filterMap recordLine
  match ending with
  | .error e => ⟨1, lines ++ [errorLine e], bytesWritten done⟩
  | .ok () => ⟨0, lines, bytesWritten done⟩

/-- The servers that can be reached, each with its script. -/
abbrev Network := Address → Except Fault (List PeerStep)

/-- Reaches the server at an address that is still text. -/
def connect (network : Network) (server : String) : Except Fault (List PeerStep) :=
  match Address.ofText server with
  | .error fault => .error fault
  | .ok address => network address

/-- How the program is to be called. -/
def usageText : String :=
  "Usage: teol0cli [-s <host:port>] [--host-name <name>] <command> [-p <peer>] [-m <message>]\n\n" ++
    "Commands:\n  echo    Send one message and print the reply\n" ++
    "  listen  Answer requests and send typed lines until the server hangs up"

/-- What the program does instead of its work. -/
def halted : Halt → Outcome
  | .version => ⟨0, [.out "teol0cli 0.1.0"], []⟩
  | .help => ⟨0, [.out usageText], []⟩
  | .usage | .noCommand => ⟨2, [.err usageText], []⟩

/-- What comes of the program, given who can be reached and what is typed. -/
def run (env : Environment) (network : Network) (args : List String) (typed : Bytes) : Outcome :=
  match Job.ofArguments env args with
  | .error halt => halted halt
  | .ok job =>
    match connect network job.server with
    | .error fault => ⟨1, [connectionFailed job.server fault], []⟩
    | .ok steps =>
      let config : Config := { address := job.server, host := job.host }
      match job.command.mode with
      | .echo => echo config job.command steps
      | .listen => listen config job.command steps typed

end Courier.Program.PeerClient
