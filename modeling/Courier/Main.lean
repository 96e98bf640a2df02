import Courier.Http.Wire
import Courier.Program.Packages
import Courier.Program.PeerClient
import Std.Async.DNS
import Std.Async.TCP
import Std.Sync.Channel

/-! The two programs behind one command, which names the program by its first argument.

Here is all that touches files, the network and the console. What to print, to send and to answer
is decided elsewhere. -/
namespace Courier.Main

open Std.Async (DNS.getAddrInfo TCP.Socket.Client)

def printLine : Output → IO Unit
  | .out text => IO.println text
  | .err text => IO.eprintln text

/-! ### Surroundings -/

/-- The variables that the programs look at, and no others. -/
def variableNames : List String :=
  ["BINTRAY_CONFIG", "BINTRAY_USER", "BINTRAY_PASS", "BINTRAY_REPO", "BINTRAY_COMPONENT",
    "BINTRAY_ORG", "BINTRAY_API", "TEONET_L0_SERVER"]

/-- The variables as they are set when a program starts. -/
def environment : IO Environment := do
  let values ← variableNames.filterMapM fun name => do return (← IO.getEnv name).map (name, ·)
  return fun name => values.lookup name

/-- Reads what is at and below an entry. Links and what else is no file are left out. -/
partial def loadNode (entry : IO.FS.DirEntry) (type : IO.FS.FileType) :
    IO (Option FileTree.Node) := do
  match type with
  | .file => return some (.file (← IO.FS.readBinFile entry.path).toList)
  | .dir =>
    let nodes ← (← entry.path.readDir).toList.filterMapM fun child => do
      let node ← loadNode child (← child.path.symlinkMetadata).type
      return node.map (Text.utf8 child.fileName, ·)
    return some (.dir nodes)
  | _ => return none

/-- What is at a path, in a tree that has nothing else. -/
def load (tree : FileTree) (path : Path) : IO FileTree := do
  try
    let entry : IO.FS.DirEntry := { root := ".", fileName := path.text }
    match ← loadNode entry (← entry.path.metadata).type with
    | some node => return tree.add path node
    | none => return tree
  catch _ => return tree

/-- All files that a command looks at. -/
def files (env : Environment) (args : List String) : IO FileTree := do
  let config := (Settings.value? env "BINTRAY_CONFIG").map Text.utf8
  let source := match Program.Packages.Command.ofArguments args with
    | .ok command => command.source?
    | .error _ => none
  (config.toList ++ source.toList).foldlM load (FileTree.empty [])

/-! ### Network -/

/-- Connects to the first address of a host. -/
def dial (host : String) (port : Nat) : IO TCP.Socket.Client := do
  let addresses ← (DNS.getAddrInfo host s!"{port}").block
  match addresses[0]? with
  | none => throw (IO.userError "no address")
  | some address =>
    let socket ← TCP.Socket.Client.mk
    let port := UInt16.ofNat port
    (socket.connect (match address with
      | .v4 ip => .v4 ⟨ip, port⟩
      | .v6 ip => .v6 ⟨ip, port⟩)).block
    return socket

def send (socket : TCP.Socket.Client) (bytes : Bytes) : IO Unit :=
  (socket.send ⟨bytes.toArray⟩).block

/-- Waits for bytes; `none` where the stream ends. -/
def receive (socket : TCP.Socket.Client) (size : Nat) : IO (Option Bytes) := do
  return (← (socket.recv? size.toUInt64).block).map (·.toList)

/-- Takes all bytes up to the end of the stream. -/
partial def receiveAll (socket : TCP.Socket.Client) (done : Bytes) : IO Bytes := do
  match ← receive socket Link.maxBufferSize with
  | some bytes => receiveAll socket (done ++ bytes)
  | none => return done

/-! ### Publishing -/

/-- Sends a request over a connection of its own. Whatever goes wrong, the reply is lost. -/
def exchange (request : Http.Request) : IO Http.Reply := do
  try
    if request.url.scheme ≠ "http" then return .lost
    let socket ← dial request.url.hostText (request.url.port.getD 80)
    send socket request.toBytes
    return .ofBytes (← receiveAll socket [])
  catch _ => return .lost

/-- Plays a session against the real world. -/
def perform : Http.Session Nat → IO Nat
  | .done code => return code
  | .print line next => do
    printLine line
    perform next
  | .ask request next => do
    let reply ← exchange request
    perform (next reply)

/-- The program that publishes packages. -/
def publish (args : List String) : IO Nat := do
  let env ← environment
  perform (Program.Packages.run env (← files env args) args)

/-! ### Conversations -/

open Link Program.PeerClient

/-- Where socket and console leave what they bring to the conversation. -/
abbrev Inbox := Std.Channel.Sync Arrival

instance : Inhabited Arrival := ⟨.hangUp⟩

/-- The fault that an error of the system stands for. -/
def streamFault (e : IO.Error) : Fault :=
  match e with
  | .resourceVanished .. => ⟨.connectionReset, toString e⟩
  | .noSuchThing _ code _ => if code = 0 - 111 then .refused else ⟨.other, toString e⟩
  | _ => ⟨.other, toString e⟩

/-- Brings what comes from the socket, up to its end. -/
partial def hear (inbox : Inbox) (socket : TCP.Socket.Client) (size : Nat) : IO Unit := do
  match ← (receive socket size).toBaseIO with
  | .ok (some bytes) =>
    inbox.send (.bytes bytes)
    hear inbox socket size
  | .ok none => inbox.send .hangUp
  | .error e => inbox.send (.fault (streamFault e))

/-- Brings what is typed, line by line, up to the end of the console. -/
partial def readConsole (inbox : Inbox) (console : Console) : IO Unit := do
  let typed ← (← IO.getStdin).getLine
  let (lines, console) :=
    if typed.isEmpty then (console.finish, .closed) else console.type (Text.utf8 typed)
  lines.forM fun line => inbox.send (.line line)
  if !typed.isEmpty then readConsole inbox console

/-- Does what a part of a conversation consists of; `number` is that of the next event. -/
def enact (socket : TCP.Socket.Client) (number : Nat) : List Conversation.Action → IO Nat
  | [] => return number
  | .wrote bytes :: rest => do
    send socket bytes
    enact socket number rest
  | .received packet :: rest => do
    printLine (eventLine number (.received packet))
    enact socket (number + 1) rest

/-- Does a part of the conversation, and goes on with the next arrival until it ends. -/
partial def continueWith (socket : TCP.Socket.Client) (inbox : Inbox) (config : Config)
    (peer : String) (number : Nat) (part : Conversation.Part) : IO (Nat × Conversation.Ending) := do
  let number ← enact socket number part.1
  match part.2 with
  | .error ending => return (number, ending)
  | .ok state =>
    let arrival ← inbox.recv
    continueWith socket inbox config peer number (Conversation.meet config peer arrival state)

/-- Holds a conversation, and gives the exit code. -/
def listen (socket : TCP.Socket.Client) (config : Config) (command : Command) : IO Nat := do
  printLine listenTitle
  printLine (eventLine 1 .connected)
  let inbox : Inbox ← Std.Channel.Sync.new
  let _ ← IO.asTask (hear inbox socket config.bufferSize) .dedicated
  let _ ← IO.asTask (readConsole inbox (.opened [])) .dedicated
  let greeting := ⟨command.peer, Text.utf8 command.message⟩
  let (number, ending) ← continueWith socket inbox config command.peer 2
    (Conversation.greet config greeting { sink := {} })
  printLine (eventLine number .disconnected)
  match ending with
  | .ok () => return 0
  | .error e =>
    printLine (errorLine e)
    return 1

/-- Sends one message and prints the reply to it. -/
def echo (socket : TCP.Socket.Client) (config : Config) (command : Command) : IO Nat := do
  let connection : Connection := { config, inbox := [], sink := {} }
  let message := Text.utf8 command.message
  (echoTitle :: echoIntro config.host command).forM printLine
  send socket (connection.exchangeEcho command.peer message).written
  let inbox := match ← receive socket config.bufferSize with
    | some bytes => [Arrival.bytes bytes]
    | none => []
  match ({ connection with inbox }.exchangeEcho command.peer message).answer with
  | .error e =>
    printLine (errorLine e)
    return 1
  | .ok reply =>
    printLine (replyLine reply)
    printLine (.out "done")
    return 0

/-- Connects to the server at an address that is still text. -/
def reach (server : String) : IO (Except Fault TCP.Socket.Client) := do
  match Address.ofText server with
  | .error fault => return .error fault
  | .ok address => return (← (dial address.host address.port).toBaseIO).mapError streamFault

/-- The program that talks to a peer. -/
def talk (args : List String) : IO Nat := do
  match Job.ofArguments (← environment) args with
  | .error halt =>
    let outcome := halted halt
    outcome.lines.forM printLine
    return outcome.code
  | .ok job =>
    match ← reach job.server with
    | .error fault =>
      printLine (connectionFailed job.server fault)
      return 1
    | .ok socket =>
      let config : Config := { address := job.server, host := job.host }
      match job.command.mode with
      | .echo => echo socket config job.command
      | .listen => listen socket config job.command

end Courier.Main

open Courier.Main in
/-- Runs the program that the first argument names. -/
def main : List String → IO UInt32
  | "bintray" :: args => return (← publish args).toUInt32
  | "teol0cli" :: args => return (← talk args).toUInt32
  | _ => do
    IO.eprintln "Usage: courier (bintray | teol0cli) [arguments]"
    return 2
