import ApiTypings.Command.Run
import ApiTypings.Http.Message
import Std.Async.DNS
import Std.Async.TCP

/-!
# The program

The outer layer looks at the disk, asks servers and prints. What is to be done is
decided by `Command.run`, which is run again with the replies it was missing until
it misses none.

Connections are plain; a server that has to be asked over TLS counts as not
reachable.
-/

namespace ApiTypings.Main

open Std.Async Std.Net

/-! ## The network -/

/-- Receives until the other side closes the connection. -/
partial def receiveAll (socket : TCP.Socket.Client) (done : ByteArray) : Async ByteArray := do
  match ← socket.recv? 65536 with
  | none => return done
  | some bytes => receiveAll socket (done ++ bytes)

def socketAddress (host : IPAddr) (port : UInt16) : SocketAddress :=
  match host with
  | .v4 a => .v4 ⟨a, port⟩
  | .v6 a => .v6 ⟨a, port⟩

/-- Sends a request to an address and takes the answer. -/
def talk (address : SocketAddress) (request : String) : IO Reply := do
  let socket ← TCP.Socket.Client.mk
  let bytes ← Async.block do
    socket.connect address
    socket.send request.toUTF8
    receiveAll socket .empty
  return Http.reply bytes.toList

def ask (text : String) : IO Reply := do
  match Url.parse text with
  | .error _ => return .none
  | .ok u =>
    match u.authority with
    | none => return .none
    | some a =>
      if u.scheme != "http" then return .none
      let name := a.host.toList.filter fun c => c != '[' && c != ']'
      try
        let addresses ← (DNS.getAddrInfo (.ofList name) "").block
        match addresses[0]? with
        | none => return .none
        | some address =>
          talk (socketAddress address (.ofNat (a.port.getD 80))) (Http.requestText u a)
      catch _ => return .none

/-- Runs a command until every reply it asks for is known. -/
partial def converse (w : Command.World) (started : Nat) (known : List Reply) :
    IO Command.Outcome := do
  let network : Server := ⟨fun number _ => known[number]?.getD .none⟩
  let elapsed := Command.durationText ((← IO.monoMsNow) - started)
  let o := Command.run { w with network, elapsed }
  let missing := o.exchanges.drop known.length
  if missing.isEmpty then return o
  let replies ← missing.mapM fun x => ask x.url
  converse w started (known ++ replies)

/-! ## The disk -/

def pathOf (l : Location) : String := "/" ++ Text.join "/" l

/-- Adds what is at a location to a file tree. -/
def observe (t : FileTree) (l : Location) : IO FileTree := do
  try
    let path ← IO.FS.realPath (pathOf l)
    if ← path.isDir then return t.put l .directory
    else return t.put l (.file (← IO.FS.readFile path))
  catch _ => return t

/-- Adds what is at a path and at the directories above it. -/
def observePath (cwd : Location) (t : FileTree) (path : String) : IO FileTree :=
  let l := Path.resolve cwd path
  (List.range (l.length + 1)).tail.foldlM (fun t n => observe t (l.take n)) t

/-- Adds what is in a directory. -/
def observeDirectory (cwd : Location) (t : FileTree) (path : String) : IO FileTree := do
  let t ← observePath cwd t path
  let l := Path.resolve cwd path
  try
    let entries ← (← IO.FS.realPath (pathOf l)).readDir
    entries.toList.foldlM (fun t e => observe t (l ++ [e.fileName])) t
  catch _ => return t

/-- Writes what changed. -/
def writeChanges (before after : FileTree) : IO Unit :=
  after.entries.forM fun (l, e) => do
    if before.find? l != some e then
      match e with
      | .directory => IO.FS.createDirAll (pathOf l)
      | .file text => IO.FS.writeFile (pathOf l) text

/-! ## Running -/

/-- The environment variables that matter, if they are set. -/
def setVariables : IO (List (String × String)) :=
  [Layer.tokenVariable, Layer.baseUrlVariable, Command.logVariable].filterMapM fun name => do
    return (← IO.getEnv name).map (name, ·)

/-- The world of a command, with the files that may matter to it. -/
def world (arguments : List String) : IO Command.World := do
  let found ← setVariables
  let w : Command.World :=
    { arguments
      environment := (Assoc.find? · found)
      files := .empty
      cwd := Path.components (← IO.currentDir).toString
      home := (← IO.getEnv "HOME").filter (!·.isEmpty)
      network := Transport.offline
      elapsed := "" }
  let files ← (w.directory :: w.settingsFiles).foldlM (observePath w.cwd) w.files
  let w := { w with files }
  match w.destination? with
  | none => return w
  | some path => return { w with files := ← observeDirectory w.cwd w.files path }

end ApiTypings.Main

open ApiTypings in
def main (arguments : List String) : IO UInt32 := do
  let w ← Main.world arguments
  let o ← Main.converse w (← IO.monoMsNow) []
  Main.writeChanges w.files o.files
  o.log.forM fun l => IO.eprintln l.text
  IO.eprint o.errors
  IO.print o.output
  return .ofNat o.exit
