import Std.Internal.UV.TCP
import Tether.CommandLine

/-!
# The program

The thin layer between the controller and the machine that it runs on: it reads the command line and
the files that this names, and then passes lines of the standard input, bytes of the remote client
and the time on to the controller, and what the controller has for the client and for the disk back.
-/

namespace Tether

namespace Main

open Std.Internal.UV Std.Net

/-- The number by which the operating system tells that a path is a directory. -/
def directoryCode : UInt32 := 21

def readFile (path : String) : IO (Except FileError (List UInt8)) := do
  match ← (IO.FS.readBinFile path).toBaseIO with
  | .ok bytes => return .ok bytes.toList
  | .error (.noFileOrDirectory ..) => return .error .notFound
  | .error _ => return .error .isADirectory

def isDirectory (path : String) : IO Bool := do
  match ← (IO.FS.readBinFile path).toBaseIO with
  | .error (.inappropriateType _ code _) => return code == directoryCode
  | _ => return false

/-- The host with the one directory that a configuration needs. -/
def findHost (config : Config) : IO Host := do
  let directory := config.device.downloadDir
  let storage := if ← isDirectory directory then Storage.bare.makeDirectories directory else .bare
  return ⟨storage, fun _ _ => none⟩

def socketAddress (address : Address) (port : Nat) : SocketAddress :=
  match address with
  | .v4 a b c d => .v4 ⟨⟨#v[a, b, c, d]⟩, UInt16.ofNat port⟩
  | .v6 groups => .v6 ⟨⟨Vector.ofFn fun i => groups.getD i 0⟩, UInt16.ofNat port⟩

/-- A socket that listens where a configuration says. -/
def listen (config : Config) : IO TCP.Socket := do
  let socket ← TCP.Socket.new
  socket.bind (socketAddress config.transport.bind config.transport.port)
  socket.listen 128
  return socket

/-- The outcome of a promise, once there is one. -/
def poll? {α : Type} (promise : IO.Promise (Except IO.Error α)) :
    IO (Option (Except IO.Error α)) := do
  if ← promise.isResolved then return promise.result?.get else return none

/-- Reads a line byte by byte, up to its end or that of the input. -/
partial def readLine (input : IO.FS.Stream) (line : ByteArray) : IO ByteArray := do
  let next ← input.read 1
  if next.isEmpty then return line
  else if next.toList = [10] then return line ++ next
  else readLine input (line ++ next)

/-- A line of the console that is being read. -/
abbrev Typing : Type := Task (Except IO.Error ByteArray)

/-- Starts to read a line. -/
def type : IO Typing := do
  let input ← IO.getStdin
  IO.asTask (readLine input .empty) .dedicated

/-- The name of the client that is served. -/
def clientName : String := "client"

/-- The client that is served: its socket, and what it is going to send. -/
structure Peer where
  socket : TCP.Socket
  incoming : IO.Promise (Except IO.Error (Option ByteArray))

/-- What the program waits for. -/
structure Sources where
  typing : Option Typing
  server : Option TCP.Socket
  accepting : Option (IO.Promise (Except IO.Error TCP.Socket))
  peer : Option Peer

/-- How many milliseconds pass between two looks at the sources. -/
def pause : UInt32 := 10

/-- How many bytes are asked of the client at a time. -/
def portion : UInt64 := 4096

section Loop

variable (device : Device)

/-- Passes a finished line on to the controller. -/
def serveConsole (controller : Controller device.δ) (sources : Sources) :
    IO (Controller device.δ × Sources) := do
  let some typing := sources.typing | return (controller, sources)
  unless ← IO.hasFinished typing do return (controller, sources)
  let closed := { sources with typing := none }
  match typing.get with
  | .error _ => return (controller, closed)
  | .ok line =>
      if line.isEmpty then return (controller, closed)
      let session := Console.Session.run controller.running line.toList
      let controller := controller.converse device.driver session
      if !session.running || session.failed then return (controller, closed)
      else return (controller, { sources with typing := some (← type) })

/-- Lets a client connect if none is served. -/
def serveDoor (controller : Controller device.δ) (sources : Sources) :
    IO (Controller device.δ × Sources) := do
  let some server := sources.server | return (controller, sources)
  if sources.peer.isSome then return (controller, sources)
  match sources.accepting with
  | none => return (controller, { sources with accepting := some (← server.accept) })
  | some accepting =>
      match ← poll? accepting with
      | none => return (controller, sources)
      | some (.error _) => return (controller, { sources with accepting := none })
      | some (.ok socket) =>
          let peer : Peer := ⟨socket, ← socket.recv? portion⟩
          return (controller.connectClient device.driver clientName,
            { sources with accepting := none, peer := some peer })

/-- Passes on what the client has sent. -/
def servePeer (controller : Controller device.δ) (sources : Sources) :
    IO (Controller device.δ × Sources) := do
  let some peer := sources.peer | return (controller, sources)
  match ← poll? peer.incoming with
  | none => return (controller, sources)
  | some (.ok (some bytes)) =>
      let incoming ← peer.socket.recv? portion
      return (controller.receive device.driver clientName bytes.toList,
        { sources with peer := some { peer with incoming := incoming } })
  | some _ => return (controller.closeClient device.driver clientName, sources)

/-- Sends the client what the controller has for it, and lets go of it after its session. -/
def answerPeer (controller : Controller device.δ) (sources : Sources) :
    IO (Controller device.δ × Sources) := do
  let some peer := sources.peer | return (controller, sources)
  let some link := controller.link? | return (controller, sources)
  let (bytes, heard, link) := link.drain clientName
  let controller := { controller with link? := some link }
  let sent ←
    if bytes.isEmpty then pure true
    else
      let promise ← peer.socket.send #[⟨bytes.toArray⟩]
      pure ((← IO.wait promise.result?).any (·.isOk))
  if heard && sent then return (controller, sources)
  discard peer.socket.shutdown.toBaseIO
  return (controller.closeClient device.driver clientName, { sources with peer := none })

/-- Stores the files that the camera has stored since the last time. -/
def storeFiles (known : List (String × List UInt8)) (controller : Controller device.δ) :
    IO (List (String × List UInt8)) := do
  let files := (device.files controller.assembly.camera.memory.device).files
  for (path, content) in files do
    unless known.contains (path, content) do
      discard (IO.FS.writeBinFile path ⟨content.toArray⟩).toBaseIO
  return files

/-- Goes on until the controller is asked to end. -/
partial def loop (start : Nat) (known : List (String × List UInt8))
    (controller : Controller device.δ) (sources : Sources) : IO Unit := do
  if !controller.running then return
  let (controller, sources) ← serveConsole device controller sources
  let (controller, sources) ← serveDoor device controller sources
  let (controller, sources) ← servePeer device controller sources
  let controller := controller.advanceTo device.driver ((← IO.monoMsNow) - start)
  let (controller, sources) ← answerPeer device controller sources
  let known ← storeFiles device known controller
  IO.sleep pause
  loop start known controller.forget sources

end Loop

/-- Reports why the program cannot run. -/
def fail (message : String) : IO UInt32 := do
  IO.eprintln (CommandLine.programName ++ " failed: " ++ message)
  return 1

/-- Runs the controller of a configuration. -/
def work (options : CommandLine.Options) (host : Host) (config : Config) : IO UInt32 := do
  match Controller.findDevice host config with
  | .error e => fail e.message
  | .ok device =>
      match Controller.new host config device.driver device.memory with
      | .error e => fail e.message
      | .ok controller =>
          let server ←
            if controller.isListening then (some <$> listen config).toBaseIO else pure (.ok none)
          match server with
          | .error e => fail (ControllerError.transport config.listenAddress (toString e)).message
          | .ok server =>
              let typing ← if options.has .console then some <$> type else pure none
              loop device (← IO.monoMsNow) [] (controller.start device.driver)
                ⟨typing, server, none, none⟩
              return 0

def run (options : CommandLine.Options) : IO UInt32 := do
  let content ←
    match options.config with
    | some path => readFile path
    | none => pure (.ok [])
  match options.load fun _ => content with
  | .error e => fail e.message
  | .ok config =>
      let host ← findHost config
      if options.has .listDrivers then
        IO.print (CommandLine.driverList host)
        return 0
      else work options host config

end Main

end Tether

def main (words : List String) : IO UInt32 := do
  match Tether.CommandLine.parse words with
  | .error e =>
      IO.eprintln ("error: " ++ e.message)
      return 2
  | .ok .help =>
      IO.print Tether.CommandLine.usage
      return 0
  | .ok .version =>
      IO.print Tether.CommandLine.versionLine
      return 0
  | .ok (.run options) => Tether.Main.run options
