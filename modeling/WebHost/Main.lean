/-
Module: WebHost.Main
Purpose: The command line.
Main exports:
  main
-/
import WebHost.Client.Loopback
import WebHost.CommandLine.ClientProgram
import WebHost.CommandLine.ServerProgram
import WebHost.RequestId
import WebHost.Wire

/-!
The first argument chooses between the two programs.  The server answers the
requests on its standard input, for a listener that hands it connections; the
client talks to the demonstration server in the same process.
-/

namespace WebHost

open Text

/-- How deep directories are read. -/
def directoryDepth : Nat := 32

/-- What stands at a path of this host, if anything does. -/
def readNode (path : String) : Nat → IO (Option FileNode)
  | 0 => return none
  | depth + 1 => do
      let names ← try (do
          let cwd ← IO.currentDir
          return some ((← (cwd / path).readDir).toList.map fun entry => entry.fileName))
        catch _ => pure none
      match names with
      | some names => do
          let entries ← names.filterMapM fun name => do
            return (← readNode (path ++ "/" ++ name) depth).map fun node => (name, node)
          return some (.directory entries)
      | none =>
          try return some (.file (some (← IO.FS.readBinFile path).toList))
          catch _ => return none

/-- The names on the way to a path, those above `..` left out. -/
def wayTo (path : String) : List String :=
  (pathParts path).foldl (fun way name => if name = ".." then way.dropLast else way ++ [name]) []

/-- The files of this host at some paths. -/
def readFiles (paths : List String) : IO FileSystem := do
  let working := toString (← IO.currentDir)
  let empty : FileSystem := { root := .directory [], working := [] }
  let files ← paths.foldlM (fun files path => do
    let place := if path.startsWith "/" then path else working ++ "/" ++ path
    match ← readNode path directoryDepth with
    | some node => return files.put (wayTo place) node
    | none => return files) (empty.put (wayTo working) (.directory []))
  return { files with working := wayTo working }

/-- A fresh id for a request. -/
def freshRequestId : IO FieldValue := do
  let bytes ← (List.range 16).mapM fun _ => return UInt8.ofNat (← IO.rand 0 255)
  return .ofTexts [randomIdText bytes]

/-- Answer the requests in some bytes, one after the other. -/
def answerAll (router : Router Demo) (files : FileSystem) :
    Nat → Bytes → World Demo → IO Unit
  | 0, _, _ => return ()
  | count + 1, bytes, world => do
      match readRequest? bytes none with
      | none => return ()
      | some (incoming, rest) => do
          let (reply, world) := router.respond files incoming (← freshRequestId) world
          let output ← IO.getStdout
          output.write (ByteArray.mk (writeReply reply).toArray)
          output.flush
          answerAll router files count rest world

/-- The server program. -/
def serverMain (arguments : List String) : IO UInt32 := do
  let given := ServerArguments.parse arguments
  let known ← readFiles ((given.toOption.bind ServerArguments.configPath).toList)
  let files ← readFiles ((given.toOption.map fun given => given.paths known).getD [])
  match runServer files isLocalAddress arguments with
  | .ended status => return UInt32.ofNat status
  | .serving listening => do
      let bytes := (← (← IO.getStdin).readBinToEnd).toList
      answerAll listening.router files (bytes.length + 1) bytes (World.initial Demo.initial)
      return 0

/-- The client program. -/
def clientMain (arguments : List String) : IO UInt32 := do
  let files ← readFiles []
  let fresh ← freshRequestId
  let world := World.initial Demo.initial
  match Router.ofServer? (Server.ofConfig .standard).addDemo with
  | none => return 1
  | some router =>
      return UInt32.ofNat (runClient
        { network := loopbackNetwork router files fresh world
          socket := loopbackSocket router files fresh world
          stream := [.frame (.text echoGreeting), .ended]
          greetingSent := true
          key := .ofTexts ["dGhlIHNhbXBsZSBub25jZQ=="] } arguments)

end WebHost

open WebHost in
/-- The command line: `server` or `client`, and the arguments of that program. -/
def main (arguments : List String) : IO UInt32 :=
  match arguments with
  | "client" :: rest => clientMain rest
  | "server" :: rest => serverMain rest
  | rest => serverMain rest
