/-
Module: WebHost.CommandLine.ServerProgram
Purpose: The server as a program.
Main exports:
  ServerArguments, ServerArguments.parse, ServerArguments.config, ProgramEnd, runServer
-/
import WebHost.CommandLine.Arguments
import WebHost.Config.Load
import WebHost.Demo
import WebHost.Server.Start

namespace WebHost

open Number Text

/-!
The program reads its configuration from a file, or takes the standard one;
options replace the port and the directory of static files.  It serves the
demonstration until it is told to stop.
-/

/-- What the command line asks for. -/
structure ServerArguments where
  configPath : Option String
  port : Option Nat
  rootDirectory : Option String
deriving Repr, Inhabited, DecidableEq

/-- A port as an option gives it: a number below 2^16, with an optional sign. -/
def readPortOption? (text : String) : Option Nat :=
  match text.toList with
  | '-' :: digits =>
      match readDigits? digits with
      | some 0 => some 0
      | _ => none
  | characters => readCount? 65536 characters

/-- The options of the server. -/
def serverRules : List OptionRule :=
  [{ name := "config"
     letter := some 'c'
     kind := .single
     accepts := fun value => value ≠ "" },
   { name := "port"
     letter := some 'p'
     kind := .single
     accepts := fun value => (readPortOption? value).isSome },
   { name := "root-dir"
     letter := some 'r'
     kind := .single
     accepts := fun _ => true },
   helpRule]

namespace ServerArguments

/-- Read the command line. -/
def parse (arguments : List String) : Except ArgumentStop ServerArguments :=
  (readArguments serverRules arguments).map fun given =>
    { configPath := given.value? "config"
      port := (given.value? "port").bind readPortOption?
      rootDirectory := given.value? "root-dir" }

/-- An address with another port. -/
def addressWithPort (address : String) (port : Nat) : String :=
  let host := match cutAtLast ':' address.toList with
    | some (host, _) => String.ofList host
    | none => "0.0.0.0"
  host ++ ":" ++ naturalText port

/-- The configuration with what the options replace. -/
def adjust (arguments : ServerArguments) (config : Config) : Config :=
  { config with
    listener := { config.listener with
      bindAddress := match arguments.port with
        | some port => addressWithPort config.listener.bindAddress port
        | none => config.listener.bindAddress }
    http := { config.http with
      rootDirectory := arguments.rootDirectory <|> config.http.rootDirectory } }

/-- The configuration to serve with. -/
def config (arguments : ServerArguments) (files : FileSystem) : Except ConfigError Config :=
  (match arguments.configPath with
    | some path => loadConfig files path
    | none => .ok Config.standard).map arguments.adjust

/-- The paths at which the program may look for files, as far as they are known
before it runs. -/
def paths (arguments : ServerArguments) (files : FileSystem) : List String :=
  let written := (arguments.configPath.bind fun path => (files.readText path).toOption).bind
    fun text => (Toml.parse? text).bind Config.ofDocument?
  let config := arguments.adjust (written.getD .standard)
  let identity := (config.listener.tls.map fun names => [names.certificate, names.key]).getD []
  arguments.configPath.toList ++ config.http.rootDirectory.toList ++ identity

end ServerArguments

/-- How a server program ends: at once with a status, or not before it is told. -/
inductive ProgramEnd where
  | ended (status : Nat)
  | serving (listening : Listening Demo)

/-- The exit status of a program that broke off because a configured rate is
too small to wait for. -/
def brokenStatus : Nat := 101

/-- Run the server program. -/
def runServer (files : FileSystem) (available : SocketAddress → Bool) (arguments : List String) :
    ProgramEnd :=
  match ServerArguments.parse arguments with
  | .error stop => .ended stop.status
  | .ok given =>
      match given.config files with
      | .error _ => .ended 1
      | .ok config =>
          match (Server.ofConfig config).addDemo.start files available with
          | .ok listening => .serving listening
          | .error .pollTimeTooLong => .ended brokenStatus
          | .error _ => .ended 1

end WebHost
