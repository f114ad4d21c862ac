/-
Module: WebHost.Config.Schema
Purpose: The settings of a server, their defaults and how documents give them.
Main exports:
  Config, TlsFiles, LogFormat, Config.ofDocument?
-/
import WebHost.Config.Document

namespace WebHost

open Number

/-!
Every setting has a default, the two TLS files apart, which are given together
or not at all.  A document gives settings by the names of the schema; what it
says under other names is ignored.
-/

/-- The certificate and the private key of a listener. -/
structure TlsFiles where
  certificate : String
  key : String
deriving Repr, Inhabited, DecidableEq

/-- Where the server listens. -/
structure ListenerConfig where
  bindAddress : String
  tls : Option TlsFiles
deriving Repr, DecidableEq

/-- Static content and the common response headers. -/
structure HttpConfig where
  serverName : String
  encoding : String
  rootDirectory : Option String
  notFoundPath : Option String
  resourceNames : List String
deriving Repr, DecidableEq

/-- Protocols of WebSocket sessions and how often their handlers are polled. -/
structure SocketConfig where
  protocols : List String
  defaultProtocol : Option String
  pollFrequency : Binary
deriving Repr, DecidableEq

/-- Limits of time, in seconds. -/
structure TimeoutConfig where
  requestSeconds : Nat
  shutdownSeconds : Nat
deriving Repr, DecidableEq

/-- Limits of size, in bytes. -/
structure LimitsConfig where
  maxBodySize : Nat
deriving Repr, DecidableEq

/-- The form of log lines. -/
inductive LogFormat where
  | pretty
  | json
deriving Repr, Inhabited, DecidableEq

/-- Logs and metrics. -/
structure ObservabilityConfig where
  logLevel : String
  logFormat : LogFormat
  metricsEnabled : Bool
  metricsAddress : String
deriving Repr, DecidableEq

/-- All settings of a server. -/
structure Config where
  listener : ListenerConfig
  http : HttpConfig
  websocket : SocketConfig
  timeouts : TimeoutConfig
  limits : LimitsConfig
  observability : ObservabilityConfig
deriving Repr, DecidableEq

def ListenerConfig.standard : ListenerConfig :=
  { bindAddress := "0.0.0.0:3000"
    tls := none }

def HttpConfig.standard : HttpConfig :=
  { serverName := "websrv"
    encoding := "utf-8"
    rootDirectory := none
    notFoundPath := none
    resourceNames := [] }

/-- The rate of polling unless another is set, in Hertz. -/
def defaultPollFrequency : Binary := Binary.ofNat 10

def SocketConfig.standard : SocketConfig :=
  { protocols := ["websocket-protocol", "proto-two"]
    defaultProtocol := none
    pollFrequency := defaultPollFrequency }

def TimeoutConfig.standard : TimeoutConfig :=
  { requestSeconds := 30
    shutdownSeconds := 5 }

def LimitsConfig.standard : LimitsConfig :=
  { maxBodySize := 2 * 1024 * 1024 }

def ObservabilityConfig.standard : ObservabilityConfig :=
  { logLevel := "info"
    logFormat := .pretty
    metricsEnabled := false
    metricsAddress := "127.0.0.1:9090" }

/-- The settings of a server to which nothing is said. -/
def Config.standard : Config :=
  { listener := .standard
    http := .standard
    websocket := .standard
    timeouts := .standard
    limits := .standard
    observability := .standard }

instance : Inhabited Config := ⟨.standard⟩

namespace LogFormat

def name : LogFormat → String
  | .pretty => "pretty"
  | .json => "json"

def ofName? (name : String) : Option LogFormat :=
  [LogFormat.pretty, LogFormat.json].find? fun format => format.name == name

/-- A format by its name, which may be the only entry of a table whose value
holds nothing. -/
def ofDocument? : Document → Option LogFormat
  | .text name => ofName? name
  | .table [(name, .table [])] => ofName? name
  | .table [(name, .list [])] => ofName? name
  | .table [(name, .absent)] => ofName? name
  | _ => none

end LogFormat

open Document

/-- Both files of a TLS listener. -/
def TlsFiles.ofDocument? (document : Document) : Option TlsFiles := do
  let members ← document.members? ["cert_path", "key_path"]
  let certificate ← (members.lookup "cert_path").bind readText?
  let key ← (members.lookup "key_path").bind readText?
  some { certificate := certificate, key := key }

def ListenerConfig.ofDocument? (document : Document) : Option ListenerConfig := do
  let members ← document.members? ["bind_address", "tls"]
  let standard := ListenerConfig.standard
  some {
    bindAddress := ← readField members "bind_address" standard.bindAddress readText?
    tls := ← readField members "tls" none (readOptional? TlsFiles.ofDocument?) }

def HttpConfig.ofDocument? (document : Document) : Option HttpConfig := do
  let members ← document.members?
    ["server_name", "encoding", "root_dir", "not_found_path", "resource_paths"]
  let standard := HttpConfig.standard
  some {
    serverName := ← readField members "server_name" standard.serverName readText?
    encoding := ← readField members "encoding" standard.encoding readText?
    rootDirectory := ← readField members "root_dir" none (readOptional? readText?)
    notFoundPath := ← readField members "not_found_path" none (readOptional? readText?)
    resourceNames := ← readField members "resource_paths" [] readTexts? }

def SocketConfig.ofDocument? (document : Document) : Option SocketConfig := do
  let members ← document.members? ["protocols", "default_protocol", "poll_frequency_hz"]
  let standard := SocketConfig.standard
  some {
    protocols := ← readField members "protocols" standard.protocols readTexts?
    defaultProtocol := ← readField members "default_protocol" none (readOptional? readText?)
    pollFrequency := ← readField members "poll_frequency_hz" standard.pollFrequency readReal? }

def TimeoutConfig.ofDocument? (document : Document) : Option TimeoutConfig := do
  let members ← document.members? ["request_secs", "shutdown_secs"]
  let standard := TimeoutConfig.standard
  some {
    requestSeconds := ← readField members "request_secs" standard.requestSeconds readNatural?
    shutdownSeconds := ← readField members "shutdown_secs" standard.shutdownSeconds readNatural? }

def LimitsConfig.ofDocument? (document : Document) : Option LimitsConfig := do
  let members ← document.members? ["max_body_size"]
  let standard := LimitsConfig.standard
  some { maxBodySize := ← readField members "max_body_size" standard.maxBodySize readNatural? }

def ObservabilityConfig.ofDocument? (document : Document) : Option ObservabilityConfig := do
  let members ← document.members?
    ["log_level", "log_format", "metrics_enabled", "metrics_address"]
  let standard := ObservabilityConfig.standard
  some {
    logLevel := ← readField members "log_level" standard.logLevel readText?
    logFormat := ← readField members "log_format" standard.logFormat LogFormat.ofDocument?
    metricsEnabled := ← readField members "metrics_enabled" standard.metricsEnabled readFlag?
    metricsAddress := ← readField members "metrics_address" standard.metricsAddress readText? }

/-- The settings that a document gives; none if a value does not fit. -/
def Config.ofDocument? (document : Document) : Option Config := do
  let members ← document.members?
    ["listener", "http", "websocket", "timeouts", "limits", "observability"]
  some {
    listener := ← readField members "listener" .standard ListenerConfig.ofDocument?
    http := ← readField members "http" .standard HttpConfig.ofDocument?
    websocket := ← readField members "websocket" .standard SocketConfig.ofDocument?
    timeouts := ← readField members "timeouts" .standard TimeoutConfig.ofDocument?
    limits := ← readField members "limits" .standard LimitsConfig.ofDocument?
    observability := ← readField members "observability" .standard
      ObservabilityConfig.ofDocument? }

end WebHost
