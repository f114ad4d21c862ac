/-
Module: WebHost.Config.Check
Purpose: What makes a configuration unusable.
Main exports:
  ConfigFault, ConfigFault.kind, ConfigFault.message, Config.faults
-/
import WebHost.Address
import WebHost.Config.Schema
import WebHost.Files.Tree
import WebHost.Number.Decimal
import WebHost.Protocol.Name

namespace WebHost

open Number Text

/-!
A configuration is checked as a whole: every fault is reported, in the order of
the settings.  Among the protocol names only those count as registered that can
be offered; a second mention of one is a fault.
-/

/-- The two files of a TLS listener. -/
inductive TlsPart where
  | certificate
  | key
deriving Repr, Inhabited, DecidableEq

def TlsPart.name : TlsPart → String
  | .certificate => "certificate"
  | .key => "key"

/-- The settings that must not be zero. -/
inductive PositiveSetting where
  | requestTimeout
  | bodySize
deriving Repr, Inhabited, DecidableEq

def PositiveSetting.name : PositiveSetting → String
  | .requestTimeout => "timeouts.request_secs"
  | .bodySize => "limits.max_body_size"

/-- One reason why a configuration cannot be used. -/
inductive ConfigFault where
  | bindAddress (address : String)
  | emptyEncoding
  | serverName (name : String)
  | rootDirectory (path : String)
  | tlsFile (part : TlsPart) (path : String)
  | pollFrequency (frequency : Binary)
  | zero (setting : PositiveSetting)
  | protocolName (name : String)
  | duplicateProtocol (name : String)
  | unknownDefaultProtocol (name : String)
deriving Repr, Inhabited, DecidableEq

/-- The name of this kind of fault in reports. -/
def ConfigFault.kind : ConfigFault → String
  | .bindAddress _ => "BindAddress"
  | .emptyEncoding => "EmptyEncoding"
  | .serverName _ => "ServerName"
  | .rootDirectory _ => "RootDir"
  | .tlsFile _ _ => "TlsFile"
  | .pollFrequency _ => "PollFrequency"
  | .zero _ => "Zero"
  | .protocolName _ => "ProtocolName"
  | .duplicateProtocol _ => "DuplicateProtocol"
  | .unknownDefaultProtocol _ => "UnknownDefaultProtocol"

/-- What is wrong, in words. -/
def ConfigFault.message : ConfigFault → String
  | .bindAddress address => "invalid bind address '" ++ address ++ "'"
  | .emptyEncoding => "encoding must not be empty"
  | .serverName name => "server name '" ++ name ++ "' is not a valid header value"
  | .rootDirectory path => "root dir does not exist: " ++ path
  | .tlsFile part path => "tls " ++ part.name ++ " file does not exist: " ++ path
  | .pollFrequency frequency =>
      "poll frequency must be in (0, 1000] Hz, got " ++ positionalText frequency
  | .zero setting => setting.name ++ " must be greater than zero"
  | .protocolName name => "invalid websocket protocol name '" ++ name ++ "'"
  | .duplicateProtocol name => "duplicate websocket protocol '" ++ name ++ "'"
  | .unknownDefaultProtocol name => "default protocol '" ++ name ++ "' is not registered"

/-- The greatest rate of polling, in Hertz. -/
def maxPollFrequency : Binary := Binary.ofNat 1000

/-- The rate is positive and not above the greatest. -/
def pollFrequencyAllowed (frequency : Binary) : Bool :=
  frequency.isPositive && frequency.lessEqual maxPollFrequency

/-- A fault if a condition does not hold. -/
def faultUnless (holds : Bool) (fault : ConfigFault) : List ConfigFault :=
  if holds then [] else [fault]

/-- The faults of some protocol names, and the names that are registered, given
those registered before. -/
def protocolFaults : List String → List String → List ConfigFault × List String
  | registered, [] => ([], registered)
  | registered, name :: rest =>
      if !isProtocolName name then
        let (faults, names) := protocolFaults registered rest
        (.protocolName name :: faults, names)
      else if registered.contains name then
        let (faults, names) := protocolFaults registered rest
        (.duplicateProtocol name :: faults, names)
      else
        protocolFaults (registered ++ [name]) rest

def TlsFiles.faults (files : FileSystem) (tls : TlsFiles) : List ConfigFault :=
  faultUnless (files.isFile tls.certificate) (.tlsFile .certificate tls.certificate) ++
    faultUnless (files.isFile tls.key) (.tlsFile .key tls.key)

/-- Everything that is wrong with a configuration. -/
def Config.faults (files : FileSystem) (config : Config) : List ConfigFault :=
  let (nameFaults, registered) := protocolFaults [] config.websocket.protocols
  faultUnless (SocketAddress.parse? config.listener.bindAddress).isSome
      (.bindAddress config.listener.bindAddress) ++
    (config.listener.tls.map (TlsFiles.faults files)).getD [] ++
    faultUnless (trimBlanks config.http.encoding.toList ≠ []) .emptyEncoding ++
    faultUnless (FieldValue.ofText? config.http.serverName).isSome
      (.serverName config.http.serverName) ++
    (match config.http.rootDirectory with
      | some path => faultUnless (files.isDirectory path) (.rootDirectory path)
      | none => []) ++
    faultUnless (pollFrequencyAllowed config.websocket.pollFrequency)
      (.pollFrequency config.websocket.pollFrequency) ++
    faultUnless (config.timeouts.requestSeconds ≠ 0) (.zero .requestTimeout) ++
    faultUnless (config.limits.maxBodySize ≠ 0) (.zero .bodySize) ++
    nameFaults ++
    (match config.websocket.defaultProtocol with
      | some name => faultUnless (registered.contains name) (.unknownDefaultProtocol name)
      | none => [])

end WebHost
