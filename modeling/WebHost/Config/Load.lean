/-
Module: WebHost.Config.Load
Purpose: Reading a checked configuration from text or from a file.
Main exports:
  ConfigError, parseConfig, loadConfig
-/
import WebHost.Config.Check
import WebHost.Toml.Reader

namespace WebHost

/-!
A configuration is read from TOML text.  It is returned only if the text can be
read and the settings have no fault.
-/

/-- Why no configuration was read. -/
inductive ConfigError where
  | unreadable (reason : FileError)
  | malformed
  | invalid (faults : List ConfigFault)
deriving Repr, Inhabited

/-- The message for some faults. -/
def faultsMessage (faults : List ConfigFault) : String :=
  "Validation failed: " ++ ", ".intercalate (faults.map ConfigFault.message)

/-- The configuration that a text gives, checked against the files there are. -/
def parseConfig (files : FileSystem) (text : String) : Except ConfigError Config :=
  match (Toml.parse? text).bind Config.ofDocument? with
  | none => .error .malformed
  | some config =>
      match config.faults files with
      | [] => .ok config
      | faults => .error (.invalid faults)

/-- The configuration that a file gives. -/
def loadConfig (files : FileSystem) (path : String) : Except ConfigError Config :=
  match files.readText path with
  | .error reason => .error (.unreadable reason)
  | .ok text => parseConfig files text

end WebHost
