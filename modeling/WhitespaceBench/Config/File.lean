import WhitespaceBench.Config.Toml
import WhitespaceBench.Config.Validation
import WhitespaceBench.Store

namespace WhitespaceBench

/-!
# Configuration files

A missing file is no reason to give up where the default configuration will do, but a
file that cannot be read always is.
-/

/-- Why there is no configuration, or why it was not saved. -/
inductive ConfigError where
  | file (fault : FileFault)
  | unreadable (failure : Toml.Failure)
  /-- With `countOverflow` this is no error that is returned, but the panic of a build that
  checks for overflow. -/
  | unwritable (fault : Toml.WriteFault)
  | notFound (path : String)
  | invalid (violation : Violation)

namespace ConfigError

/-- The wording of an error.  No one is ever told that of an overflowing count: it stands
for a panic in the middle of writing, which leaves no error to word. -/
def message : ConfigError -> String
  | file fault => "IO error: " ++ fault.message
  | unreadable failure => "TOML parsing error: " ++ failure.message
  | unwritable fault => "TOML serialization error: " ++ fault.message
  | notFound path => "Configuration file not found: " ++ path
  | invalid violation => "Invalid configuration: " ++ violation.message

/-- The wordings of the causes below an error, the nearest first. -/
def causes : ConfigError -> List String
  | file fault => [fault.message]
  | unreadable failure => [failure.message]
  | unwritable fault => [fault.message]
  | notFound _ => []
  | invalid _ => []

end ConfigError

/-- A file that holds a configuration, given by its path. -/
structure ConfigFile where
  path : String
deriving Repr, DecidableEq

namespace ConfigFile

/-- The configuration in the file, given the values of settings that it leaves out. -/
def load (file : ConfigFile) (defaults : Defaults) (store : Store) : Except ConfigError Config :=
  if store.holds file.path then
    match store.readText file.path with
    | .error fault => .error (.file fault)
    | .ok text =>
        match Config.ofToml defaults text with
        | .error failure => .error (.unreadable failure)
        | .ok config => .ok config
  else .error (.notFound file.path)

/-- The configuration in the file, or the default one if there is no file. -/
def loadOrDefault (file : ConfigFile) (defaults : Defaults) (store : Store) :
    Logged (Except ConfigError Config) :=
  match file.load defaults store with
  | .error (.notFound path) => ⟨[.noConfiguration path], .ok defaults.config⟩
  | result => ⟨[], result⟩

/-- Writes a configuration to the file.  Nothing is written unless all of it can be. -/
def save (file : ConfigFile) (config : Config) (store : Store) : Except ConfigError Store :=
  match config.toml with
  | .error fault => .error (.unwritable fault)
  | .ok text =>
      match store.write file.path (Text.Utf8.encode text) with
      | .error fault => .error (.file fault)
      | .ok next => .ok next

/-- The file that is read when none is given. -/
def standard : ConfigFile := ⟨Config.fileName⟩

end ConfigFile
end WhitespaceBench
