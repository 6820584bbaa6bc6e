import SchemaBuild.Cause
import SchemaBuild.Dotenv.Load
import SchemaBuild.Settings.Decode
import SchemaBuild.Settings.Document

/-!
# Failures of a configuration

Why there is no configuration: a layer of settings is broken or says something of a wrong kind, a value
is missing or not what it has to be, or the dotenv file cannot be loaded.
-/

namespace SchemaBuild

/-- Why layers of settings make no configuration. -/
inductive LayerError where
  /-- A configuration file cannot be read or is not well-formed. -/
  | brokenFile (flaw : FileFlaw)
  /-- A path of the command line is not text. -/
  | pathNotText
  /-- A setting is of a wrong kind. -/
  | mismatch (mismatch : Mismatch)
  deriving Repr

namespace LayerError

/-- The failure in words. -/
def message : LayerError → String
  | brokenFile _ => "a layer of settings is broken"
  | pathNotText => "a layer of settings is broken"
  | mismatch found => found.message

/-- The failure as a cause. -/
def toCause (error : LayerError) : Cause := .ofMessage error.message

end LayerError

/-- Why there is no configuration. -/
inductive ConfigError where
  /-- The layers of settings make none. -/
  | layers (error : LayerError)
  /-- A value is needed and not there. -/
  | missing (field : String)
  /-- A value is not what it has to be. -/
  | invalid (field reason : String)
  /-- The dotenv file cannot be loaded. -/
  | dotenv (path : Path) (error : Dotenv.LoadError)
  deriving Repr

namespace ConfigError

/-- The failure as a cause. -/
def toCause : ConfigError → Cause
  | layers error => error.toCause.under .configLayers s!"Configuration error: {error.message}"
  | missing field => .ofKind .configMissing s!"Missing required configuration value '{field}'"
  | invalid field reason =>
    .ofKind .configInvalid s!"Invalid configuration value for '{field}': {reason}"
  | dotenv path error => (dotenvCause error).under .configDotenv
      s!"Failed to load dotenv file at {path.display}"
where
  /-- The failure of the file as a cause. A failure to read it is the cause of itself. -/
  dotenvCause (error : Dotenv.LoadError) : Cause :=
    match error with
    | .io inner => (Cause.ofIo inner).inContext error.message
    | _ => .ofMessage error.message

end ConfigError

end SchemaBuild
