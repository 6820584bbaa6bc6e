import SchemaBuild.Config.Decode
import SchemaBuild.Settings.Variables

/-!
# Layers of a configuration

A configuration is put together from layers of settings, each on top of the ones before it: the user's
file, the project's file or the file that was asked for in its place, the environment, and what the
command line says. What no layer sets has its default. A layer that is broken spoils the whole, but a
setting of a wrong kind does no harm if a layer above it replaces it.
-/

namespace SchemaBuild

/-- A layer of settings, or why it is broken. -/
abbrev Layer := Except LayerError Setting.Entries

namespace Layer

/-- Layers on top of merged settings. -/
def mergeOnto (entries : Setting.Entries) : List Layer → Layer
  | [] => .ok entries
  | .ok layer :: layers => mergeOnto (Setting.mergeEntries entries layer) layers
  | .error error :: _ => .error error

/-- The configuration that layers make, the lowest one first. -/
def toConfig (layers : List Layer) : Except LayerError Config :=
  match mergeOnto [] layers with
  | .ok entries => Config.ofSettings entries
  | .error error => .error error

/-- The layer of a configuration file. -/
def ofFile (world : World) (path : Path) : Layer :=
  match SettingsFile.layer world path with
  | .ok entries => .ok entries
  | .error flaw => .error (.brokenFile flaw)

/-- The layer of a configuration file that may be missing. -/
def ofOptionalFile (world : World) (path : Path) : List Layer :=
  if world.has path then [ofFile world path] else []

/-- The layer of the environment. -/
def ofEnvironment (world : World) : Layer := .ok (Variables.layer world.environment)

end Layer

namespace Config

/-- The directory of a user's configuration files: the one that the environment gives if it is an
absolute path, or else one in the home directory, which need not be in the environment. -/
def userDirectory? (world : World) : Option Path :=
  let given := (world.environment.get? (.ofString "XDG_CONFIG_HOME")).map Path.mk
  match given.filter (·.isAbsolute) with
  | some directory => some directory
  | none => world.homeDirectory?.map (·.join (.ofString ".config"))

/-- The user's configuration file. -/
def userFile? (world : World) : Option Path :=
  (userDirectory? world).map fun directory =>
    (directory.join (.ofString "stemgen")).join (.ofString "config.toml")

/-- The project's configuration file. -/
def projectFile (project : Path) : Path := project.join (.ofString "stemgen.toml")

/-- The layer of the user's file. -/
def userLayer (world : World) : List Layer :=
  match userFile? world with
  | some file => Layer.ofOptionalFile world file
  | none => []

/-- The layer of the project's file, or of the file that is asked for in its place, which has to be
there. -/
def projectLayer (world : World) (project : Path) : Option Path → Except ConfigError (List Layer)
  | none => .ok (Layer.ofOptionalFile world (projectFile project))
  | some file =>
    let file := project.join file
    if world.isFile file then .ok [Layer.ofFile world file]
    else .error (.invalid "config" s!"config file {file.display} does not exist")

/-- The layers below the command line. -/
def layers (world : World) (project : Path) (file : Option Path) : Except ConfigError (List Layer) :=
  match projectLayer world project file with
  | .error error => .error error
  | .ok layers => .ok (userLayer world ++ layers ++ [Layer.ofEnvironment world])

/-- The configuration of a project without a command line. -/
def load (world : World) (project : Path) : Except ConfigError Config :=
  match layers world project none with
  | .error error => .error error
  | .ok layers =>
    match Layer.toConfig layers with
    | .error error => .error (.layers error)
    | .ok config => .ok config

/-- Load the dotenv file of a project, if there is one. -/
def loadDotenv (project : Path) (world : World) : Except ConfigError Unit × World :=
  let path := project.join (.ofString ".env")
  if world.has path then
    match Dotenv.load path world with
    | (.ok (), world) => (.ok (), world)
    | (.error error, world) => (.error (.dotenv path error), world)
  else (.ok (), world)

/-- The configuration of a project, its dotenv file being loaded first. -/
def loadWithDotenv (project : Path) (world : World) : Except ConfigError Config × World :=
  match loadDotenv project world with
  | (.error error, world) => (.error error, world)
  | (.ok (), world) => (load world project, world)

end Config

end SchemaBuild
