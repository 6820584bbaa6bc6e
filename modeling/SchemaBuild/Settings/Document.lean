import SchemaBuild.Settings.Setting
import SchemaBuild.Toml.Document
import SchemaBuild.World

/-!
# Settings in files

A configuration file is a layer of settings. A file that is not there is no layer; one that cannot be
read, or is not well-formed, is broken.

A relative path is looked for in the working directory and then in the directories above it. Messages
show the file as it is seen from the working directory, if that has fewer steps.
-/

namespace SchemaBuild

mutual

/-- The setting that a value of a document is. A point in time has nothing in it that could be a
setting, so it is a table without entries. -/
def Toml.Value.toSetting (source : SettingSource) : Toml.Value → Setting
  | .text value => .text source value
  | .integer value => .signed source value
  | .float value => .float source value
  | .boolean value => .flag source value
  | .time _ => .table source []
  | .list items => .list source (Toml.itemSettings source items)
  | .table fields => .table source (Toml.fieldSettings source fields)

/-- The settings that the items of a list are. -/
def Toml.itemSettings (source : SettingSource) : List Toml.Value → List Setting
  | [] => []
  | item :: items => item.toSetting source :: Toml.itemSettings source items

/-- The settings that the fields of a table are. -/
def Toml.fieldSettings (source : SettingSource) : List (String × Toml.Value) → Setting.Entries
  | [] => []
  | (name, value) :: fields => (name, value.toSetting source) :: Toml.fieldSettings source fields

end

/-- Why a configuration file is no layer of settings. -/
inductive FileFlaw where
  | unreadable (error : IoError)
  | malformed
  deriving Repr, DecidableEq

namespace Path

/-- The text of a component. -/
def Component.bytes : Component → Bytes
  | .root => []
  | .current => dot
  | .parent => dotDot
  | .name word => word

/-- The parts of two lists behind what they have in common at their fronts. -/
def apart : List Component → List Component → List Component × List Component
  | a :: as, b :: bs => if a = b then apart as bs else (a :: as, b :: bs)
  | as, bs => (as, bs)

/-- The steps that lead from the directory `base` to `path`, both given by their components from the
root. -/
def stepsBetween (base path : List Component) : List Component :=
  let (up, down) := apart base path
  up.map (fun _ => .parent) ++ down

/-- The spelling of the path from the directory `base`, if it has fewer steps, and else the path. -/
def seenFrom (path base : Path) : Path :=
  let steps := stepsBetween base.components path.components
  if steps.length < path.components.length then ⟨Bytes.join slash (steps.map Component.bytes)⟩ else path

end Path

namespace SettingsFile

/-- The file that a path means. -/
def locate? (world : World) (path : Path) : Option Path :=
  if path.isAbsolute then
    if world.isFile path then some path else none
  else
    match world.currentDirectory with
    | .error _ => none
    | .ok here => ((here :: here.parents).map (·.join path)).find? world.isFile

/-- How the file is shown in messages. -/
def shown (world : World) (file : Path) : String :=
  match world.currentDirectory with
  | .ok here => (file.seenFrom here).display
  | .error _ => file.display

/-- The layer of settings that a configuration file is. -/
def layer (world : World) (path : Path) : Except FileFlaw Setting.Entries :=
  match locate? world path with
  | none => .ok []
  | some file =>
    match world.readText file with
    | .error error => .error (.unreadable error)
    | .ok text =>
      match Toml.parse? text with
      | none => .error .malformed
      | some fields => .ok (Toml.fieldSettings (.file (shown world file)) fields)

end SettingsFile

end SchemaBuild
