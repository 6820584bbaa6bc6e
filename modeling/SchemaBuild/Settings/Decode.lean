import SchemaBuild.Path
import SchemaBuild.Settings.Setting
import SchemaBuild.Text.Quoted

/-!
# From settings to values

A **decoder** makes a value of a setting, or says which part of the setting is of another kind than the
value needs. Records may be written as tables, with their fields in any order and further names left
alone, or as lists, with the fields in their order and further items left alone. Fields that are
missing keep what they are.
-/

namespace SchemaBuild

namespace Setting

/-- The setting in words, as it was found where another was expected. -/
def describe : Setting → String
  | text _ value => s!"string {Text.quote value}"
  | flag _ value => s!"bool {value}"
  | signed _ value => s!"signed int `{value}`"
  | unsigned _ value => s!"unsigned int `{value}`"
  | float _ value => s!"float `{value.toText}`"
  | list .. => "sequence"
  | table .. => "map"

end Setting

/-- The names, and the positions in lists, that lead to a setting. -/
abbrev SettingKey := List String

namespace SettingSource

/-- How a key is written that belongs to this source. -/
def showKey (source : SettingSource) (key : SettingKey) : String :=
  match source with
  | environment => ".".intercalate (key.map fun name => String.ofList (name.toList.map Char.toUpper))
  | _ => ".".intercalate ("default" :: key)

/-- The source in words. -/
def describe : SettingSource → String
  | file shown => s!"{shown} TOML file"
  | environment => "`STEMGEN_` environment variable(s)"
  | commandLine => "command line"

end SettingSource

/-- A setting of another kind than was expected. -/
structure Mismatch where
  found : Setting
  expected : String
  key : SettingKey
  deriving Repr

namespace Mismatch

/-- The complaint in words. -/
def message (mismatch : Mismatch) : String :=
  let source := mismatch.found.source
  let key := Text.quote (source.showKey mismatch.key)
  s!"invalid type: found {mismatch.found.describe}, expected {mismatch.expected} for key {key} in {source.describe}"

end Mismatch

/-- Makes a value of the setting under a key. -/
abbrev Decoder (α : Type) := SettingKey → Setting → Except Mismatch α

namespace Decoder

/-- A text. -/
def text : Decoder String
  | _, .text _ value => .ok value
  | key, found => .error ⟨found, "a string", key⟩

/-- A path. -/
def path : Decoder Path
  | _, .text _ value => .ok (.ofString value)
  | key, found => .error ⟨found, "path string", key⟩

/-- A truth value. -/
def flag : Decoder Bool
  | _, .flag _ value => .ok value
  | key, found => .error ⟨found, "a boolean", key⟩

/-- Items of a list, the first of which stands at `position`. -/
def items {α : Type} (item : Decoder α) (key : SettingKey) :
    (position : Nat) → List Setting → Except Mismatch (List α)
  | _, [] => .ok []
  | position, setting :: settings =>
    match item (key ++ [toString position]) setting with
    | .error mismatch => .error mismatch
    | .ok value =>
      match items item key (position + 1) settings with
      | .error mismatch => .error mismatch
      | .ok values => .ok (value :: values)

/-- A list. -/
def list {α : Type} (item : Decoder α) : Decoder (List α)
  | key, .list _ settings => items item key 0 settings
  | key, found => .error ⟨found, "a sequence", key⟩

/-- A field of a record `σ`. -/
structure Field (σ : Type) where
  name : String
  /-- The record with the field set to what the setting under the key says. -/
  decode : SettingKey → Setting → σ → Except Mismatch σ

/-- The field that `put` puts into a record. -/
def field {σ α : Type} (name : String) (decoder : Decoder α) (put : σ → α → σ) : Field σ where
  name
  decode key setting record :=
    match decoder key setting with
    | .error mismatch => .error mismatch
    | .ok value => .ok (put record value)

/-- The record with those of the fields set that stand in a table, in the order of the fields. -/
def named {σ : Type} (key : SettingKey) (entries : Setting.Entries) :
    List (Field σ) → σ → Except Mismatch σ
  | [], record => .ok record
  | field :: fields, record =>
    match entries.lookup field.name with
    | none => named key entries fields record
    | some setting =>
      match field.decode (key ++ [field.name]) setting record with
      | .error mismatch => .error mismatch
      | .ok record => named key entries fields record

/-- The record with the fields set to the items of a list, the first of which stands at `position`. -/
def positional {σ : Type} (key : SettingKey) :
    (position : Nat) → List (Field σ) → List Setting → σ → Except Mismatch σ
  | position, field :: fields, setting :: settings, record =>
    match field.decode (key ++ [toString position]) setting record with
    | .error mismatch => .error mismatch
    | .ok record => positional key (position + 1) fields settings record
  | _, _, _, record => .ok record

/-- A record that starts as `start`, called `called` in messages. In a table the fields are set in the
order of `fields`, in a list in the order of `positions`. -/
def record {σ : Type} (called : String) (fields positions : List (Field σ)) (start : σ) : Decoder σ
  | key, .table _ entries => named key entries fields start
  | key, .list _ settings => positional key 0 positions settings start
  | key, found => .error ⟨found, "struct " ++ called, key⟩

end Decoder

end SchemaBuild
