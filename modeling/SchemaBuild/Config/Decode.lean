import SchemaBuild.Config.Basic
import SchemaBuild.Config.Error

/-!
# Configurations from settings

`Config.ofSettings` makes the configuration of merged settings. What is not set keeps its default, and
the first setting of a wrong kind is reported, in the order of the names.
-/

namespace SchemaBuild

namespace ClasspathConfig

/-- The entries of a classpath as a field. -/
def entriesField : Decoder.Field ClasspathConfig :=
  Decoder.field "entries" (.list .path) fun record entries => { record with entries }

/-- The listing file of a classpath as a field. -/
def fileField : Decoder.Field ClasspathConfig :=
  Decoder.field "file" .path fun record file => { record with file := some file }

/-- The variable of a classpath as a field. -/
def variableField : Decoder.Field ClasspathConfig :=
  Decoder.field "env" .text fun record name => { record with variableName := some name }

/-- A classpath from a setting. -/
def decode : Decoder ClasspathConfig :=
  .record "ClasspathConfig" [entriesField, variableField, fileField]
    [entriesField, fileField, variableField] {}

end ClasspathConfig

namespace GenerationConfig

/-- What is generated, as fields. -/
def settings : List (Decoder.Field GenerationConfig) :=
  [Decoder.field "generate_getters" .flag fun record getters =>
      { record with options := { record.options with getters } },
    Decoder.field "generate_updaters" .flag fun record updaters =>
      { record with options := { record.options with updaters } },
    Decoder.field "source_extension" .text fun record extension => { record with extension }]

/-- What is generated, from a setting. -/
def decode : Decoder GenerationConfig := .record "GenerationConfig" settings settings {}

end GenerationConfig

namespace Config

/-- The plugin's part as a field. -/
def pluginSettings : List (Decoder.Field (List String)) :=
  [Decoder.field "command" (.list .text) fun _ command => command]

/-- The parts of a configuration as fields. -/
def settings : List (Decoder.Field Config) :=
  [Decoder.field "classpath" ClasspathConfig.decode fun config classpath => { config with classpath },
    Decoder.field "generation" GenerationConfig.decode fun config generation =>
      { config with generation },
    Decoder.field "generator" (.record "GeneratorConfig" pluginSettings pluginSettings [])
      fun config plugin => { config with plugin },
    Decoder.field "output_directory" .path fun config output => { config with output },
    Decoder.field "packages" (.list .text) fun config packages => { config with packages },
    Decoder.field "resources_directory" .path fun config resources => { config with resources }]

/-- The configuration that merged settings make. -/
def ofSettings (entries : Setting.Entries) : Except LayerError Config :=
  match Decoder.named [] entries settings {} with
  | .ok config => .ok config
  | .error mismatch => .error (.mismatch mismatch)

end Config

end SchemaBuild
