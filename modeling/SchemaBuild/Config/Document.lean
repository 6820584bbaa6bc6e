import SchemaBuild.Config.Basic

/-!
# Configurations as JSON

A configuration is written with all its fields, and read with any of them missing.
-/

namespace SchemaBuild

namespace ClasspathConfig

/-- The classpath as JSON. -/
def toJson (classpath : ClasspathConfig) : Except IoError Json := do
  let entries ← classpath.entries.mapM Path.toJson
  let file ←
    match classpath.file with
    | none => pure Json.null
    | some file => file.toJson
  let variableName :=
    match classpath.variableName with
    | none => Json.null
    | some name => .string name
  return .object [("entries", .array entries), ("file", file), ("env", variableName)]

/-- What has been read of a classpath. -/
structure Draft where
  entries : Option (List Path)
  file : Option (Option Path)
  variableName : Option (Option String)

/-- The fields of a classpath. -/
def fields : List (Json.Field Draft) :=
  [Json.field "entries" true (·.entries) (fun draft value => { draft with entries := some value })
      (Json.readList Path.read),
    Json.field "file" true (·.file) (fun draft value => { draft with file := some value })
      (Json.readOption Path.read),
    Json.field "env" true (·.variableName) (fun draft value => { draft with variableName := some value })
      (Json.readOption (Json.readString "a string"))]

/-- Read a classpath. -/
def read : Json.Reader ClasspathConfig := fun text => do
  let (draft, rest) ← Json.readRecord "ClasspathConfig" fields ⟨none, none, none⟩ text
  return (⟨draft.entries.getD [], draft.file.getD none, draft.variableName.getD none⟩, rest)

end ClasspathConfig

namespace GenerationConfig

/-- What is generated, as JSON. -/
def toJson (generation : GenerationConfig) : Json :=
  .object [("generate_getters", .bool generation.options.getters),
    ("generate_updaters", .bool generation.options.updaters),
    ("source_extension", .string generation.extension)]

/-- What has been read of it. -/
structure Draft where
  getters : Option Bool
  updaters : Option Bool
  extension : Option String

/-- Its fields. -/
def fields : List (Json.Field Draft) :=
  [Json.field "generate_getters" true (·.getters)
      (fun draft value => { draft with getters := some value }) Json.readBool,
    Json.field "generate_updaters" true (·.updaters)
      (fun draft value => { draft with updaters := some value }) Json.readBool,
    Json.field "source_extension" true (·.extension)
      (fun draft value => { draft with extension := some value }) (Json.readString "a string")]

/-- Read what is generated. -/
def read : Json.Reader GenerationConfig := fun text => do
  let (draft, rest) ← Json.readRecord "GenerationConfig" fields ⟨none, none, none⟩ text
  let usual : GenerationConfig := {}
  return (⟨⟨draft.getters.getD usual.options.getters, draft.updaters.getD usual.options.updaters⟩,
    draft.extension.getD usual.extension⟩, rest)

end GenerationConfig

namespace Config

/-- The fields of the plugin's part. -/
def pluginFields : List (Json.Field (Option (List String))) :=
  [Json.field "command" true id (fun _ value => some value)
    (Json.readList (Json.readString "a string"))]

/-- Read the plugin's part. -/
def readPlugin : Json.Reader (List String) := fun text => do
  let (command, rest) ← Json.readRecord "GeneratorConfig" pluginFields none text
  return (command.getD [], rest)

/-- The configuration as JSON. -/
def toJson (config : Config) : Except IoError Json := do
  let output ← config.output.toJson
  let resources ← config.resources.toJson
  let classpath ← config.classpath.toJson
  return .object [("output_directory", output), ("resources_directory", resources),
    ("packages", .array (config.packages.map Json.string)), ("classpath", classpath),
    ("generation", config.generation.toJson),
    ("generator", .object [("command", .array (config.plugin.map Json.string))])]

/-- What has been read of a configuration. -/
structure Draft where
  output : Option Path := none
  resources : Option Path := none
  packages : Option (List String) := none
  classpath : Option ClasspathConfig := none
  generation : Option GenerationConfig := none
  plugin : Option (List String) := none

/-- The fields of a configuration. -/
def fields : List (Json.Field Draft) :=
  [Json.field "output_directory" true (·.output)
      (fun draft value => { draft with output := some value }) Path.read,
    Json.field "resources_directory" true (·.resources)
      (fun draft value => { draft with resources := some value }) Path.read,
    Json.field "packages" true (·.packages)
      (fun draft value => { draft with packages := some value })
      (Json.readList (Json.readString "a string")),
    Json.field "classpath" true (·.classpath)
      (fun draft value => { draft with classpath := some value }) ClasspathConfig.read,
    Json.field "generation" true (·.generation)
      (fun draft value => { draft with generation := some value }) GenerationConfig.read,
    Json.field "generator" true (·.plugin)
      (fun draft value => { draft with plugin := some value }) readPlugin]

/-- Read a configuration. -/
def read : Json.Reader Config := fun text => do
  let (draft, rest) ← Json.readRecord "StemConfig" fields {} text
  let usual : Config := {}
  return ({ output := draft.output.getD usual.output
            resources := draft.resources.getD usual.resources
            packages := draft.packages.getD usual.packages
            classpath := draft.classpath.getD usual.classpath
            generation := draft.generation.getD usual.generation
            plugin := draft.plugin.getD usual.plugin }, rest)

end Config

end SchemaBuild
