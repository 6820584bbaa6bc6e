import SchemaBuild.GenerationOptions
import SchemaBuild.Lookup

/-!
# Generator plugins

A plugin is a program that turns one schema into sources. It is started once for each schema, reads
the request as JSON from its standard input, and is judged by its exit status alone. The request is put
into a temporary file, which is the standard input, so nothing is started if there is no such file. The
compiler that goes with plugins hands them the source text of a package as its schema.
-/

namespace SchemaBuild

/-- Why a package has no source or a plugin no result. -/
inductive PluginError where
  /-- No supplier has the package. -/
  | packageNotFound (package : PackageName) (searched : Nat)
  /-- No plugin is configured. -/
  | noCommand
  /-- The plugin cannot be started. -/
  | spawn (program : String) (error : IoError)
  /-- The request cannot be written, or the end of the plugin cannot be waited for. -/
  | io (program : String) (error : IoError)
  /-- The plugin reported a failure. -/
  | failed (program : String) (package : PackageName) (exit : Exit) (errors : String)
  deriving DecidableEq

namespace PluginError

/-- The failure as a cause. -/
def toCause : PluginError → Cause
  | packageNotFound package searched =>
    .ofKind .pluginPackageNotFound
      s!"Can't find package '{package.text}' on {searched} dependency supplier(s)"
  | noCommand => .ofKind .pluginNoCommand "No generator plugin command configured"
  | spawn program error =>
    (Cause.ofIo error).under .pluginSpawn s!"Failed to start generator plugin '{program}'"
  | io program error =>
    (Cause.ofIo error).under .pluginIo s!"I/O error while running generator plugin '{program}'"
  | failed program package exit errors =>
    .ofKind .pluginFailed
      s!"Generator plugin '{program}' failed for '{package.text}' ({exit.message}): {errors}"

end PluginError

/-- The source of a package that has to be there. -/
def SourceLookup.compile (lookup : SourceLookup) (world : World) (package : PackageName) :
    Except Cause SchemaSource :=
  match lookup.find world package with
  | .error error => .error error.toCause
  | .ok (some source) => .ok source
  | .ok none => .error (PluginError.packageNotFound package lookup.suppliers.length).toCause

/-- What a plugin is asked for. -/
structure GenerationRequest where
  source : SchemaSource
  options : GenerationOptions
  output : Path
  deriving DecidableEq

namespace GenerationRequest

/-- The request as JSON. -/
def toJson (request : GenerationRequest) : Except IoError Json := do
  let origin ← request.source.origin.toJson
  let output ← request.output.toJson
  return .object [("package", request.source.package.toJson), ("origin", origin),
    ("source", .string request.source.text), ("options", request.options.toJson),
    ("output_dir", output)]

/-- The text that the plugin reads. -/
def document (request : GenerationRequest) : Except IoError String := request.toJson.map Json.compact

end GenerationRequest

/-- The command of a plugin: a program that is not blank, and its arguments. -/
structure PluginCommand where
  program : String
  arguments : List String
  notBlank : Text.isAllBlank program = false

namespace PluginCommand

/-- The command that words make, the program first. -/
def ofWords? : List String → Except PluginError PluginCommand
  | [] => .error .noCommand
  | program :: arguments =>
    if h : Text.isAllBlank program = false then .ok ⟨program, arguments, h⟩ else .error .noCommand

/-- The variable that names the output directory. -/
def outputVariable : Bytes := Bytes.ofString "STEMGEN_OUTPUT_DIR"

/-- The variable that names the package. -/
def packageVariable : Bytes := Bytes.ofString "STEMGEN_PACKAGE"

/-- The variables that a plugin is started with beside those that are set anyway. -/
def requestVariables (request : GenerationRequest) : List (Bytes × Bytes) :=
  [(outputVariable, request.output.bytes),
    (packageVariable, Bytes.ofString request.source.package.text)]

/-- Start the program of a plugin with the document that it reads, and take its end. -/
def invoke (command : PluginCommand) (behaviour : Behaviour) (request : GenerationRequest)
    (document : Bytes) (world : World) : Except PluginError Unit × World :=
  match world.start behaviour (.ofString command.program) (command.arguments.map Bytes.ofString)
      (requestVariables request) document with
  | (.error error, world) => (.error (.spawn command.program error), world)
  | (.ok outcome, world) =>
    match world.await with
    | .error error => (.error (.io command.program error), world)
    | .ok () =>
      if outcome.exit.isSuccess then (.ok (), world)
      else
        let errors := Text.trimString outcome.errors.toStringLossy
        (.error (.failed command.program request.source.package outcome.exit errors), world)

/-- Have a plugin generate the sources of a schema. -/
def generate (command : PluginCommand) (behaviour : Behaviour) (request : GenerationRequest)
    (world : World) : Except PluginError Unit × World :=
  match request.document with
  | .error error => (.error (.io command.program error), world)
  | .ok document =>
    match world.stage (.ofString document) with
    | .error error => (.error (.io command.program error), world)
    | .ok () => command.invoke behaviour request (.ofString document) world

end PluginCommand

end SchemaBuild
