import SchemaBuild.Build.Roots
import SchemaBuild.Build.Run
import SchemaBuild.CommandLine.Options
import SchemaBuild.Config.Packages
import SchemaBuild.Plugin

/-!
# Commands

What the two commands do: `generate` runs a build with the configured plugin and shows its report, and
`suppliers` shows the search path that such a build would have. Both find the project and load its
configuration first, in the same way.
-/

namespace SchemaBuild

/-- The project directory by its absolute path: the one that is asked for, or the working directory. -/
def GlobalOptions.projectRoot (globals : GlobalOptions) (world : World) : Except Cause Path :=
  match globals.project with
  | some path =>
    if world.isDirectory path then absoluteRoot path
    else .error (.ofMessage s!"invalid --project '{path.display}': directory does not exist")
  | none =>
    match world.currentDirectory with
    | .error error => .error ((Cause.ofIo error).inContext "failed to read current directory")
    | .ok path => absoluteRoot path
where
  /-- The absolute path of the directory. -/
  absoluteRoot (path : Path) : Except Cause Path :=
    match world.absolute? path with
    | .error error => .error ((Cause.ofIo error).inContext s!"failed to make {path.display} absolute")
    | .ok root => .ok root

/-- The configuration of a project with the command line's settings on top, and its relative paths put
behind the project directory. The dotenv file is loaded first. -/
def GlobalOptions.loadConfig (globals : GlobalOptions) (project : Path) (overrides : Overrides)
    (world : World) : Except Cause Config × World :=
  match Config.loadDotenv project world with
  | (.error error, world) => (.error error.toCause, world)
  | (.ok (), world) =>
    match Config.layers world project globals.config with
    | .error error => (.error error.toCause, world)
    | .ok layers =>
      match Layer.toConfig (layers ++ overrides.layers) with
      | .error error =>
        (.error (error.toCause.inContext "failed to load stemgen configuration"), world)
      | .ok config => (.ok (config.resolvePaths project), world)

/-- The project directory and its configuration. -/
def GlobalOptions.begin (globals : GlobalOptions) (overrides : Overrides) (world : World) :
    Except Cause (Path × Config) × World :=
  match globals.projectRoot world with
  | .error cause => (.error cause, world)
  | .ok project =>
    match globals.loadConfig project overrides world with
    | (.error cause, world) => (.error cause, world)
    | (.ok config, world) => (.ok (project, config), world)

/-! ### Generating -/

/-- Those whom a build from the command line works with: sources are looked up with the given
extension and handed to the plugin, and roots are remembered in a set. -/
def pluginCollaborators (behaviour : Behaviour) (command : PluginCommand) (extension : String) :
    Collaborators RootSet SourceLookup SchemaSource where
  connect suppliers site := (({ suppliers } : SourceLookup).withExtension extension, site)
  compile lookup package := .ofWorld fun world => lookup.compile world package
  generate _ options source output := .onWorld fun world =>
    match command.generate behaviour ⟨source, options, output⟩ world with
    | (.error error, world) => (.error error.toCause, world)
    | (.ok (), world) => (.ok (), world)
  register root site := (.ok (), { site with kept := site.kept.register root })

/-- The request that a configuration makes, and the command of its plugin. -/
def Config.buildRequest (config : Config) : Except Cause (BuildRequest × PluginCommand) :=
  match config.packageNames with
  | .error error => .error error.toCause
  | .ok packages =>
    match BuildRequest.make? config.output config.resources packages with
    | .error error => .error error.toCause
    | .ok request =>
      match PluginCommand.ofWords? config.plugin with
      | .error error =>
        .error (error.toCause.inContext "set [generator] command in stemgen.toml or pass --plugin")
      | .ok command => .ok (request.withOptions config.generation.options, command)

/-- Run the build of a configuration: its report and the source roots. -/
def Config.build (config : Config) (behaviour : Behaviour) (world : World) :
    Except Cause (BuildReport × RootSet) × World :=
  match config.buildRequest with
  | .error cause => (.error cause, world)
  | .ok (request, command) =>
    let collaborators := pluginCollaborators behaviour command config.generation.extension
    match request.run config.classpathChain collaborators ⟨world, .empty⟩ with
    | (.error error, site) => (.error error.toCause, site.world)
    | (.ok report, site) => (.ok (report, site.kept), site.world)

/-- The report and the source roots as JSON. -/
def responseJson (report : BuildReport) (roots : RootSet) : Except IoError Json := do
  let fields ← report.jsonFields
  let roots ← roots.toJson
  return .object (fields ++ [("source_roots", roots)])

/-- A document as it is shown, with a line end behind it. -/
def shown (document : Except IoError Json) : Except Cause String :=
  match document with
  | .error error => .error (.ofIo error)
  | .ok json => .ok (json.pretty ++ "\n")

/-! ### The commands -/

namespace Command

/-- What a command shows in the end when the configuration is loaded. -/
def runWith (command : Command) (behaviour : Behaviour) (config : Config) (world : World) :
    Except Cause String × World :=
  match command with
  | generate _ =>
    match config.build behaviour world with
    | (.error cause, world) => (.error (cause.inContext "error while generating code"), world)
    | (.ok (report, roots), world) => (shown (responseJson report roots), world)
  | suppliers _ =>
    match Supplier.resolve world config.resources config.classpathChain with
    | .error error =>
      (.error (error.toCause.inContext "failed to resolve schema suppliers"), world)
    | .ok found => (shown (Supplier.listToJson found), world)

end Command

/-- Carry a command line out: what it shows, or why it fails. -/
def CommandLine.run (line : CommandLine) (behaviour : Behaviour) (world : World) :
    Except Cause String × World :=
  match line.globals.begin line.command.overrides world with
  | (.error cause, world) => (.error cause, world)
  | (.ok (_, config), world) => line.command.runWith behaviour config world

end SchemaBuild
