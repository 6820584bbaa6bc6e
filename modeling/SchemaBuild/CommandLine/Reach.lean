import SchemaBuild.CommandLine.Commands

/-!
# What a command can come to look at

The paths that a command line leads to, stage by stage: the files of the configuration, then what the
configuration names, then what the classpath lists, and last the sources of the packages. Each stage
needs the one before it, so whoever gathers files for a run asks for one stage after the other.
-/

namespace SchemaBuild.Reach

/-- The project directory, whether it is there or not. -/
def project (globals : GlobalOptions) (world : World) : Path :=
  match globals.project with
  | some path => world.absolute path
  | none => world.absolute ⟨Path.dot⟩

/-- The dotenv file of the project. -/
def dotenvFiles (globals : GlobalOptions) (world : World) : List Path :=
  [(project globals world).join (.ofString ".env")]

/-- The configuration files. The dotenv file has its say on where the user's file is. -/
def configFiles (globals : GlobalOptions) (world : World) : List Path :=
  let root := project globals world
  let loaded := (Config.loadDotenv root world).2
  [Config.projectFile root] ++ (globals.config.map root.join).toList
    ++ (Config.userFile? loaded).toList

/-- What a configuration names. -/
def configPaths (config : Config) : List Path :=
  [config.output, config.resources] ++ config.classpath.entries ++ config.classpath.file.toList

/-- What the classpath lists. -/
def classpathPaths (config : Config) (world : World) : List Path :=
  match config.classpathChain.entries world with
  | .ok entries => entries
  | .error _ => []

/-- The directory in which requests are staged. -/
def stagingDirectories (world : World) : List Path := [world.environment.temporaryDirectory]

/-- The files in which the sources of the packages are looked for. -/
def sourceFiles (config : Config) (world : World) : List Path :=
  match config.packageNames, Supplier.resolve world config.resources config.classpathChain with
  | .ok packages, .ok suppliers =>
    let lookup := ({ suppliers } : SourceLookup).withExtension config.generation.extension
    suppliers.flatMap fun supplier =>
      packages.map fun package => supplier.path.join (.ofString (lookup.fileName package))
  | _, _ => []

end SchemaBuild.Reach
