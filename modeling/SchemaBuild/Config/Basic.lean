import SchemaBuild.Classpath
import SchemaBuild.GenerationOptions
import SchemaBuild.Package
import SchemaBuild.Supplier

/-!
# Configurations

What a project says about its builds: where sources go and come from, which packages are built, what
the classpath is, what the generator writes, and which plugin generates. Everything has a default.

Relative paths are meant from the project directory; `Config.resolvePaths` puts them behind it, and
`Config.classpathChain` is the classpath that is searched.
-/

namespace SchemaBuild

/-- Where the entries of the classpath come from. -/
structure ClasspathConfig where
  /-- Entries of the configuration's own. -/
  entries : List Path := []
  /-- A listing file. -/
  file : Option Path := none
  /-- The name of an environment variable with a path list. -/
  variableName : Option String := none
  deriving Repr, DecidableEq, Inhabited

/-- What is generated of which files. -/
structure GenerationConfig where
  options : GenerationOptions := {}
  /-- The extension of schema sources. -/
  extension : String := "stema"
  deriving Repr, DecidableEq

/-- The configuration of a project. -/
structure Config where
  output : Path := .ofString "target/generated-sources/stemgen"
  resources : Path := .ofString "src/main/resources"
  packages : List String := []
  classpath : ClasspathConfig := {}
  generation : GenerationConfig := {}
  /-- The plugin that generates, the program first. -/
  plugin : List String := []
  deriving Repr, DecidableEq

namespace ClasspathConfig

/-- Is there no source of entries? -/
def isEmpty (classpath : ClasspathConfig) : Bool :=
  classpath.entries.isEmpty && classpath.file.isNone && classpath.variableName.isNone

/-- The classpath with relative paths put behind `base`. Empty entries go. -/
def resolvePaths (classpath : ClasspathConfig) (base : Path) : ClasspathConfig :=
  { classpath with
    entries := (classpath.entries.filter fun entry => !entry.isEmpty).map base.join
    file := classpath.file.map base.join }

end ClasspathConfig

namespace Config

/-- The configuration with relative paths put behind `base`. -/
def resolvePaths (config : Config) (base : Path) : Config :=
  { config with
    output := base.join config.output
    resources := base.join config.resources
    classpath := config.classpath.resolvePaths base }

/-- Is a plugin configured whose program is not blank? -/
def hasPlugin (config : Config) : Bool :=
  match config.plugin with
  | [] => false
  | program :: _ => !Text.isAllBlank program

/-- The sources of the classpath: the configuration's own entries, the listing file, and the variable,
those of them that are there. -/
def classpathSources (config : Config) : List Classpath :=
  (if config.classpath.entries.isEmpty then [] else [.fixed config.classpath.entries])
    ++ (config.classpath.file.map Classpath.listing).toList
    ++ (config.classpath.variableName.map fun name => Classpath.environment (.ofString name)).toList

/-- The classpath that is searched. -/
def classpathChain (config : Config) : Classpath := .chain config.classpathSources

end Config

end SchemaBuild
