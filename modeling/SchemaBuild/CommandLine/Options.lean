import SchemaBuild.Config.Overrides

/-!
# What a command line says

A command line names a command with its options, and some options that every command has. Those about
the configuration are the command line's layer of settings.
-/

namespace SchemaBuild

/-- The options that every command has. -/
structure GlobalOptions where
  /-- Report problems only. -/
  quiet : Bool := false
  /-- Report every step. -/
  verbose : Bool := false
  /-- The project directory. -/
  project : Option Path := none
  /-- The configuration file in place of the project's own. -/
  config : Option Path := none
  deriving Repr, DecidableEq, Inhabited

/-- The options about where sources are looked for. -/
structure SourceOptions where
  resources : Option Path := none
  /-- A path list. -/
  classpath : Option Bytes := none
  classpathFile : Option Path := none
  deriving Repr, DecidableEq, Inhabited

/-- The options about what is generated. -/
structure GenerateOptions where
  packages : List String := []
  output : Option Path := none
  /-- The words of the plugin's command. -/
  plugin : List String := []
  sources : SourceOptions := {}
  deriving Repr, DecidableEq, Inhabited

/-- What is to be done. -/
inductive Command where
  /-- Generate sources. -/
  | generate (options : GenerateOptions)
  /-- Show the search path. -/
  | suppliers (options : SourceOptions)
  deriving Repr, DecidableEq

/-- A command line. -/
structure CommandLine where
  command : Command
  globals : GlobalOptions
  deriving Repr, DecidableEq

namespace SourceOptions

/-- What the options say about the configuration. -/
def overrides (options : SourceOptions) : Overrides :=
  { resources := options.resources
    classpathEntries := (options.classpath.map Path.splitList).getD []
    classpathFile := options.classpathFile }

end SourceOptions

namespace GenerateOptions

/-- What the options say about the configuration. -/
def overrides (options : GenerateOptions) : Overrides :=
  { options.sources.overrides with
    output := options.output
    packages := options.packages
    plugin := options.plugin }

end GenerateOptions

namespace Command

/-- What the command's options say about the configuration. -/
def overrides : Command → Overrides
  | generate options => options.overrides
  | suppliers options => options.overrides

end Command

end SchemaBuild
