import SchemaBuild.Config.Layers

/-!
# Settings of the command line

The command line has the last word on some settings. What it says is a layer for each of them.
-/

namespace SchemaBuild

/-- What the command line says about the configuration. -/
structure Overrides where
  output : Option Path := none
  resources : Option Path := none
  packages : List String := []
  classpathEntries : List Path := []
  classpathFile : Option Path := none
  plugin : List String := []
  deriving Repr, DecidableEq, Inhabited

namespace Overrides

/-- A path as a setting. There is none of a path that is not text. -/
def pathSetting (path : Path) : Except LayerError Setting :=
  match path.toString? with
  | some text => .ok (.text .commandLine text)
  | none => .error .pathNotText

/-- A setting below names as a layer. -/
def layerAt (name : String) (path : List String) : Except LayerError Setting → Layer
  | .ok setting => .ok [(name, .nested .commandLine setting path)]
  | .error error => .error error

/-- A list of texts as a setting. -/
def textsSetting (values : List String) : Except LayerError Setting :=
  .ok (.texts .commandLine values)

/-- A list of paths as a setting. -/
def pathsSetting (paths : List Path) : Except LayerError Setting :=
  match paths.mapM pathSetting with
  | .ok settings => .ok (.list .commandLine settings)
  | .error error => .error error

/-- The layers of the command line, one for everything that it sets. An empty list sets nothing. -/
def layers (overrides : Overrides) : List Layer :=
  (overrides.output.map fun path => layerAt "output_directory" [] (pathSetting path)).toList
    ++ (overrides.resources.map fun path => layerAt "resources_directory" [] (pathSetting path)).toList
    ++ (if overrides.packages.isEmpty then []
        else [layerAt "packages" [] (textsSetting overrides.packages)])
    ++ (if overrides.classpathEntries.isEmpty then []
        else [layerAt "classpath" ["entries"] (pathsSetting overrides.classpathEntries)])
    ++ (overrides.classpathFile.map fun path =>
        layerAt "classpath" ["file"] (pathSetting path)).toList
    ++ (if overrides.plugin.isEmpty then []
        else [layerAt "generator" ["command"] (textsSetting overrides.plugin)])

end Overrides

end SchemaBuild
