import SchemaBuild.Config.Basic
import SchemaBuild.Config.Error

/-!
# The packages of a configuration

A configuration lists packages as texts; a build needs package names, and one at least.
-/

namespace SchemaBuild.Config

/-- The packages of a configuration, of which there has to be one at least. -/
def packageNames (config : Config) : Except ConfigError (List PackageName) :=
  if config.packages.isEmpty then .error (.missing "packages")
  else namesOf config.packages
where
  /-- The names that texts are, up to the first that is none. -/
  namesOf : List String → Except ConfigError (List PackageName)
    | [] => .ok []
    | text :: texts =>
      match PackageName.ofString? text with
      | .error invalid => .error (.invalid "packages" invalid.message)
      | .ok name =>
        match namesOf texts with
        | .error error => .error error
        | .ok names => .ok (name :: names)

end SchemaBuild.Config
