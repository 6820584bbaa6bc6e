import SchemaBuild.Package
import SchemaBuild.Resolution

/-!
# Failures of a build

Each stage of a build has a failure of its own, and the first one ends the build.
-/

namespace SchemaBuild

/-- Why a build ended early. -/
inductive BuildError where
  /-- No package was asked for. -/
  | noPackages
  /-- The search path cannot be built. -/
  | resolution (error : SupplierError)
  /-- A package cannot be compiled. -/
  | compilation (package : PackageName) (cause : Cause)
  /-- The output directory cannot be made. -/
  | directory (path : Path) (error : IoError)
  /-- The output directory cannot be registered as a source root. -/
  | registration (path : Path) (error : IoError)
  /-- Sources cannot be generated for a package. -/
  | generation (package : PackageName) (cause : Cause)
  deriving DecidableEq

namespace BuildError

/-- The package that a failure is about. -/
def package? : BuildError → Option PackageName
  | compilation package _ => some package
  | generation package _ => some package
  | _ => none

/-- The failure as a cause. -/
def toCause : BuildError → Cause
  | noPackages =>
    .ofKind .buildConfiguration
      "Invalid build configuration: at least one package must be requested"
  | resolution error => error.toCause.under .buildResolution "Error building dependency list"
  | compilation package cause =>
    cause.under .buildCompilation s!"Failed to compile package '{package.text}'"
  | directory path error =>
    (Cause.ofIo error).under .buildDirectory s!"Can't create output folder {path.display}"
  | registration path error =>
    (Cause.ofIo error).under .buildRegistration s!"Failed to register source root {path.display}"
  | generation package cause =>
    cause.under .buildGeneration s!"Failed to generate sources for package '{package.text}'"

end BuildError

end SchemaBuild
