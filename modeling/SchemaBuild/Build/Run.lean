import SchemaBuild.Build.Stages

/-!
# A whole build

A build resolves the search path, connects a compiler to it, compiles every package, makes and
registers the output directory, and generates sources for every schema. The first failure ends it.
Nothing is generated unless every package was compiled.
-/

namespace SchemaBuild

/-- What a build is asked for. -/
structure BuildRequest where
  output : Path
  resources : Path
  packages : List PackageName
  options : GenerationOptions := {}
  nonempty : packages ≠ []

namespace BuildRequest

/-- A request for packages, of which there has to be one at least. -/
def make? (output resources : Path) (packages : List PackageName) : Except BuildError BuildRequest :=
  if h : packages = [] then .error .noPackages
  else .ok { output, resources, packages, nonempty := h }

/-- The request with other options. -/
def withOptions (request : BuildRequest) (options : GenerationOptions) : BuildRequest :=
  { request with options }

end BuildRequest

/-- What a successful build did. -/
structure BuildReport where
  suppliers : List Supplier
  packages : List PackageName
  output : Path
  deriving DecidableEq

namespace BuildReport

/-- The fields of the report as JSON. -/
def jsonFields (report : BuildReport) : Except IoError (List (String × Json)) := do
  let suppliers ← Supplier.listToJson report.suppliers
  let output ← report.output.toJson
  return [("suppliers", suppliers), ("packages", .array (report.packages.map PackageName.toJson)),
    ("output_directory", output)]

end BuildReport

/-- Those whom a build works with. `C` is what a compiler is to them, and `S` what a schema is. -/
structure Collaborators (τ C S : Type) where
  /-- Connect a compiler to a search path. -/
  connect : List Supplier → Site τ → C × Site τ
  compile : C → PackageName → Task (Site τ) Cause S
  generate : C → GenerationOptions → S → Path → Task (Site τ) Cause Unit
  register : Path → Task (Site τ) IoError Unit

/-- Run a build. -/
def BuildRequest.run {τ C S : Type} (request : BuildRequest) (classpath : Classpath)
    (collaborators : Collaborators τ C S) : Task (Site τ) BuildError BuildReport := fun site =>
  match Supplier.resolve site.world request.resources classpath with
  | .error error => (.error (.resolution error), site)
  | .ok suppliers =>
    let (compiler, site) := collaborators.connect suppliers site
    match compileAll (collaborators.compile compiler) request.packages site with
    | (.error error, site) => (.error error, site)
    | (.ok schemas, site) =>
      match ensureAndRegister collaborators.register request.output site with
      | (.error error, site) => (.error error, site)
      | (.ok (), site) =>
        let generate (schema : S) :=
          collaborators.generate compiler request.options schema request.output
        match generateAll generate schemas site with
        | (.error error, site) => (.error error, site)
        | (.ok (), site) =>
          (.ok { suppliers, packages := schemas.map (·.package), output := request.output }, site)

end SchemaBuild
