import SchemaBuild.Build.Error
import SchemaBuild.Build.Task
import SchemaBuild.GenerationOptions

/-!
# The stages of a build

Compiling all packages, making and registering the output directory, and generating sources for all
schemas. Compiling and generating go through their list in order and stop at the first failure;
nothing is undone.
-/

namespace SchemaBuild

/-- A compiled package. -/
structure CompiledSchema (S : Type) where
  package : PackageName
  schema : S
  deriving DecidableEq

/-- Compile packages in order, up to the first failure. -/
def compileAll {σ S : Type} (compile : PackageName → Task σ Cause S) :
    List PackageName → Task σ BuildError (List (CompiledSchema S))
  | [], state => (.ok [], state)
  | package :: packages, state =>
    match compile package state with
    | (.error cause, state) => (.error (.compilation package cause), state)
    | (.ok schema, state) =>
      match compileAll compile packages state with
      | (.error error, state) => (.error error, state)
      | (.ok schemas, state) => (.ok (⟨package, schema⟩ :: schemas), state)

/-- Generate sources for schemas in order, up to the first failure. -/
def generateAll {σ S : Type} (generate : S → Task σ Cause Unit) :
    List (CompiledSchema S) → Task σ BuildError Unit
  | [], state => (.ok (), state)
  | compiled :: schemas, state =>
    match generate compiled.schema state with
    | (.error cause, state) => (.error (.generation compiled.package cause), state)
    | (.ok (), state) => generateAll generate schemas state

/-- Make a directory unless something is there, whatever it is. -/
def ensureDirectory {τ : Type} (path : Path) : Task (Site τ) BuildError Unit := fun site =>
  if site.world.has path then (.ok (), site)
  else
    match site.world.makeDirectories path with
    | (.ok (), world) => (.ok (), { site with world })
    | (.error error, world) => (.error (.directory path error), { site with world })

/-- Make the output directory and register it by its absolute path. -/
def ensureAndRegister {τ : Type} (register : Path → Task (Site τ) IoError Unit) (path : Path) :
    Task (Site τ) BuildError Unit := fun site =>
  match ensureDirectory path site with
  | (.error error, site) => (.error error, site)
  | (.ok (), site) =>
    let root := site.world.absolute path
    match register root site with
    | (.ok (), site) => (.ok (), site)
    | (.error error, site) => (.error (.registration root error), site)

end SchemaBuild
