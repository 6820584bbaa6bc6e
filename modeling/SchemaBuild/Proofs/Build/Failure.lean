import SchemaBuild.Build.Roots
import SchemaBuild.Proofs.Build.Calls

/-!
# Builds that fail

What a failed build has done and what it has not. A build fails with the error of the first stage
that fails, and the stages behind it have no effect. How much the stages before it have changed is not
for the build alone to say. The build itself only makes directories; a compiler that leaves files and
registry alone (`Collaborators.Quiet`) adds nothing to that; but connecting it may have written files, and
a registry that accepts a root may forget it. So the contract is told from where the connection left the
site, and of the registry it says what it was asked and what it answered.

* `BuildRequest.FailureContract` — what holds after a failure, stage by stage;
* `BuildRequest.failure_contract` — it holds after every failure, whatever the classpath, the
  connection, the generator and the registry do;
* `BuildRequest.failure_of_meddling` — from where the build started it does not hold.
-/

namespace SchemaBuild

variable {τ ρ C S : Type}

/-- The file system and what `registry` shows of what the collaborators keep are the same. -/
structure Site.Untouched (registry : τ → ρ) (before after : Site τ) : Prop where
  files : after.world.files = before.world.files
  registry : registry after.kept = registry before.kept

theorem Site.Untouched.trans {registry : τ → ρ} {a b c : Site τ} (hab : a.Untouched registry b)
    (hbc : b.Untouched registry c) : a.Untouched registry c where
  files := by rw [hbc.files, hab.files]
  registry := by rw [hbc.registry, hab.registry]

/-- A compiler that neither writes files nor touches the registry, also when it refuses a package. -/
def Collaborators.Quiet (all : Collaborators τ C S) (registry : τ → ρ) (compiler : C) : Prop :=
  ∀ package site, Site.Untouched registry site (all.compile compiler package site).2

/-- Packages that a quiet compiler compiles leave files and registry alone. -/
theorem Collaborators.Quiet.untouched {all : Collaborators τ C S} {registry : τ → ρ} {compiler : C}
    (hquiet : all.Quiet registry compiler) {schemas : List (CompiledSchema S)}
    {before after : Site τ} (h : InTurn (Compiles (all.compile compiler)) schemas before after) :
    before.Untouched registry after := by
  have hstep : ∀ (compiled : CompiledSchema S) (a b : Site τ),
      Compiles (all.compile compiler) compiled a b → a.Untouched registry b := by
    intro compiled a b hcompiles
    have hcall := hquiet compiled.package a
    rw [hcompiles] at hcall
    exact hcall
  constructor
  · exact h.frame (·.world.files) fun item a b hcompiles => (hstep item a b hcompiles).files
  · exact h.frame (registry ·.kept) fun item a b hcompiles => (hstep item a b hcompiles).registry

namespace BuildRequest

/-- **What holds after a failure**, by the stage that failed. `calls` are the calls that were made,
in their order; a call that is not among them was not made. -/
def FailureContract (request : BuildRequest) (classpath : Classpath) (all : Collaborators τ C S)
    (registry : τ → ρ) (site : Site τ) (calls : List (Call S)) (after : Site τ) : BuildError → Prop
  -- a request has packages, so this is no failure of a build
  | .noPackages => False
  -- nobody was asked anything
  | .resolution error =>
    Supplier.resolve site.world request.resources classpath = .error error ∧
      calls = [] ∧ after = site
  -- one connection, the packages before the failing one, and the failing one
  | .compilation package cause => ∃ suppliers compiler connected done rest between,
    Supplier.resolve site.world request.resources classpath = .ok suppliers ∧
      all.connect suppliers site = (compiler, connected) ∧
      request.packages = done.map (·.package) ++ package :: rest ∧
      InTurn (Compiles (all.compile compiler)) done connected between ∧
      all.compile compiler package between = (.error cause, after) ∧
      calls = .connect suppliers :: (done.map (·.package) ++ [package]).map .compile ∧
      connected.Untouched registry after
  -- all packages, and then directories were added
  | .directory path error => ∃ suppliers compiler connected schemas compiled,
    path = request.output ∧
      all.connect suppliers site = (compiler, connected) ∧
      request.Compiled classpath all site suppliers schemas compiled ∧
      ensureDirectory path compiled = (.error (.directory path error), after) ∧
      calls = .connect suppliers :: request.packages.map .compile ∧
      connected.world.files.Grows after.world.files ∧
      registry after.kept = registry connected.kept
  -- all packages and the directory, and then the registry was asked once
  | .registration root error => ∃ suppliers schemas compiled prepared,
    request.Compiled classpath all site suppliers schemas compiled ∧
      ensureDirectory request.output compiled = (.ok (), prepared) ∧
      root = prepared.world.absolute request.output ∧
      all.register root prepared = (.error error, after) ∧
      calls = .connect suppliers :: request.packages.map .compile ++ [.register root]
  -- all packages, the directory and its registration, and then only the generator was asked
  | .generation package cause =>
    ∃ suppliers compiler connected done failing rest compiled prepared ready between,
    all.connect suppliers site = (compiler, connected) ∧ package = failing.package ∧
      request.Compiled classpath all site suppliers (done ++ failing :: rest) compiled ∧
      ensureDirectory request.output compiled = (.ok (), prepared) ∧
      (prepared.world.has request.output = true ∨ prepared = compiled) ∧
      all.register (prepared.world.absolute request.output) prepared = (.ok (), ready) ∧
      InTurn (Generates fun schema =>
        all.generate compiler request.options schema request.output) done ready between ∧
      all.generate compiler request.options failing.schema request.output between
        = (.error cause, after) ∧
      calls = .connect suppliers :: request.packages.map .compile
        ++ [.register (prepared.world.absolute request.output)]
        ++ request.generateCalls ((done ++ [failing]).map (·.schema))

/-- **Failure contract.** A build that fails has failed in the stage that its error names, and no later
stage has had any effect, if the compiler that is connected is quiet. -/
theorem failure_contract {request : BuildRequest} {classpath : Classpath}
    {all : Collaborators τ C S} {registry : τ → ρ} {site after : Site τ} {error : BuildError}
    (hquiet : ∀ suppliers, Supplier.resolve site.world request.resources classpath = .ok suppliers →
      all.Quiet registry (all.connect suppliers site).1)
    (h : request.run classpath all site = (.error error, after)) :
    request.FailureContract classpath all registry site (request.calls classpath all site) after
      error := by
  have hcourse := course_of_run h
  generalize request.calls classpath all site = calls at hcourse ⊢
  cases hcourse with
  | unresolved resolves => exact ⟨resolves, rfl, rfl⟩
  | @uncompiled suppliers done package rest between _ cause resolves packages compiles fails =>
    -- the packages before it were compiled quietly, and the refusal was quiet, too
    have hdone := (hquiet suppliers resolves).untouched compiles
    have hlast := hquiet suppliers resolves package between
    rw [fails] at hlast
    refine ⟨suppliers, _, _, done, rest, between, resolves, rfl, packages, compiles, fails, ?_,
      hdone.trans hlast⟩
    rw [compileCalls, List.map_append]
    rfl
  | @unmade suppliers schemas compiled _ _ compiles ensures =>
    -- what has changed since the connection are the directories that were made
    have hdone := (hquiet suppliers compiles.resolved).untouched compiles.compiles
    obtain ⟨⟨io, rfl⟩, hgrows, hkept⟩ := ensureDirectory_error ensures
    refine ⟨suppliers, _, _, schemas, compiled, rfl, rfl, compiles, ensures, rfl, ?_, ?_⟩
    · rw [← hdone.files]
      exact hgrows
    · rw [hkept, hdone.registry]
  | @unregistered suppliers schemas compiled prepared _ _ compiles ensures registers =>
    exact ⟨suppliers, schemas, compiled, prepared, compiles, ensures, rfl, registers, rfl⟩
  | @ungenerated suppliers done rest failing compiled prepared ready between _ cause compiles
      ensures registers generates fails =>
    obtain ⟨houtput, -, -⟩ := ensureDirectory_ok ensures
    refine ⟨suppliers, _, _, done, failing, rest, compiled, prepared, ready, between, rfl, rfl,
      compiles, ensures, houtput, registers, generates, fails, ?_⟩
    rw [List.map_append, List.map_singleton, request.generateCalls_concat, ← List.append_assoc]
    rfl

/-- A request for two packages. -/
def forTwo : BuildRequest where
  output := .ofString "/out"
  resources := .ofString "/res"
  packages := [⟨"a", rfl⟩, ⟨"b", rfl⟩]
  nonempty := List.cons_ne_nil _ _

/-- Collaborators that take a package for its own schema and remember the roots. They write a file
for every schema but that of the package `b`. -/
def reluctant : Collaborators RootSet Unit PackageName where
  connect _ site := ((), site)
  compile _ package site := (.ok package, site)
  generate _ _ schema output site :=
    if schema.text = "b" then (.error (.ofMessage "not b"), site)
    else
      let location := [output.bytes.drop 1, Bytes.ofString schema.text]
      let files := site.world.files.put location (.file [] false)
      (.ok (), { site with world := { site.world with files } })
  register := RootSet.task (·.kept) fun site kept => { site with kept }

/-- A site with nothing in it. -/
def bareSite : Site RootSet where
  world :=
    { files := .empty
      environment := ⟨[]⟩
      here := .root
      started := [] }
  kept := .empty

/-- The second of two packages gets no sources: both were compiled, the output directory was made
and registered, and the generator was asked twice. -/
theorem failure_contract_second_package :
    reluctant.Quiet id () ∧
      (forTwo.run (.fixed []) reluctant bareSite).1
        = .error (.generation ⟨"b", rfl⟩ (.ofMessage "not b")) ∧
      forTwo.FailureContract (.fixed []) reluctant id bareSite
        [.connect [], .compile ⟨"a", rfl⟩, .compile ⟨"b", rfl⟩, .register (.ofString "/out"),
          .generate {} ⟨"a", rfl⟩ (.ofString "/out"), .generate {} ⟨"b", rfl⟩ (.ofString "/out")]
        (forTwo.run (.fixed []) reluctant bareSite).2
        (.generation ⟨"b", rfl⟩ (.ofMessage "not b")) := by
  have hquiet : reluctant.Quiet id () := fun _ _ => ⟨rfl, rfl⟩
  have hresult : (forTwo.run (.fixed []) reluctant bareSite).1
      = .error (.generation ⟨"b", rfl⟩ (.ofMessage "not b")) := rfl
  exact ⟨hquiet, hresult, failure_contract (fun _ _ => hquiet) (Prod.ext hresult rfl)⟩

/-! Collaborators that have an effect of their own. -/

/-- A request for two packages, with an output directory in the one of `forTwo`. -/
def furtherDown : BuildRequest := { forTwo with output := .ofString "/out/gen" }

/-- Connecting the compiler writes a file where the output directory is to be. The compiler writes
nothing and registers a root of its own, and then compiles or refuses a package as it is told. -/
def meddling (willing : Bool) : Collaborators RootSet Unit PackageName where
  connect _ site :=
    let files := site.world.files.put [Bytes.ofString "out"] (.file [] false)
    ((), { site with world := { site.world with files } })
  compile _ package site :=
    let site := { site with kept := site.kept.register (.ofString "/own") }
    if willing then (.ok package, site) else (.error (.ofMessage "refused"), site)
  generate _ _ _ _ site := (.ok (), site)
  register := RootSet.task (·.kept) fun site kept => { site with kept }

/-- A registry that accepts every root and keeps none. -/
def forgetful : Collaborators RootSet Unit PackageName :=
  { reluctant with register := fun _ site => (.ok (), site) }

/-- **What others do stays done.** No compiler here writes a file. Yet a package that is refused leaves a
changed file system and a changed registry, an output directory that cannot be made leaves a file where
nothing was, and a failure to generate leaves a registry that does not know the root. -/
theorem failure_of_meddling :
    (∀ willing package site,
        ((meddling willing).compile () package site).2.world.files = site.world.files) ∧
      (∀ package site, (forgetful.compile () package site).2.world.files = site.world.files) ∧
      ((furtherDown.run (.fixed []) (meddling false) bareSite).1
          = .error (.compilation ⟨"a", rfl⟩ (.ofMessage "refused")) ∧
        (furtherDown.run (.fixed []) (meddling false) bareSite).2.world.files
          ≠ bareSite.world.files ∧
        (furtherDown.run (.fixed []) (meddling false) bareSite).2.kept ≠ bareSite.kept) ∧
      ((furtherDown.run (.fixed []) (meddling true) bareSite).1
          = .error (.directory (.ofString "/out/gen") .notDirectory) ∧
        ¬ bareSite.world.files.Grows
          (furtherDown.run (.fixed []) (meddling true) bareSite).2.world.files) ∧
      (forTwo.run (.fixed []) forgetful bareSite).1
          = .error (.generation ⟨"b", rfl⟩ (.ofMessage "not b")) ∧
        (forTwo.run (.fixed []) forgetful bareSite).2.kept = .empty := by
  refine ⟨?_, fun _ _ => rfl, ?_, ?_, rfl, rfl⟩
  · intro willing package site
    cases willing <;> rfl
  · refine ⟨rfl, ?_, by decide +kernel⟩
    exact ne_of_apply_ne (fun files => (files.node? [Bytes.ofString "out"]).isSome) (by decide +kernel)
  · -- the file that the connection has written is no directory
    refine ⟨rfl, fun hgrows => ?_⟩
    have hnew : bareSite.world.files.kind? [Bytes.ofString "out"] = none := rfl
    have hadded := hgrows.added hnew rfl
    cases hadded

end BuildRequest

end SchemaBuild
