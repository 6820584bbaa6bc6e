import SchemaBuild.Build.Run
import SchemaBuild.Proofs.Build.InTurn
import SchemaBuild.Proofs.Build.Output

/-!
# What a build asks of its collaborators

A build knows its collaborators only by the calls that it makes. The calls are written down by
collaborators that do what the given ones do and keep a **record** beside it:

* `Collaborators.recorded` — the recording collaborators, and `BuildRequest.calls`, the record of a
  build that starts with an empty one;
* `BuildRequest.Course` — the six courses that a build can take, each with its calls and with the
  site that it leaves;
* `BuildRequest.course_of_run` — every build takes one of them, with its own calls;
* `BuildRequest.run_recorded` — keeping a record changes neither the result nor the site, so the
  calls are those of the build itself.

The courses say all that a build can do. What is proved of a build is read off its course, and the
definition of the build is not opened again.
-/

namespace SchemaBuild

variable {τ ε α C S : Type}

/-- What a build asks of one of its collaborators. -/
inductive Call (S : Type) where
  | connect (suppliers : List Supplier)
  | compile (package : PackageName)
  | register (root : Path)
  | generate (options : GenerationOptions) (schema : S) (output : Path)
  deriving DecidableEq

namespace Call

/-- Is the generator asked? -/
def isGenerate : Call S → Bool
  | generate .. => true
  | _ => false

end Call

/-! ### Keeping a record -/

/-- What collaborators keep, and the calls made to them so far. -/
structure Recorded (τ S : Type) where
  kept : τ
  calls : List (Call S)

namespace Site

/-- The site with a record in it. -/
def withRecord (site : Site τ) (calls : List (Call S)) : Site (Recorded τ S) :=
  ⟨site.world, ⟨site.kept, calls⟩⟩

/-- The site without its record. -/
def withoutRecord (site : Site (Recorded τ S)) : Site τ := ⟨site.world, site.kept.kept⟩

@[simp] theorem withRecord_world (site : Site τ) (calls : List (Call S)) :
    (site.withRecord calls).world = site.world := rfl

@[simp] theorem withRecord_calls (site : Site τ) (calls : List (Call S)) :
    (site.withRecord calls).kept.calls = calls := rfl

@[simp] theorem withoutRecord_withRecord (site : Site τ) (calls : List (Call S)) :
    (site.withRecord calls).withoutRecord = site := rfl

end Site

/-- Do a task and write its call down. -/
def Task.recorded (call : Call S) (task : Task (Site τ) ε α) : Task (Site (Recorded τ S)) ε α :=
  fun site =>
    let (result, after) := task site.withoutRecord
    (result, after.withRecord (site.kept.calls ++ [call]))

theorem Task.recorded_eq {task : Task (Site τ) ε α} {before after : Site τ} {result : Except ε α}
    (h : task before = (result, after)) (call : Call S) (calls : List (Call S)) :
    task.recorded call (before.withRecord calls)
      = (result, after.withRecord (calls ++ [call])) := by
  simp [Task.recorded, h]

/-- The collaborators with a record of the calls that are made to them. -/
def Collaborators.recorded (all : Collaborators τ C S) : Collaborators (Recorded τ S) C S where
  connect suppliers site :=
    let (compiler, after) := all.connect suppliers site.withoutRecord
    (compiler, after.withRecord (site.kept.calls ++ [.connect suppliers]))
  compile compiler package := (all.compile compiler package).recorded (.compile package)
  generate compiler options schema output :=
    (all.generate compiler options schema output).recorded (.generate options schema output)
  register root := (all.register root).recorded (.register root)

/-- The calls that a build makes, the first one first. -/
def BuildRequest.calls (request : BuildRequest) (classpath : Classpath)
    (all : Collaborators τ C S) (site : Site τ) : List (Call S) :=
  (request.run classpath all.recorded (site.withRecord [])).2.kept.calls

/-- The calls of a build that compiles these packages. -/
def compileCalls (suppliers : List Supplier) (packages : List PackageName) : List (Call S) :=
  .connect suppliers :: packages.map .compile

/-- The calls of a build that generates from these schemas. -/
def BuildRequest.generateCalls (request : BuildRequest) (schemas : List S) : List (Call S) :=
  schemas.map (.generate request.options · request.output)

theorem BuildRequest.generateCalls_concat (request : BuildRequest) (schemas : List S) (schema : S) :
    request.generateCalls (schemas ++ [schema])
      = request.generateCalls schemas ++ [.generate request.options schema request.output] :=
  List.map_append

/-! ### Stages with a record -/

section Stages

variable {all : Collaborators τ C S} {compiler : C} {before after : Site τ}

/-- Steps that each write one call down write down the calls of all items. -/
theorem InTurn.recorded {step : α → Site τ → Site τ → Prop}
    {step' : α → Site (Recorded τ S) → Site (Recorded τ S) → Prop} {call : α → Call S}
    (hstep : ∀ item before after calls, step item before after →
      step' item (before.withRecord calls) (after.withRecord (calls ++ [call item])))
    {items : List α} (h : InTurn step items before after) (calls : List (Call S)) :
    InTurn step' items (before.withRecord calls) (after.withRecord (calls ++ items.map call)) := by
  -- for any record, since each step finds the calls of those before it there
  induction h generalizing calls with
  | nil =>
    rw [List.map_nil, List.append_nil]
    exact .nil _
  | cons first _ ih =>
    rw [List.map_cons, List.append_cons]
    exact .cons (hstep _ _ _ calls first) (ih _)

theorem inTurn_compiles_recorded {schemas : List (CompiledSchema S)}
    (h : InTurn (Compiles (all.compile compiler)) schemas before after)
    (suppliers : List Supplier) :
    InTurn (Compiles (all.recorded.compile compiler)) schemas
      (before.withRecord [.connect suppliers])
      (after.withRecord (compileCalls suppliers (schemas.map (·.package)))) := by
  rw [compileCalls, List.map_map]
  exact h.recorded (fun _ _ _ calls hcompiles => Task.recorded_eq hcompiles _ calls) _

theorem inTurn_generates_recorded {request : BuildRequest} {schemas : List (CompiledSchema S)}
    (h : InTurn (Generates fun schema =>
      all.generate compiler request.options schema request.output) schemas before after)
    (calls : List (Call S)) :
    InTurn (Generates fun schema =>
      all.recorded.generate compiler request.options schema request.output) schemas
      (before.withRecord calls)
      (after.withRecord (calls ++ request.generateCalls (schemas.map (·.schema)))) := by
  rw [BuildRequest.generateCalls, List.map_map]
  exact h.recorded (fun _ _ _ calls hgenerates => Task.recorded_eq hgenerates _ calls) calls

/-- Making the output directory asks nobody. -/
theorem ensureDirectory_withRecord {path : Path} {result : Except BuildError Unit}
    (h : ensureDirectory path before = (result, after)) (calls : List (Call S)) :
    ensureDirectory path (before.withRecord calls) = (result, after.withRecord calls) := by
  unfold ensureDirectory at h ⊢
  by_cases hhas : before.world.has path
  · -- nothing is made
    rw [if_pos hhas] at h
    cases h
    rw [Site.withRecord_world, if_pos hhas]
  · -- directories are made, and no call is written down
    rw [if_neg hhas] at h
    rw [Site.withRecord_world, if_neg hhas]
    cases hmakes : before.world.makeDirectories path with
    | mk made world =>
      rw [hmakes] at h
      cases made <;>
      · cases h
        rfl

end Stages

/-! ### The course of a build -/

/-- What a build has done when every package is compiled: it has found the suppliers, connected a
compiler to them, and compiled the packages in turn. -/
structure BuildRequest.Compiled (request : BuildRequest) (classpath : Classpath)
    (all : Collaborators τ C S) (site : Site τ) (suppliers : List Supplier)
    (schemas : List (CompiledSchema S)) (compiled : Site τ) : Prop where
  resolved : Supplier.resolve site.world request.resources classpath = .ok suppliers
  packages : request.packages = schemas.map (·.package)
  compiles : InTurn (Compiles (all.compile (all.connect suppliers site).1)) schemas
    (all.connect suppliers site).2 compiled

/-- **The course of a build**: how it ends, the calls that it makes, and the site that it leaves. -/
inductive BuildRequest.Course (request : BuildRequest) (classpath : Classpath)
    (all : Collaborators τ C S) (site : Site τ) :
    Except BuildError BuildReport → List (Call S) → Site τ → Prop
  /-- The suppliers are not found, and that is all. -/
  | unresolved {error : SupplierError}
      (resolves : Supplier.resolve site.world request.resources classpath = .error error) :
      Course request classpath all site (.error (.resolution error)) [] site
  /-- A package is not compiled, when those before it are. -/
  | uncompiled {suppliers : List Supplier} {done : List (CompiledSchema S)} {package : PackageName}
      {rest : List PackageName} {between after : Site τ} {cause : Cause}
      (resolves : Supplier.resolve site.world request.resources classpath = .ok suppliers)
      (packages : request.packages = done.map (·.package) ++ package :: rest)
      (compiles : InTurn (Compiles (all.compile (all.connect suppliers site).1)) done
        (all.connect suppliers site).2 between)
      (fails : all.compile (all.connect suppliers site).1 package between = (.error cause, after)) :
      Course request classpath all site (.error (.compilation package cause))
        (compileCalls suppliers (done.map (·.package)) ++ [.compile package]) after
  /-- All packages are compiled, and the output directory is not made. -/
  | unmade {suppliers : List Supplier} {schemas : List (CompiledSchema S)}
      {compiled after : Site τ} {error : BuildError}
      (compiles : request.Compiled classpath all site suppliers schemas compiled)
      (ensures : ensureDirectory request.output compiled = (.error error, after)) :
      Course request classpath all site (.error error)
        (compileCalls suppliers request.packages) after
  /-- The output directory is there, and is not registered. -/
  | unregistered {suppliers : List Supplier} {schemas : List (CompiledSchema S)}
      {compiled prepared after : Site τ} {error : IoError}
      (compiles : request.Compiled classpath all site suppliers schemas compiled)
      (ensures : ensureDirectory request.output compiled = (.ok (), prepared))
      (registers : all.register (prepared.world.absolute request.output) prepared
        = (.error error, after)) :
      Course request classpath all site
        (.error (.registration (prepared.world.absolute request.output) error))
        (compileCalls suppliers request.packages
          ++ [.register (prepared.world.absolute request.output)]) after
  /-- Nothing is generated from a schema, when there is from those before it. -/
  | ungenerated {suppliers : List Supplier} {done rest : List (CompiledSchema S)}
      {failing : CompiledSchema S} {compiled prepared ready between after : Site τ} {cause : Cause}
      (compiles : request.Compiled classpath all site suppliers (done ++ failing :: rest) compiled)
      (ensures : ensureDirectory request.output compiled = (.ok (), prepared))
      (registers : all.register (prepared.world.absolute request.output) prepared = (.ok (), ready))
      (generates : InTurn (Generates fun schema =>
        all.generate (all.connect suppliers site).1 request.options schema request.output)
        done ready between)
      (fails : all.generate (all.connect suppliers site).1 request.options failing.schema
        request.output between = (.error cause, after)) :
      Course request classpath all site (.error (.generation failing.package cause))
        (compileCalls suppliers request.packages
          ++ [.register (prepared.world.absolute request.output)]
          ++ request.generateCalls (done.map (·.schema))
          ++ [.generate request.options failing.schema request.output]) after
  /-- Everything is done. -/
  | finished {suppliers : List Supplier} {schemas : List (CompiledSchema S)}
      {compiled prepared ready after : Site τ}
      (compiles : request.Compiled classpath all site suppliers schemas compiled)
      (ensures : ensureDirectory request.output compiled = (.ok (), prepared))
      (registers : all.register (prepared.world.absolute request.output) prepared = (.ok (), ready))
      (generates : InTurn (Generates fun schema =>
        all.generate (all.connect suppliers site).1 request.options schema request.output)
        schemas ready after) :
      Course request classpath all site
        (.ok { suppliers, packages := request.packages, output := request.output })
        (compileCalls suppliers request.packages
          ++ [.register (prepared.world.absolute request.output)]
          ++ request.generateCalls (schemas.map (·.schema))) after

variable {request : BuildRequest} {classpath : Classpath} {all : Collaborators τ C S}
  {site after : Site τ} {result : Except BuildError BuildReport} {calls : List (Call S)}

/-- **Every build takes one of the courses.** -/
theorem BuildRequest.exists_course (h : request.run classpath all site = (result, after)) :
    ∃ calls, request.Course classpath all site result calls after := by
  unfold BuildRequest.run at h
  -- the search path
  split at h
  · next error hresolve =>
    cases h
    exact ⟨_, .unresolved hresolve⟩
  · next suppliers hresolve =>
    -- the packages
    dsimp only at h
    split at h
    · next error after hcompile =>
      cases h
      obtain ⟨done, package, rest, between, cause, hsplit, hturn, hfails, rfl⟩ :=
        compileAll_eq_error_iff.mp hcompile
      exact ⟨_, .uncompiled hresolve hsplit hturn hfails⟩
    · next schemas compiled hcompile =>
      obtain ⟨hpackages, hturn⟩ := compileAll_eq_ok_iff.mp hcompile
      have hcompiled : request.Compiled classpath all site suppliers schemas compiled :=
        ⟨hresolve, hpackages, hturn⟩
      -- the output directory, which has two ways to fail
      split at h
      · next error after hprepare =>
        cases h
        obtain ⟨_, hensure, herror⟩ | ⟨prepared, hensure, ⟨_, hregister, herror⟩ | ⟨_, herror⟩⟩ :=
          ensureAndRegister_cases hprepare
        all_goals cases herror
        · exact ⟨_, .unmade hcompiled hensure⟩
        · exact ⟨_, .unregistered hcompiled hensure hregister⟩
      · next ready hprepare =>
        obtain ⟨_, _, herror⟩ | ⟨prepared, hensure, ⟨_, _, herror⟩ | ⟨hregister, _⟩⟩ :=
          ensureAndRegister_cases hprepare
        · cases herror
        · cases herror
        -- the sources
        split at h
        · next error after hgenerate =>
          cases h
          obtain ⟨done, failing, rest, between, cause, rfl, hturn, hfails, rfl⟩ :=
            generateAll_eq_error_iff.mp hgenerate
          exact ⟨_, .ungenerated hcompiled hensure hregister hturn hfails⟩
        · next after hgenerate =>
          cases h
          rw [← hpackages]
          exact ⟨_, .finished hcompiled hensure hregister (generateAll_eq_ok_iff.mp hgenerate)⟩

/-- What is left of a build that has compiled everything: the output directory and the generator. -/
theorem BuildRequest.Compiled.run {suppliers : List Supplier} {schemas : List (CompiledSchema S)}
    {compiled : Site τ} (h : request.Compiled classpath all site suppliers schemas compiled) :
    request.run classpath all site =
      match ensureAndRegister all.register request.output compiled with
      | (.error error, site) => (.error error, site)
      | (.ok (), ready) =>
        match generateAll (fun schema => all.generate (all.connect suppliers site).1 request.options
          schema request.output) schemas ready with
        | (.error error, site) => (.error error, site)
        | (.ok (), site) =>
          (.ok { suppliers, packages := schemas.map (·.package), output := request.output },
            site) := by
  have hcompile : compileAll (all.compile (all.connect suppliers site).1) request.packages
      (all.connect suppliers site).2 = (.ok schemas, compiled) :=
    compileAll_eq_ok_iff.mpr ⟨h.packages, h.compiles⟩
  rw [BuildRequest.run, h.resolved]
  dsimp only
  -- the pair is put in as a whole: rewriting with it would leave the match standing
  generalize compileAll (all.compile (all.connect suppliers site).1) request.packages
    (all.connect suppliers site).2 = found at hcompile ⊢
  subst hcompile
  rfl

/-- A build that takes a course ends as the course says. -/
theorem BuildRequest.Course.run (h : request.Course classpath all site result calls after) :
    request.run classpath all site = (result, after) := by
  cases h with
  | unresolved resolves =>
    -- the suppliers are not found
    rw [BuildRequest.run, resolves]
  | uncompiled resolves packages compiles fails =>
    -- here the packages are not all compiled, so `Compiled.run` does not apply
    rw [BuildRequest.run, resolves]
    dsimp only
    rw [compileAll_eq_error_iff.mpr ⟨_, _, _, _, _, packages, compiles, fails, rfl⟩]
  | unmade compiles ensures =>
    -- the directory of the output is not made
    rw [compiles.run]
    simp only [ensureAndRegister, ensures]
  | unregistered compiles ensures registers =>
    -- the directory is not registered
    rw [compiles.run]
    simp only [ensureAndRegister, ensures, registers]
  | ungenerated compiles ensures registers generates fails =>
    -- a schema is not generated
    rw [compiles.run]
    simp only [ensureAndRegister, ensures, registers]
    rw [generateAll_eq_error_iff.mpr ⟨_, _, _, _, _, rfl, generates, fails, rfl⟩]
  | finished compiles ensures registers generates =>
    -- all is done
    rw [compiles.run]
    simp only [ensureAndRegister, ensures, registers]
    rw [generateAll_eq_ok_iff.mpr generates]
    simp only [compiles.packages]

/-! ### The record of a course -/

/-- A build that has compiled everything has done so with a record, too. -/
theorem BuildRequest.Compiled.recorded {suppliers : List Supplier}
    {schemas : List (CompiledSchema S)} {compiled : Site τ}
    (h : request.Compiled classpath all site suppliers schemas compiled) :
    request.Compiled classpath all.recorded (site.withRecord []) suppliers schemas
      (compiled.withRecord (compileCalls suppliers request.packages)) where
  resolved := h.resolved
  packages := h.packages
  compiles := by
    rw [h.packages]
    exact inTurn_compiles_recorded h.compiles suppliers

/-- With a record a build takes the same course, and the record holds the calls of the course. -/
theorem BuildRequest.Course.recorded (h : request.Course classpath all site result calls after) :
    request.Course classpath all.recorded (site.withRecord []) result calls
      (after.withRecord calls) := by
  cases h with
  | unresolved resolves => exact .unresolved resolves
  | uncompiled resolves packages compiles fails =>
    -- each stage finds in the record what the stages before it have written
    exact .uncompiled resolves packages (inTurn_compiles_recorded compiles _)
      (Task.recorded_eq fails _ _)
  | unmade compiles ensures =>
    exact .unmade compiles.recorded (ensureDirectory_withRecord ensures _)
  | unregistered compiles ensures registers =>
    exact .unregistered compiles.recorded (ensureDirectory_withRecord ensures _)
      (Task.recorded_eq registers _ _)
  | ungenerated compiles ensures registers generates fails =>
    exact .ungenerated compiles.recorded (ensureDirectory_withRecord ensures _)
      (Task.recorded_eq registers _ _) (inTurn_generates_recorded generates _)
      (Task.recorded_eq fails _ _)
  | finished compiles ensures registers generates =>
    exact .finished compiles.recorded (ensureDirectory_withRecord ensures _)
      (Task.recorded_eq registers _ _) (inTurn_generates_recorded generates _)

/-- **A record changes nothing**: with it a build ends in the same way and leaves the same site, and
the record is what `BuildRequest.calls` says. -/
theorem BuildRequest.run_recorded (h : request.run classpath all site = (result, after)) :
    request.run classpath all.recorded (site.withRecord [])
      = (result, after.withRecord (request.calls classpath all site)) := by
  obtain ⟨calls, hcourse⟩ := exists_course h
  rw [BuildRequest.calls, hcourse.recorded.run, Site.withRecord_calls]

/-- The course that a build takes has the calls of the build. -/
theorem BuildRequest.course_of_run (h : request.run classpath all site = (result, after)) :
    request.Course classpath all site result (request.calls classpath all site) after := by
  obtain ⟨calls, hcourse⟩ := exists_course h
  rw [BuildRequest.calls, hcourse.recorded.run, Site.withRecord_calls]
  exact hcourse

end SchemaBuild
