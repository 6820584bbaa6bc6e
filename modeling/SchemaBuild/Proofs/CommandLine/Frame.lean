import SchemaBuild.CommandLine.Program
import SchemaBuild.Proofs.Build.Programs
import SchemaBuild.Proofs.Build.Snapshot

/-!
# What a run of the program leaves alone

A run of the program, whatever its arguments and the world it is run in, changes files in two ways
only. It makes the directories that are missing on the way to the output directory, and then it
starts plugins, which may do as they like. It gets that far only if there is something to generate:
the configuration is valid, the search path is there, and every package is compiled.

* `Config.Ready` — what has to hold before a build makes a directory or starts a program;
* `Config.Effect` — what a build may do then, and `Config.build_effect`: it does that or nothing;
* `Program.Frame` — what a run may do to the world, as a relation between the world before it, the
  directories it made, the programs it started and the world after it;
* `Program.run_frame` — every run keeps to that.
-/

namespace SchemaBuild

/-! ### Loading the configuration -/

theorem Dotenv.assign_world (world : World) (assignment : Assignment) :
    ∃ environment, assign world assignment = { world with environment } := by
  unfold assign
  dsimp only
  split
  · exact ⟨world.environment, rfl⟩
  · exact ⟨_, rfl⟩

/-- Loading a dotenv file sets variables, and nothing else, also when it fails. -/
theorem Dotenv.loadLines_world (lines : List Bytes) (pending : Pending)
    (earlier : List Assignment) (world : World) :
    ∃ environment, (loadLines lines pending earlier world).2 = { world with environment } := by
  induction lines generalizing pending earlier world with
  | nil =>
    unfold loadLines
    split <;> exact ⟨world.environment, rfl⟩
  | cons line lines ih =>
    unfold loadLines
    split
    · -- the line is no text
      exact ⟨world.environment, rfl⟩
    · split
      · -- the line goes on with the next one
        exact ih ..
      · split
        · -- the line cannot be understood
          exact ⟨world.environment, rfl⟩
        · -- there is no assignment on the line
          exact ih ..
        · next assignment _ =>
          split
          · -- the variable cannot be set
            exact ⟨world.environment, rfl⟩
          · -- the variable is set, and the load goes on
            obtain ⟨environment, hafter⟩ := ih .empty (assignment :: earlier) (assign world assignment)
            obtain ⟨_, hassign⟩ := assign_world world assignment
            exact ⟨environment, by rw [hafter, hassign]⟩

theorem Config.loadDotenv_world (project : Path) (world : World) :
    ∃ environment, (loadDotenv project world).2 = { world with environment } := by
  have hload : ∀ path, ∃ environment, (Dotenv.load path world).2 = { world with environment } := by
    intro path
    unfold Dotenv.load
    split
    · -- the file cannot be read
      exact ⟨world.environment, rfl⟩
    · -- the lines are carried out
      exact Dotenv.loadLines_world _ _ _ _
  unfold loadDotenv
  dsimp only
  split
  · -- what the load ends with makes no difference to the world
    obtain ⟨environment, hafter⟩ := hload (project.join (.ofString ".env"))
    refine ⟨environment, ?_⟩
    split
    · next hloaded => rw [← hafter, hloaded]
    · next hloaded => rw [← hafter, hloaded]
  · -- there is no file
    exact ⟨world.environment, rfl⟩

/-- Finding the project and loading its configuration sets variables, and nothing else. -/
theorem GlobalOptions.begin_world (globals : GlobalOptions) (overrides : Overrides)
    (world : World) :
    ∃ environment, (globals.begin overrides world).2 = { world with environment } := by
  have hload : ∀ project, ∃ environment,
      (globals.loadConfig project overrides world).2 = { world with environment } := by
    intro project
    obtain ⟨environment, hdotenv⟩ := Config.loadDotenv_world project world
    refine ⟨environment, ?_⟩
    -- only the dotenv file matters: the layers are read, and no world comes out of them
    rw [← hdotenv]
    unfold GlobalOptions.loadConfig
    split
    · next hloaded =>
      -- the dotenv file cannot be loaded
      rw [hloaded]
    · next hloaded =>
      rw [hloaded]
      split
      · -- a layer cannot be read
        rfl
      · split <;> rfl
  unfold GlobalOptions.begin
  split
  · -- there is no project directory
    exact ⟨world.environment, rfl⟩
  · next project _ =>
    obtain ⟨environment, hafter⟩ := hload project
    refine ⟨environment, ?_⟩
    split
    · next hloaded =>
      -- the configuration cannot be loaded
      rw [← hafter, hloaded]
    · next hloaded =>
      -- the configuration is loaded
      rw [← hafter, hloaded]

/-! ### Building -/

/-- **A configuration is ready** in a world: it makes a request and names a plugin, the search path
is there, and every package that is asked for is compiled. -/
def Config.Ready (config : Config) (world : World) : Prop :=
  ∃ request command suppliers,
    config.buildRequest = .ok (request, command) ∧
    Supplier.resolve world config.resources config.classpathChain = .ok suppliers ∧
    ∀ package ∈ request.packages, ∃ source,
      (({ suppliers } : SourceLookup).withExtension config.generation.extension).compile world
        package = .ok source

/-- The request of a configuration is for its own directories. -/
theorem Config.buildRequest_eq_ok {config : Config} {request : BuildRequest}
    {command : PluginCommand} (h : config.buildRequest = .ok (request, command)) :
    request.output = config.output ∧ request.resources = config.resources := by
  unfold Config.buildRequest at h
  split at h
  · -- there are no names for the packages
    cases h
  · split at h
    · -- the request cannot be made
      cases h
    · next made hmade =>
      split at h
      · -- there is no plugin to start
        cases h
      · cases h
        unfold BuildRequest.make? at hmade
        split at hmade
        · -- a request without packages is not made
          cases hmade
        · -- the request is made of these directories
          cases hmade
          exact ⟨rfl, rfl⟩

section Build

variable {behaviour : Behaviour} {config : Config} {request : BuildRequest}
  {command : PluginCommand} {site : Site RootSet}

/-- Compiling leaves the site as it is. -/
theorem pluginCollaborators_compile_still {extension : String} {lookup : SourceLookup}
    {package : PackageName} {result : Except Cause SchemaSource} {after : Site RootSet}
    (h : (pluginCollaborators behaviour command extension).compile lookup package site
      = (result, after)) : after = site :=
  (Prod.mk.inj h).2.symm

/-- When all packages are compiled nothing has happened yet, and the configuration is ready. -/
theorem ready_of_compiled (hrequest : config.buildRequest = .ok (request, command))
    {suppliers : List Supplier} {schemas : List (CompiledSchema SchemaSource)}
    {compiled : Site RootSet}
    (h : request.Compiled config.classpathChain
      (pluginCollaborators behaviour command config.generation.extension) site suppliers schemas
      compiled) :
    compiled = site ∧ config.Ready site.world := by
  obtain ⟨-, hresources⟩ := Config.buildRequest_eq_ok hrequest
  obtain ⟨rfl, hall⟩ := h.compiles.forall_of_still fun _ _ _ => pluginCollaborators_compile_still
  refine ⟨rfl, request, command, suppliers, hrequest, ?_, ?_⟩
  · -- the suppliers are those of the configuration
    rw [← hresources]
    exact h.resolved
  · -- each package has been found
    intro package hmem
    rw [h.packages] at hmem
    obtain ⟨item, hitem, rfl⟩ := List.mem_map.mp hmem
    exact ⟨item.schema, (Prod.mk.inj (hall item hitem)).1⟩

/-- Calls of the generator only run programs. -/
theorem generates_ran {compiler : SourceLookup} {schemas : List (CompiledSchema SchemaSource)}
    {extension : String} {before after : Site RootSet}
    (h : InTurn (Generates fun schema =>
      (pluginCollaborators behaviour command extension).generate compiler request.options schema
        request.output) schemas before after) :
    ∃ invocations, before.world.Ran behaviour invocations after.world :=
  h.ran fun _ _ _ hgenerates => pluginCollaborators_generate_ran hgenerates

/-- What a build is allowed to have done to a world, if the configuration is ready there: it has made
directories, and then it has run programs. -/
def Config.Effect (config : Config) (behaviour : Behaviour) (before after : World) : Prop :=
  config.Ready before ∧ ∃ made invocations,
    before.files.Adds made before.here (config.output :: config.output.parents) ∧
    ({ before with files := made } : World).Ran behaviour invocations after

/-- Making the output directory and then running programs is what a build is allowed to do. -/
theorem effect_of_ensureDirectory (hrequest : config.buildRequest = .ok (request, command))
    {suppliers : List Supplier} {schemas : List (CompiledSchema SchemaSource)}
    {compiled prepared : Site RootSet} {result : Except BuildError Unit} {after : World}
    {invocations : List Invocation}
    (hcompiled : request.Compiled config.classpathChain
      (pluginCollaborators behaviour command config.generation.extension) site suppliers schemas
      compiled)
    (hensure : ensureDirectory request.output compiled = (result, prepared))
    (hran : prepared.world.Ran behaviour invocations after) :
    config.Effect behaviour site.world after := by
  obtain ⟨rfl, hready⟩ := ready_of_compiled hrequest hcompiled
  obtain ⟨houtput, -⟩ := Config.buildRequest_eq_ok hrequest
  obtain ⟨hadds, hprepared⟩ := ensureDirectory_adds hensure
  rw [hprepared] at hran
  rw [houtput] at hadds
  exact ⟨hready, prepared.world.files, invocations, hadds, hran⟩

/-- **What a course of a build does to the world**: nothing, or what it is allowed to do. -/
theorem BuildRequest.Course.effect (hrequest : config.buildRequest = .ok (request, command))
    {result : Except BuildError BuildReport} {calls : List (Call SchemaSource)}
    {after : Site RootSet}
    (h : request.Course config.classpathChain
      (pluginCollaborators behaviour command config.generation.extension) site result calls after) :
    after.world = site.world ∨ config.Effect behaviour site.world after.world := by
  cases h with
  | unresolved _ =>
    -- nothing was asked of anybody
    exact .inl rfl
  | uncompiled _ _ compiles fails =>
    -- compilers leave the world as it is
    obtain ⟨rfl, -⟩ := compiles.forall_of_still fun _ _ _ => pluginCollaborators_compile_still
    obtain rfl := pluginCollaborators_compile_still fails
    exact .inl rfl
  | unmade compiles ensures =>
    -- directories were added, and no program was started
    exact .inr (effect_of_ensureDirectory hrequest compiles ensures (.refl _ behaviour))
  | unregistered _ _ registers =>
    -- the registry of roots never fails
    cases registers
  | ungenerated compiles ensures registers generates fails =>
    cases registers
    -- the calls that succeed, and then the one that fails
    obtain ⟨done, hdone⟩ := generates_ran generates
    obtain ⟨last, hlast⟩ := pluginCollaborators_generate_ran fails
    exact .inr (effect_of_ensureDirectory hrequest compiles ensures (hdone.trans hlast))
  | finished compiles ensures registers generates =>
    -- all calls succeeded
    cases registers
    obtain ⟨done, hdone⟩ := generates_ran generates
    exact .inr (effect_of_ensureDirectory hrequest compiles ensures hdone)

/-- **What a build does to the world**: nothing, or what it is allowed to do. -/
theorem Config.build_effect (config : Config) (behaviour : Behaviour) (world : World) :
    (config.build behaviour world).2 = world ∨
      config.Effect behaviour world (config.build behaviour world).2 := by
  unfold Config.build
  split
  · -- no request is made
    exact .inl rfl
  · next request command hrequest =>
    dsimp only
    split <;>
    · next hrun =>
      obtain ⟨_, hcourse⟩ := BuildRequest.exists_course hrun
      exact hcourse.effect hrequest

end Build

/-! ### The program -/

namespace Program

/-- **A run is ready** to generate into an output directory: the command line asks for that, the
configuration is loaded and has this output directory, and it is ready in the world as it is then. -/
def Ready (arguments : List Bytes) (world : World) (output : Path) : Prop :=
  ∃ line options project config loaded,
    CommandLine.parse arguments = .ok line ∧ line.command = .generate options ∧
    line.globals.begin line.command.overrides world = (.ok (project, config), loaded) ∧
    config.Ready loaded ∧ config.output = output

/-- **What a run does to a world**: it makes directories, which gives the file system `made`, and
after that it runs programs. -/
structure Frame (behaviour : Behaviour) (arguments : List Bytes) (before after : World)
    (made : FileSystem) (invocations : List Invocation) : Prop where
  /-- Before the first program is started nothing is changed, replaced or removed, and what is new is
  a directory. -/
  grows : before.files.Grows made
  /-- What changes beside that is changed by the programs. -/
  files : after.files = behaviour.replay made invocations
  started : after.started = before.started ++ invocations
  /-- Every new directory is named by a prefix of the output directory. -/
  named : ∀ {location kind}, before.files.kind? location = none →
    made.kind? location = some kind → ∃ output path, Ready arguments before output ∧
      path.components <+: output.components ∧
      made.locate before.here path = .ok (.located location)
  /-- Nothing is made and nothing is started by a run that is not ready. -/
  unready : (∀ output, ¬ Ready arguments before output) → made = before.files ∧ invocations = []

namespace Frame

variable {behaviour : Behaviour} {arguments : List Bytes} {before after : World}

/-- A run that makes no directory and starts no program. -/
theorem of_unchanged (hfiles : after.files = before.files)
    (hstarted : after.started = before.started) :
    Frame behaviour arguments before after before.files [] where
  grows := .refl before.files
  files := hfiles
  started := by rw [hstarted, List.append_nil]
  named hnone hsome := by rw [hnone] at hsome; cases hsome
  unready _ := ⟨rfl, rfl⟩

/-- A run that is ready and does what its configuration allows. -/
theorem of_effect {line : CommandLine} {options : GenerateOptions} {project : Path}
    {config : Config} {environment : Environment}
    (hparse : CommandLine.parse arguments = .ok line) (hcommand : line.command = .generate options)
    (hbegin : line.globals.begin line.command.overrides before
      = (.ok (project, config), { before with environment }))
    (h : config.Effect behaviour { before with environment } after) :
    ∃ made invocations, Frame behaviour arguments before after made invocations := by
  obtain ⟨hready, made, invocations, hadds, hran⟩ := h
  -- loading sets variables only, so the run is ready from where it began
  have hrun : Ready arguments before config.output :=
    ⟨line, options, project, config, _, hparse, hcommand, hbegin, hready, rfl⟩
  refine ⟨made, invocations, hadds.grows, hran.files, hran.started, ?_, ?_⟩
  · intro location kind hnone hsome
    obtain ⟨path, hmem, hlocate⟩ := hadds.named hnone hsome
    have hprefix := FileSystem.components_prefix_of_mem_chain hmem
    exact ⟨config.output, path, hrun, hprefix, hlocate⟩
  · intro hunready
    exact absurd hrun (hunready _)

end Frame

/-- What a command line does to a world. -/
theorem line_frame {arguments : List Bytes} {line : CommandLine}
    (hparse : CommandLine.parse arguments = .ok line) (behaviour : Behaviour) (world : World) :
    ∃ made invocations,
      Frame behaviour arguments world (line.run behaviour world).2 made invocations := by
  obtain ⟨environment, hloaded⟩ := line.globals.begin_world line.command.overrides world
  -- loading the configuration sets variables: neither files nor processes
  have hunchanged : Frame behaviour arguments world { world with environment } world.files [] :=
    .of_unchanged rfl rfl
  cases hbegin : line.globals.begin line.command.overrides world with
  | mk result loaded =>
    rw [hbegin] at hloaded
    obtain rfl : loaded = { world with environment } := hloaded
    unfold CommandLine.run
    rw [hbegin]
    cases result with
    | error cause => exact ⟨_, _, hunchanged⟩
    | ok found =>
      obtain ⟨project, config⟩ := found
      dsimp only
      cases hcommand : line.command with
      | suppliers options =>
        -- the search path is only looked at
        have hlook : ((Command.suppliers options).runWith behaviour config
            { world with environment }).2 = { world with environment } := by
          unfold Command.runWith
          dsimp only
          split <;> rfl
        rw [hlook]
        exact ⟨_, _, hunchanged⟩
      | generate options =>
        -- the report that is printed does not touch the world
        have hbuild : ((Command.generate options).runWith behaviour config
            { world with environment }).2
              = (config.build behaviour { world with environment }).2 := by
          unfold Command.runWith
          dsimp only
          split <;>
          · next hbuilt => rw [hbuilt]
        rw [hbuild]
        obtain hsame | heffect := config.build_effect behaviour { world with environment }
        · rw [hsame]
          exact ⟨_, _, hunchanged⟩
        · exact Frame.of_effect hparse hcommand hbegin heffect

/-- **Every run keeps to its frame**, whatever the arguments, the world, and the programs that it
starts: apart from what these do, the files afterwards are the ones before and new directories, which
are named by prefixes of the output directory; and there is nothing new, and no program is started,
unless the configuration is valid, the search path is found and every package is compiled. The
command that shows the search path is never ready, so it makes nothing and starts nothing. -/
theorem run_frame (behaviour : Behaviour) (arguments : List Bytes) (world : World) :
    (∃ made invocations, Frame behaviour arguments world (run behaviour arguments world).2 made
      invocations) ∧
    ∀ line options, CommandLine.parse arguments = .ok line → line.command = .suppliers options →
      (run behaviour arguments world).2.files = world.files ∧
      (run behaviour arguments world).2.started = world.started := by
  have hframe : ∃ made invocations,
      Frame behaviour arguments world (run behaviour arguments world).2 made invocations := by
    unfold run
    split
    · exact ⟨_, _, Frame.of_unchanged rfl rfl⟩
    · next line hparse =>
      obtain ⟨made, invocations, hline⟩ := line_frame hparse behaviour world
      refine ⟨made, invocations, ?_⟩
      split <;>
      · next hran => rwa [hran] at hline
  refine ⟨hframe, ?_⟩
  intro line options hparse hcommand
  obtain ⟨made, invocations, hframe⟩ := hframe
  -- another command than generating is asked for, so the run is not ready
  have hunready : ∀ output, ¬ Ready arguments world output := by
    rintro output ⟨other, _, _, _, _, hother, hgenerate, -⟩
    rw [hparse] at hother
    cases hother
    rw [hcommand] at hgenerate
    cases hgenerate
  obtain ⟨rfl, rfl⟩ := hframe.unready hunready
  exact ⟨hframe.files, by rw [hframe.started, List.append_nil]⟩

end Program

end SchemaBuild
