import SchemaBuild.CommandLine.Program
import SchemaBuild.Proofs.FileSystem.Absolute
import SchemaBuild.Proofs.Json.Documents
import SchemaBuild.Proofs.Json.Printed

/-!
# What a run comes to

A run of a command line finds the project, loads its configuration, and then does what its command
does. The lemmas here take a run that succeeds apart into these stages, and say what it shows.

* `ProgramResult.Shows` — success, with one document as the output; there is one such document at most
  (`ProgramResult.Shows.unique`);
* `GlobalOptions.begin_eq_ok_iff` — what it is to have begun: the project, the dotenv file, the layers
  and the configuration that they make;
* `Program.run_suppliers_ok`, `Program.run_generate_ok` — the two commands.
-/

namespace SchemaBuild

/-! ### Documents that are shown -/

namespace ProgramResult

/-- The run has succeeded and shows the document. -/
def Shows (result : ProgramResult) (document : Json) : Prop :=
  result = ⟨0, document.pretty ++ "\n", none⟩

/-- A run shows one document at most. -/
theorem Shows.unique {result : ProgramResult} {first second : Json} (h : result.Shows first)
    (h' : result.Shows second) : first = second := by
  have hresult : (⟨0, first.pretty ++ "\n", none⟩ : ProgramResult) = ⟨0, second.pretty ++ "\n", none⟩ :=
    h.symm.trans h'
  have houtput : first.pretty ++ "\n" = second.pretty ++ "\n" := congrArg (·.output) hresult
  have hchars := congrArg String.toList houtput
  rw [String.toList_append, String.toList_append] at hchars
  exact Json.pretty_injective (String.toList_injective (List.append_cancel_right hchars))

/-- The document that a run shows is the only one. -/
theorem Shows.iff {result : ProgramResult} {shown : Json} (h : result.Shows shown) (document : Json) :
    result.Shows document ↔ document = shown := by
  constructor
  · intro h'
    exact h'.unique h
  · rintro rfl
    exact h

/-- Two runs that show documents have the same output exactly if these are the same. -/
theorem Shows.output_eq_iff {first second : ProgramResult} {one other : Json} (h : first.Shows one)
    (h' : second.Shows other) : first.output = second.output ↔ one = other := by
  constructor
  · -- both show their document in one way, and a document can be told from what is shown
    intro houtput
    have hsame : first = second := by
      rw [h, h'] at houtput ⊢
      exact congrArg (ProgramResult.mk 0 · none) houtput
    rw [← hsame] at h'
    exact h.unique h'
  · -- one document is shown in one way
    rintro rfl
    rw [h, h']

theorem Shows.exitCode {result : ProgramResult} {document : Json} (h : result.Shows document) :
    result.exitCode = 0 := by
  rw [h]

end ProgramResult

/-- What is shown of a document that there is: the document, with a line end behind it. -/
theorem shown_eq_ok_iff {document : Except IoError Json} {output : String} :
    shown document = .ok output ↔ ∃ json, document = .ok json ∧ output = json.pretty ++ "\n" := by
  cases document with
  | error error =>
    -- nothing is shown of a document that cannot be made
    exact ⟨nofun, by rintro ⟨_, ⟨⟩, -⟩⟩
  | ok json =>
    constructor
    · intro h
      exact ⟨json, rfl, (Except.ok.inj h).symm⟩
    · rintro ⟨_, ⟨⟩, rfl⟩
      rfl

/-! ### Beginning -/

/-- The project is found and its configuration loaded: `read` is what the layers say, and `loaded` the
world with the dotenv file in its environment. -/
structure GlobalOptions.Began (globals : GlobalOptions) (overrides : Overrides) (world : World)
    (project : Path) (layers : List Layer) (read : Config) (loaded : World) : Prop where
  found : globals.projectRoot world = .ok project
  dotenv : Config.loadDotenv project world = (.ok (), loaded)
  below : Config.layers loaded project globals.config = .ok layers
  made : Layer.toConfig (layers ++ overrides.layers) = .ok read

/-- **To have begun** is to have found the project and loaded its configuration, in which relative paths
are put behind the project directory. -/
theorem GlobalOptions.begin_eq_ok_iff {globals : GlobalOptions} {overrides : Overrides}
    {world loaded : World} {project : Path} {config : Config} :
    globals.begin overrides world = (.ok (project, config), loaded) ↔
      ∃ layers read, globals.Began overrides world project layers read loaded ∧
        config = read.resolvePaths project := by
  constructor
  · intro h
    -- there is one way through: each of the four steps ends in an error or hands on its result
    unfold GlobalOptions.begin at h
    split at h
    · -- there is no project directory
      cases h
    · next root hroot =>
      split at h
      · -- the configuration cannot be loaded
        cases h
      · next found after hload =>
        cases h
        unfold GlobalOptions.loadConfig at hload
        split at hload
        · -- the dotenv file cannot be loaded
          cases hload
        · next hdotenv =>
          split at hload
          · -- a layer below the command line cannot be read
            cases hload
          · next layers hlayers =>
            split at hload
            · -- a value in the layers does not fit
              cases hload
            · next read hread =>
              cases hload
              exact ⟨layers, read, ⟨hroot, hdotenv, hlayers, hread⟩, rfl⟩
  · -- the four steps lead to that configuration
    rintro ⟨layers, read, hbegan, rfl⟩
    rw [GlobalOptions.begin, hbegan.found]
    simp only [GlobalOptions.loadConfig, hbegan.dotenv, hbegan.below, hbegan.made]

/-- The configuration of a run that has begun, and the world in which it was loaded. -/
def GlobalOptions.begun? (globals : GlobalOptions) (overrides : Overrides) (world : World) :
    Option (Config × World) :=
  match globals.begin overrides world with
  | (.ok (_, config), loaded) => some (config, loaded)
  | (.error _, _) => none

theorem GlobalOptions.exists_of_begun? {globals : GlobalOptions} {overrides : Overrides}
    {world : World} {begun : Config × World} (h : globals.begun? overrides world = some begun) :
    ∃ project, globals.begin overrides world = (.ok (project, begun.1), begun.2) := by
  unfold begun? at h
  split at h
  · next project config loaded hbegin =>
    cases h
    exact ⟨project, hbegin⟩
  · cases h

/-- The project directory is known by an absolute path. -/
theorem GlobalOptions.isAbsolute_projectRoot {globals : GlobalOptions} {world : World}
    {project : Path} (h : globals.projectRoot world = .ok project) : project.isAbsolute = true := by
  -- the directory that was asked for and the working directory are made absolute in one way
  have hroot : ∀ {path root : Path}, projectRoot.absoluteRoot world path = .ok root →
      root.isAbsolute = true := by
    intro path root h
    unfold projectRoot.absoluteRoot at h
    split at h
    · cases h
    · next hroot =>
      cases h
      exact World.isAbsolute_of_absolute? hroot
  unfold projectRoot at h
  split at h
  · -- a directory was asked for, and nothing may stand in for it
    split at h
    · exact hroot h
    · cases h
  · -- no directory was asked for, so it is the working directory
    split at h
    · cases h
    · exact hroot h

/-- So are the directories of a configuration that was loaded. -/
theorem GlobalOptions.isAbsolute_of_begin {globals : GlobalOptions} {overrides : Overrides}
    {world loaded : World} {project : Path} {config : Config}
    (h : globals.begin overrides world = (.ok (project, config), loaded)) :
    config.output.isAbsolute = true ∧ config.resources.isAbsolute = true := by
  obtain ⟨layers, read, hbegan, rfl⟩ := begin_eq_ok_iff.mp h
  have hproject := isAbsolute_projectRoot hbegan.found
  exact ⟨Path.isAbsolute_join hproject, Path.isAbsolute_join hproject⟩

/-! ### The commands -/

variable {behaviour : Behaviour} {world after : World} {output : String}

theorem Command.suppliers_eq_ok_iff {options : SourceOptions} {config : Config} :
    (Command.suppliers options).runWith behaviour config world = (.ok output, after) ↔
      ∃ found json, Supplier.resolve world config.resources config.classpathChain = .ok found ∧
        Supplier.listToJson found = .ok json ∧ output = json.pretty ++ "\n" ∧ after = world := by
  unfold Command.runWith
  dsimp only
  cases Supplier.resolve world config.resources config.classpathChain with
  | error error =>
    -- no list is shown of suppliers that are not found
    exact ⟨nofun, by rintro ⟨_, _, ⟨⟩, -⟩⟩
  | ok found =>
    constructor
    · -- what is shown is the list that was found
      intro h
      obtain ⟨hshown, rfl⟩ := Prod.mk.inj h
      obtain ⟨json, hjson, houtput⟩ := shown_eq_ok_iff.mp hshown
      exact ⟨found, json, rfl, hjson, houtput, rfl⟩
    · -- the list that was found is shown
      rintro ⟨_, json, ⟨⟩, hjson, houtput, rfl⟩
      exact Prod.ext (shown_eq_ok_iff.mpr ⟨json, hjson, houtput⟩) rfl

/-- After a build that succeeded its answer is shown. -/
theorem Command.runWith_of_build_ok {options : GenerateOptions} {config : Config}
    {report : BuildReport} {roots : RootSet}
    (h : config.build behaviour world = (.ok (report, roots), after)) :
    (Command.generate options).runWith behaviour config world
      = (shown (responseJson report roots), after) := by
  unfold Command.runWith
  dsimp only
  rw [h]

/-- After a build that failed the failure is passed on. -/
theorem Command.runWith_of_build_error {options : GenerateOptions} {config : Config} {cause : Cause}
    (h : config.build behaviour world = (.error cause, after)) :
    (Command.generate options).runWith behaviour config world
      = (.error (cause.inContext "error while generating code"), after) := by
  unfold Command.runWith
  dsimp only
  rw [h]

theorem Command.generate_eq_ok_iff {options : GenerateOptions} {config : Config} :
    (Command.generate options).runWith behaviour config world = (.ok output, after) ↔
      ∃ report roots json, config.build behaviour world = (.ok (report, roots), after) ∧
        responseJson report roots = .ok json ∧ output = json.pretty ++ "\n" := by
  cases hbuild : config.build behaviour world with
  | mk result built =>
    cases result with
    | error cause =>
      -- a build that fails shows no report
      rw [runWith_of_build_error hbuild]
      exact ⟨nofun, by rintro ⟨_, _, _, ⟨⟩, -⟩⟩
    | ok made =>
      obtain ⟨report, roots⟩ := made
      rw [runWith_of_build_ok hbuild]
      constructor
      · -- what is shown is the response to the build
        intro h
        obtain ⟨hshown, rfl⟩ := Prod.mk.inj h
        obtain ⟨json, hjson, houtput⟩ := shown_eq_ok_iff.mp hshown
        exact ⟨report, roots, json, rfl, hjson, houtput⟩
      · -- the response to the build is shown
        rintro ⟨_, _, json, ⟨⟩, hjson, houtput⟩
        exact Prod.ext (shown_eq_ok_iff.mpr ⟨json, hjson, houtput⟩) rfl

namespace Program

variable {arguments : List Bytes} {line : CommandLine}

/-- A run that succeeds has begun, and its command has something to show. -/
theorem exists_of_exitCode (hparse : CommandLine.parse arguments = .ok line)
    (h : (run behaviour arguments world).1.exitCode = 0) :
    ∃ project config loaded output after,
      line.globals.begin line.command.overrides world = (.ok (project, config), loaded) ∧
        line.command.runWith behaviour config loaded = (.ok output, after) ∧
        run behaviour arguments world = (⟨0, output, none⟩, after) := by
  unfold run at h ⊢
  rw [hparse] at h ⊢
  dsimp only at h ⊢
  cases hline : line.run behaviour world with
  | mk result after =>
    rw [hline] at h
    cases result with
    | error cause =>
      -- no error ends with that status
      cases h
    | ok output =>
      unfold CommandLine.run at hline
      split at hline
      · -- a run that cannot begin ends in an error
        cases hline
      · next project config loaded hbegin =>
        exact ⟨project, config, loaded, output, after, hbegin, hline, rfl⟩

/-- What a run of a line comes to that begins. -/
theorem run_of_begin {project : Path} {config : Config} {loaded : World}
    (hparse : CommandLine.parse arguments = .ok line)
    (hbegin : line.globals.begin line.command.overrides world = (.ok (project, config), loaded)) :
    run behaviour arguments world =
      match line.command.runWith behaviour config loaded with
      | (.ok output, world) => (⟨0, output, none⟩, world)
      | (.error cause, world) => (⟨1, "", some s!"stemgen error: {cause.line}\n"⟩, world) := by
  rw [run, hparse]
  dsimp only
  rewrite [CommandLine.run, hbegin]
  rfl

variable {globals : GlobalOptions}

/-- **The command that shows the search path**, when it succeeds. -/
theorem run_suppliers_ok {options : SourceOptions}
    (hparse : CommandLine.parse arguments = .ok ⟨.suppliers options, globals⟩)
    (h : (run behaviour arguments world).1.exitCode = 0) :
    ∃ project config loaded found json,
      globals.begin options.overrides world = (.ok (project, config), loaded) ∧
        Supplier.resolve loaded config.resources config.classpathChain = .ok found ∧
        Supplier.listToJson found = .ok json ∧ (run behaviour arguments world).1.Shows json := by
  obtain ⟨project, config, loaded, output, after, hbegin, hcommand, hrun⟩ :=
    exists_of_exitCode hparse h
  obtain ⟨found, json, hfound, hjson, rfl, rfl⟩ := Command.suppliers_eq_ok_iff.mp hcommand
  exact ⟨project, config, _, found, json, hbegin, hfound, hjson, congrArg Prod.fst hrun⟩

/-- **The command that generates**, when it succeeds. -/
theorem run_generate_ok {options : GenerateOptions}
    (hparse : CommandLine.parse arguments = .ok ⟨.generate options, globals⟩)
    (h : (run behaviour arguments world).1.exitCode = 0) :
    ∃ project config loaded report roots after json,
      globals.begin options.overrides world = (.ok (project, config), loaded) ∧
        config.build behaviour loaded = (.ok (report, roots), after) ∧
        responseJson report roots = .ok json ∧ (run behaviour arguments world).1.Shows json ∧
        (run behaviour arguments world).2 = after := by
  obtain ⟨project, config, loaded, output, after, hbegin, hcommand, hrun⟩ :=
    exists_of_exitCode hparse h
  obtain ⟨report, roots, json, hbuild, hjson, rfl⟩ := Command.generate_eq_ok_iff.mp hcommand
  exact ⟨project, config, loaded, report, roots, after, json, hbegin, hbuild, hjson,
    congrArg Prod.fst hrun, congrArg Prod.snd hrun⟩

end Program

/-! ### Builds -/

/-- A build that succeeds has made a request and carried it out. -/
theorem Config.build_eq_ok_iff {config : Config} {report : BuildReport} {roots : RootSet} :
    config.build behaviour world = (.ok (report, roots), after) ↔
      ∃ request command, config.buildRequest = .ok (request, command) ∧
        request.run config.classpathChain
          (pluginCollaborators behaviour command config.generation.extension) ⟨world, .empty⟩
          = (.ok report, ⟨after, roots⟩) := by
  unfold Config.build
  cases config.buildRequest with
  | error cause =>
    -- no request is made, so nothing is built
    exact ⟨nofun, by rintro ⟨_, _, ⟨⟩, -⟩⟩
  | ok made =>
    obtain ⟨request, command⟩ := made
    dsimp only
    constructor
    · -- a build is a run of the request that is made
      intro h
      split at h
      · cases h
      · next hrun =>
        cases h
        exact ⟨request, command, rfl, hrun⟩
    · -- the request that is made is run
      rintro ⟨_, _, ⟨⟩, hrun⟩
      rw [hrun]

end SchemaBuild
