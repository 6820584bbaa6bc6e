import SchemaBuild.Proofs.Build.Programs
import SchemaBuild.Proofs.CommandLine.Frame
import SchemaBuild.Proofs.CommandLine.Runs
import SchemaBuild.Proofs.Config.Elsewhere
import SchemaBuild.Proofs.Resolution.Placed

/-!
# The search path and the working directory

The search path that is shown depends on the project. If the project and the home directory are known by
absolute paths, the working directory comes in by the classpath variable only, whose entries stay as they
are.

* `GlobalOptions.begin_movedTo` — the same configuration from everywhere;
* `Program.shown_of_suppliers` — what is shown from a working directory: the suppliers that are placed in
  the project, and those of the variable, as they are found from there;
* `Program.suppliers_movedTo` — so it is the same from everywhere exactly if the entries of the variable
  lead to the same suppliers;
* `Program.suppliers_drift` — a relative entry, which is another supplier for each working directory.
-/

namespace SchemaBuild

/-! ### Beginning -/

namespace GlobalOptions

variable {globals : GlobalOptions} {world : World}

theorem projectRoot_movedTo {root : Path} (hproject : globals.project = some root)
    (hroot : root.isAbsolute = true) (world : World) (place : Place) :
    globals.projectRoot (world.movedTo place) = globals.projectRoot world := by
  unfold projectRoot
  rw [hproject]
  dsimp only
  rw [World.isDirectory_movedTo world place hroot]
  unfold projectRoot.absoluteRoot
  rw [World.absolute?_movedTo world place hroot]

theorem eq_absolute_of_projectRoot {root project : Path} (hproject : globals.project = some root)
    (h : globals.projectRoot world = .ok project) : project = world.absolute root := by
  unfold projectRoot at h
  rw [hproject] at h
  dsimp only at h
  split at h
  · -- the directory is there, and its form is the root
    unfold projectRoot.absoluteRoot at h
    split at h
    · cases h
    · next found hfound =>
      cases h
      rw [World.absolute, hfound]
  · -- the directory is missing, or no directory at all
    cases h

/-- Only the dotenv file has an effect on the world. -/
theorem loadConfig_world (globals : GlobalOptions) (project : Path) (overrides : Overrides)
    (world : World) :
    (globals.loadConfig project overrides world).2 = (Config.loadDotenv project world).2 := by
  unfold loadConfig
  split
  · next h =>
    -- the dotenv file cannot be loaded
    rw [h]
  · next h =>
    rw [h]
    split
    · rfl
    · split <;> rfl

theorem begin_world_of_projectRoot {project : Path} (h : globals.projectRoot world = .ok project)
    (overrides : Overrides) :
    (globals.begin overrides world).2 = (Config.loadDotenv project world).2 := by
  rw [begin, h, ← loadConfig_world globals project overrides world]
  dsimp only
  split <;> (next hloaded => rw [hloaded])

/-- Variables that are text are still the same when the configuration is loaded. -/
theorem begin_keeps {name value : Bytes} (htext : value.IsText)
    (h : world.environment.get? name = some value) (overrides : Overrides) :
    (globals.begin overrides world).2.environment.get? name = some value := by
  cases hfound : globals.projectRoot world with
  | error cause =>
    -- the run ends before the dotenv file is loaded
    rwa [begin, hfound]
  | ok project =>
    rw [begin_world_of_projectRoot hfound]
    exact Config.loadDotenv_keeps htext h

/-- **The configuration of a project** that is known by an absolute path is the same from everywhere. -/
theorem loadConfig_movedTo (globals : GlobalOptions) (overrides : Overrides) {project : Path}
    (h : project.isAbsolute = true)
    (hhome : (Config.loadDotenv project world).2.environment.HasHome) (place : Place) :
    (globals.loadConfig project overrides (world.movedTo place)).1.toOption
        = (globals.loadConfig project overrides world).1.toOption ∧
      (globals.loadConfig project overrides (world.movedTo place)).2
        = (globals.loadConfig project overrides world).2.movedTo place := by
  unfold loadConfig
  rw [Config.loadDotenv_movedTo h]
  cases hdotenv : Config.loadDotenv project world with
  | mk result loaded =>
    rw [hdotenv] at hhome
    cases result with
    | error error =>
      -- the dotenv file cannot be loaded from anywhere
      exact ⟨rfl, rfl⟩
    | ok done =>
      dsimp only
      -- a failure may be told in other words, since sources are in it; a configuration is the same
      obtain ⟨error, hthere, hhere⟩ | ⟨found, other, hthere, hhere, hsame⟩ :=
        cases_of_map_eq (Config.layers_movedTo h hhome place globals.config)
      · -- the layers cannot be read from anywhere
        rw [hthere, hhere]
        exact ⟨rfl, rfl⟩
      · rw [hthere, hhere]
        dsimp only
        have hlayers : (found ++ overrides.layers).map Layer.unsourced
            = (other ++ overrides.layers).map Layer.unsourced := by
          rw [List.map_append, List.map_append, hsame]
        obtain ⟨_, _, hfirst, hsecond⟩ | ⟨config, hfirst, hsecond⟩ :=
          cases_of_toOption_eq (Layer.toConfig_congr hlayers)
        · -- the layers make no configuration
          rw [hfirst, hsecond]
          exact ⟨rfl, rfl⟩
        · -- the layers make the same configuration
          rw [hfirst, hsecond]
          exact ⟨rfl, rfl⟩

/-- So a run in such a project begins alike from everywhere. -/
theorem begin_movedTo {root : Path} (hproject : globals.project = some root)
    (hroot : root.isAbsolute = true) {overrides : Overrides}
    (hhome : (globals.begin overrides world).2.environment.HasHome) (place : Place) :
    (globals.begin overrides (world.movedTo place)).1.toOption
        = (globals.begin overrides world).1.toOption ∧
      (globals.begin overrides (world.movedTo place)).2
        = (globals.begin overrides world).2.movedTo place := by
  cases hfound : globals.projectRoot world with
  | error cause =>
    -- there is no project directory, wherever the run is started
    unfold begin
    rw [projectRoot_movedTo hproject hroot, hfound]
    exact ⟨rfl, rfl⟩
  | ok project =>
    rw [begin_world_of_projectRoot hfound] at hhome
    obtain ⟨hconfig, hloaded⟩ := loadConfig_movedTo globals overrides
      (isAbsolute_projectRoot hfound) hhome place
    unfold begin
    rw [projectRoot_movedTo hproject hroot, hfound]
    dsimp only
    -- both facts are about the two pairs that are taken apart here
    revert hconfig hloaded
    cases globals.loadConfig project overrides (world.movedTo place) with
    | mk there after =>
      cases globals.loadConfig project overrides world with
      | mk here loaded =>
        intro hconfig hloaded
        obtain rfl : after = loaded.movedTo place := hloaded
        obtain ⟨_, _, rfl, rfl⟩ | ⟨config, rfl, rfl⟩ := cases_of_toOption_eq hconfig
        · -- both fail
          exact ⟨rfl, rfl⟩
        · -- both begin with the same configuration
          exact ⟨rfl, rfl⟩

/-- What the classpath variable holds once the configuration is loaded: nothing if there is no
configuration, no variable in it, or no text in the variable. -/
def variableEntries (globals : GlobalOptions) (overrides : Overrides) (world : World) : List Path :=
  match globals.begun? overrides world with
  | some (config, loaded) => (config.variableEntries loaded).toOption.getD []
  | none => []

theorem variableEntries_of_begin {overrides : Overrides} {loaded : World} {read : Config}
    {project : Path} {said : List Path}
    (hbegin : globals.begin overrides world = (.ok (project, read.resolvePaths project), loaded))
    (hsaid : read.variableEntries loaded = .ok said) :
    globals.variableEntries overrides world = said := by
  rw [variableEntries, begun?, hbegin]
  show ((read.resolvePaths project).variableEntries loaded).toOption.getD [] = said
  rw [show (read.resolvePaths project).variableEntries loaded = .ok said from hsaid]
  rfl

end GlobalOptions

/-! ### What is shown -/

namespace Program

variable {behaviour : Behaviour} {world : World} {arguments : List Bytes} {globals : GlobalOptions}
  {options : SourceOptions} {root : Path}

/-- What a run shows that begins alike and finds the same search path is the same. -/
theorem run_suppliers_congr {there : World} (hparse : CommandLine.parse arguments
      = .ok ⟨.suppliers options, globals⟩)
    (hbegin : (globals.begin options.overrides there).1.toOption
      = (globals.begin options.overrides world).1.toOption)
    (hresolve : ∀ project config,
      (globals.begin options.overrides world).1 = .ok (project, config) →
        Supplier.resolve (globals.begin options.overrides there).2 config.resources
            config.classpathChain
          = Supplier.resolve (globals.begin options.overrides world).2 config.resources
            config.classpathChain) :
    (run behaviour arguments there).1.exitCode = (run behaviour arguments world).1.exitCode ∧
      (run behaviour arguments there).1.output = (run behaviour arguments world).1.output := by
  unfold run
  rw [hparse]
  dsimp only
  unfold CommandLine.run
  dsimp only [Command.overrides]
  revert hbegin hresolve
  cases globals.begin options.overrides there with
  | mk first after =>
    cases globals.begin options.overrides world with
    | mk second loaded =>
      intro hbegin hresolve
      obtain ⟨_, _, rfl, rfl⟩ | ⟨⟨project, config⟩, rfl, rfl⟩ := cases_of_toOption_eq hbegin
      · -- both fail before the command is run
        exact ⟨rfl, rfl⟩
      · unfold Command.runWith
        dsimp only at hresolve ⊢
        rw [hresolve project config rfl]
        cases Supplier.resolve loaded config.resources config.classpathChain with
        | error error =>
          -- the suppliers are not found
          exact ⟨rfl, rfl⟩
        | ok found =>
          dsimp only
          cases shown (Supplier.listToJson found) <;> exact ⟨rfl, rfl⟩

section

variable (hparse : CommandLine.parse arguments = .ok ⟨.suppliers options, globals⟩)
  (hproject : globals.project = some root) (hroot : root.isAbsolute = true)
  (hhome : (globals.begin options.overrides world).2.environment.HasHome) (place : Place)

include hparse hproject hroot hhome

/-- A run that succeeds there has a configuration here. -/
theorem exists_read_of_suppliers
    (h : (run behaviour arguments (world.movedTo place)).1.exitCode = 0) :
    ∃ read : Config, (globals.begin options.overrides world).1
      = .ok (world.absolute root, read.resolvePaths (world.absolute root)) := by
  obtain ⟨project, config, after, _, _, hthere, -⟩ := run_suppliers_ok hparse h
  obtain ⟨hsame, -⟩ := GlobalOptions.begin_movedTo hproject hroot hhome place
  rw [hthere] at hsame
  obtain ⟨_, _, ⟨⟩, -⟩ | ⟨_, ⟨⟩, hbegin⟩ := cases_of_toOption_eq hsame
  obtain ⟨layers, read, hbegan, rfl⟩ := GlobalOptions.begin_eq_ok_iff.mp (Prod.ext hbegin rfl)
  obtain rfl := GlobalOptions.eq_absolute_of_projectRoot hproject hbegan.found
  exact ⟨read, hbegin⟩

/-- **From everywhere the same project**: the suppliers that are placed do not depend on where the run
was started, and the list that is shown is these and those of the variable, as they are found from
there. -/
theorem shown_of_suppliers {project : Path} {read : Config}
    (hread : (globals.begin options.overrides world).1 = .ok (project, read.resolvePaths project))
    (h : (run behaviour arguments (world.movedTo place)).1.exitCode = 0) :
    ∃ (placed : List Supplier) (json : Json), read.placedSuppliers project world = .ok placed ∧
      Supplier.listToJson (placed ++ (globals.variableEntries options.overrides world).filterMap
        (Supplier.ofPath? (world.movedTo place))) = .ok json ∧
      (run behaviour arguments (world.movedTo place)).1.Shows json := by
  obtain ⟨project', config, after, found, json, hthere, hfound, hjson, hshows⟩ :=
    run_suppliers_ok hparse h
  obtain ⟨hsame, hloaded⟩ := GlobalOptions.begin_movedTo hproject hroot hhome place
  rw [hthere] at hsame hloaded
  rw [hread] at hsame
  obtain ⟨rfl, rfl⟩ := Prod.mk.inj (Option.some.inj hsame)
  obtain ⟨environment, hworld⟩ := globals.begin_world options.overrides world
  obtain rfl : after = World.movedTo { world with environment } place := by
    rw [← hworld]
    exact hloaded
  have hbegin : globals.begin options.overrides world
      = (.ok (project', read.resolvePaths project'), { world with environment }) :=
    Prod.ext hread hworld
  obtain ⟨layers, _, hbegan, -⟩ := GlobalOptions.begin_eq_ok_iff.mp hbegin
  obtain ⟨placed, said, hplaced, hsaid, rfl⟩ := Config.resolve_eq_ok_iff.mp hfound
  rw [Config.placedSuppliers_movedTo (GlobalOptions.isAbsolute_projectRoot hbegan.found)] at hplaced
  refine ⟨placed, json, hplaced, ?_, hshows⟩
  -- the dotenv file has an effect on variables only, and not on what is found
  rw [GlobalOptions.variableEntries_of_begin hbegin hsaid]
  exact hjson

/-- If the variable holds absolute paths only, all places are alike. -/
theorem suppliers_alike
    (hsaid : ∀ entry ∈ globals.variableEntries options.overrides world, entry.isAbsolute = true) :
    (run behaviour arguments (world.movedTo place)).1.exitCode
        = (run behaviour arguments world).1.exitCode ∧
      (run behaviour arguments (world.movedTo place)).1.output
        = (run behaviour arguments world).1.output := by
  obtain ⟨hsame, hloaded⟩ := GlobalOptions.begin_movedTo hproject hroot hhome place
  refine run_suppliers_congr hparse hsame fun project config hconfig => ?_
  rw [hloaded]
  have hbegin : globals.begin options.overrides world
      = (.ok (project, config), (globals.begin options.overrides world).2) := Prod.ext hconfig rfl
  obtain ⟨layers, read, hbegan, rfl⟩ := GlobalOptions.begin_eq_ok_iff.mp hbegin
  refine Config.resolve_movedTo (GlobalOptions.isAbsolute_projectRoot hbegan.found) place ?_
  intro found hfound
  rwa [← GlobalOptions.variableEntries_of_begin hbegin hfound]

/-- In any case, places are alike where the entries of the variable are found to be the same suppliers. -/
theorem suppliers_output_eq_iff (hhere : (run behaviour arguments world).1.exitCode = 0)
    (hthere : (run behaviour arguments (world.movedTo place)).1.exitCode = 0) :
    (run behaviour arguments (world.movedTo place)).1.output
        = (run behaviour arguments world).1.output ↔
      (globals.variableEntries options.overrides world).filterMap
          (Supplier.ofPath? (world.movedTo place))
        = (globals.variableEntries options.overrides world).filterMap (Supplier.ofPath? world) := by
  obtain ⟨read, hread⟩ := exists_read_of_suppliers hparse hproject hroot hhome place hthere
  obtain ⟨placed, json, hplaced, hjson, hshows⟩ :=
    shown_of_suppliers hparse hproject hroot hhome place hread hthere
  -- the world is already in one of the places
  obtain ⟨placed', json', hplaced', hjson', hshows'⟩ :=
    shown_of_suppliers hparse hproject hroot hhome world.here hread hhere
  obtain rfl : placed = placed' := Except.ok.inj (hplaced.symm.trans hplaced')
  calc _ ↔ json = json' := hshows.output_eq_iff hshows'
    _ ↔ _ := Supplier.listToJson_same_iff hjson hjson'
    _ ↔ _ := List.append_right_inj placed

end

/-- **The search path depends on the project**, and on the working directory only by relative entries of
the classpath variable. Let the project be given by an absolute path, the home directory have one, and
the home directory be text or the project's dotenv file leave it with an absolute path. Then, wherever
the run is started:

* if all entries of the variable are absolute, it succeeds and fails alike, and shows the same;
* if it succeeds here and there, it shows the same exactly if the entries of the variable are found to be
  the same suppliers;
* it shows the suppliers that are placed in the project, where relative paths are meant from the project
  directory and from the directory of the listing file, and behind them those of the variable. -/
theorem suppliers_movedTo {home : Path}
    (hparse : CommandLine.parse arguments = .ok ⟨.suppliers options, globals⟩)
    (hproject : globals.project = some root) (hroot : root.isAbsolute = true)
    (hhome : world.environment.get? (.ofString "HOME") = some home.bytes)
    (habsolute : home.isAbsolute = true)
    (hkept : home.IsText ∨ (globals.begin options.overrides world).2.environment.HasHome)
    (place : Place) :
    let said := globals.variableEntries options.overrides world
    let here := (run behaviour arguments world).1
    let there := (run behaviour arguments (world.movedTo place)).1
    ((∀ entry ∈ said, entry.isAbsolute = true) →
        there.exitCode = here.exitCode ∧ there.output = here.output) ∧
      (here.exitCode = 0 → there.exitCode = 0 →
        (there.output = here.output ↔
          said.filterMap (Supplier.ofPath? (world.movedTo place))
            = said.filterMap (Supplier.ofPath? world))) ∧
      (there.exitCode = 0 → ∃ (read : Config) (placed : List Supplier) (json : Json),
        (globals.begin options.overrides world).1
            = .ok (world.absolute root, read.resolvePaths (world.absolute root)) ∧
          read.placedSuppliers (world.absolute root) world = .ok placed ∧
          Supplier.listToJson (placed ++ said.filterMap (Supplier.ofPath? (world.movedTo place)))
            = .ok json ∧
          there.Shows json) := by
  intro said here there
  have hbegun : (globals.begin options.overrides world).2.environment.HasHome := by
    -- a text stays in the environment, whatever the dotenv file says about its variable
    obtain htext | hkept := hkept
    · exact ⟨home, GlobalOptions.begin_keeps htext hhome _, habsolute⟩
    · exact hkept
  refine ⟨suppliers_alike hparse hproject hroot hbegun place,
    suppliers_output_eq_iff hparse hproject hroot hbegun place, ?_⟩
  intro hthere
  obtain ⟨read, hread⟩ := exists_read_of_suppliers hparse hproject hroot hbegun place hthere
  obtain ⟨placed, json, hplaced, hjson, hshows⟩ :=
    shown_of_suppliers hparse hproject hroot hbegun place hread hthere
  exact ⟨read, placed, json, hread, hplaced, hjson, hshows⟩

end Program

/-! ### A project with two folders -/

/-- A project with two folders, and a variable that is a classpath. -/
def driftingWorld (list : String) : World where
  files := ⟨[(Bytes.ofString "home", .directory []),
    (Bytes.ofString "p", .directory [(Bytes.ofString "deps", .directory []),
      (Bytes.ofString "lib", .directory [])])]⟩
  environment := ⟨[("HOME", "/home"), ("STEMGEN_CLASSPATH__ENV", "CP"), ("CP", list)].map
    fun (name, value) => (Bytes.ofString name, Bytes.ofString value)⟩
  here := .located []
  started := []

/-- A folder as it is shown. -/
def folderItem (path : String) : Json := .object [("kind", .string "folder"), ("path", .string path)]

/-- The variable holds the absolute path of a folder, and the command line the name of the other one:
both are found from the project directory as they are from above. -/
theorem Program.suppliers_movedTo_driftingWorld :
    let arguments := ["--project", "/p", "suppliers", "--classpath", "lib"].map Bytes.ofString
    (run .idle arguments ((driftingWorld "/p/deps").movedTo (.located [Bytes.ofString "p"]))).1.exitCode
        = 0 ∧
      (run .idle arguments ((driftingWorld "/p/deps").movedTo (.located [Bytes.ofString "p"]))).1.output
        = (Json.array [folderItem "/p/lib", folderItem "/p/deps"]).pretty ++ "\n" := by
  intro arguments
  let options : SourceOptions := { classpath := some (Bytes.ofString "lib") }
  let globals : GlobalOptions := { project := some (.ofString "/p") }
  have hparse : CommandLine.parse arguments = .ok ⟨.suppliers options, globals⟩ := by decide +kernel
  have hshown : (run .idle arguments (driftingWorld "/p/deps")).1
      = ⟨0, (Json.array [folderItem "/p/lib", folderItem "/p/deps"]).pretty ++ "\n", none⟩ := by
    decide +kernel
  obtain ⟨hsame, -, -⟩ := @suppliers_movedTo .idle (driftingWorld "/p/deps") arguments globals options
    (.ofString "/p") (.ofString "/home") hparse rfl (by decide) (by decide) (by decide)
    (.inl (Path.isText_ofString _)) (.located [Bytes.ofString "p"])
  obtain ⟨hcode, houtput⟩ := hsame (by decide +kernel)
  rw [hcode, houtput, hshown]
  exact ⟨rfl, rfl⟩

/-- **A relative entry of the variable is taken from the working directory**: above the project nothing
is there, and in the project it is the folder. -/
theorem Program.suppliers_drift :
    let arguments := ["--project", "/p", "suppliers"].map Bytes.ofString
    (driftingWorld "deps").environment.HasHome ∧
      (run .idle arguments (driftingWorld "deps")).1.Shows (.array []) ∧
      (run .idle arguments ((driftingWorld "deps").movedTo (.located [Bytes.ofString "p"]))).1.Shows
        (.array [folderItem "/p/deps"]) := by
  refine ⟨⟨.ofString "/home", by decide, by decide⟩, ?_, ?_⟩
  · show _ = _
    decide +kernel
  · show _ = _
    decide +kernel

end SchemaBuild
