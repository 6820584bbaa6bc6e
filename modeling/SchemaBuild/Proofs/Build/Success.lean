import SchemaBuild.Proofs.Build.Requests
import SchemaBuild.Proofs.Build.Snapshot
import SchemaBuild.Proofs.CommandLine.Frame
import SchemaBuild.Proofs.CommandLine.Runs
import SchemaBuild.Proofs.Config.Packages

/-!
# Builds that succeed

Everything that a build of a configuration has done when it succeeds, from the search path to the last
plugin: `Config.Built`, and `Config.built_of_build` says that it holds after every success. What can be
read off it:

* `Config.Built.isText_output` — the output directory is text, since a plugin was told about it;
* `Config.Built.exists_root` — there is one source root, which is another spelling of it;
* `Config.Built.exists_response` — so only a supplier can be the reason why the answer cannot be
  written.
-/

namespace SchemaBuild

/-! ### The request of a configuration -/

/-- The packages of a configuration have the names that it lists, in its order. -/
theorem Config.packageNames_eq_ok {config : Config} {names : List PackageName}
    (h : config.packageNames = .ok names) : names.map (·.text) = config.packages := by
  unfold packageNames at h
  split at h
  · -- there are no packages
    cases h
  · exact namesOf_eq_ok_iff.mp h

/-- The request of a configuration is for its packages and options, and the command is its plugin. -/
theorem Config.request_of_buildRequest {config : Config} {request : BuildRequest}
    {command : PluginCommand} (h : config.buildRequest = .ok (request, command)) :
    request.packages.map (·.text) = config.packages ∧ request.options = config.generation.options ∧
      PluginCommand.ofWords? config.plugin = .ok command := by
  unfold Config.buildRequest at h
  split at h
  · -- there are no names for the packages
    cases h
  · next names hnames =>
    split at h
    · -- the request cannot be made
      cases h
    · next made hmade =>
      split at h
      · -- the words are no command
        cases h
      · next found hfound =>
        cases h
        unfold BuildRequest.make? at hmade
        split at hmade
        · cases hmade
        · cases hmade
          exact ⟨packageNames_eq_ok hnames, rfl, hfound⟩

/-! ### Success -/

/-- **What a build has done when it succeeds**, in the order in which it was done. `made` are the files
when the first plugin is started, and `sources` the schemas of the packages. -/
structure Config.Built (config : Config) (behaviour : Behaviour) (world : World)
    (report : BuildReport) (roots : RootSet) (after : World) (command : PluginCommand)
    (sources : List SchemaSource) (made : FileSystem) (invocations : List Invocation) : Prop where
  plugin : PluginCommand.ofWords? config.plugin = .ok command
  packages : report.packages.map (·.text) = config.packages
  nonempty : report.packages ≠ []
  /-- The suppliers are those of the world in which the build began. -/
  resolved : Supplier.resolve world config.resources config.classpathChain = .ok report.suppliers
  /-- On them the source of each package was found there. -/
  found : SourceLookup.Snapshot (({ suppliers := report.suppliers } : SourceLookup).withExtension
    config.generation.extension) world report.packages sources
  output : report.output = config.output
  /-- Before the first plugin was started nothing but directories were made, on the way to the output
  directory, -/
  prepared : world.files.Adds made world.here (config.output :: config.output.parents)
  /-- which was there then. -/
  there : ({ world with files := made } : World).has config.output = true
  /-- It was registered, by its absolute path. -/
  registered : roots = ⟨[({ world with files := made } : World).absolute config.output]⟩
  /-- The plugin was started once for each package. -/
  served : command.Served behaviour { world with files := made }
    (sources.map fun source => ⟨source, config.generation.options, config.output⟩) invocations after

/-- **A build that succeeds** into a directory that is known by its absolute path has done all of this. -/
theorem Config.built_of_build {config : Config} {behaviour : Behaviour} {world after : World}
    {report : BuildReport} {roots : RootSet} (habsolute : config.output.isAbsolute = true)
    (h : config.build behaviour world = (.ok (report, roots), after)) :
    ∃ command sources made invocations,
      config.Built behaviour world report roots after command sources made invocations := by
  obtain ⟨request, command, hrequest, hrun⟩ := Config.build_eq_ok_iff.mp h
  have hne := World.isEmpty_of_isAbsolute habsolute
  obtain ⟨houtput, hresources⟩ := Config.buildRequest_eq_ok hrequest
  obtain ⟨hpackages, hoptions, hcommand⟩ := Config.request_of_buildRequest hrequest
  obtain ⟨calls, hcourse⟩ := BuildRequest.exists_course hrun
  cases hcourse with
  | @finished suppliers schemas compiled prepared ready _ compiles ensures registers generates =>
    -- compiling has only looked at the world
    have hsnapshot : SourceLookup.Snapshot ⟨suppliers, String.ofList
        (config.generation.extension.toList.dropWhile (· = '.'))⟩ world request.packages
        (schemas.map (·.schema)) := snapshot_of_compiled compiles
    obtain ⟨rfl, -⟩ := ready_of_compiled hrequest compiles
    -- ensuring makes directories, registering leaves the world alone, and then the plugins run
    obtain ⟨hadds, hprepared⟩ := ensureDirectory_adds ensures
    have hhas := has_of_ensureDirectory (houtput ▸ hne) ensures
    obtain ⟨⟨invocations, hserved⟩, hkept⟩ := PluginCommand.served_of_generates generates
    cases registers
    rw [hprepared] at hhas hserved hkept
    rw [houtput] at hhas hadds
    rw [houtput, hoptions] at hserved
    refine ⟨command, schemas.map (·.schema), prepared.world.files, invocations, ?_⟩
    exact {
      plugin := hcommand
      packages := hpackages
      nonempty := request.nonempty
      resolved := hresources ▸ compiles.resolved
      found := hsnapshot
      output := houtput
      prepared := hadds
      there := hhas
      registered := by
        rw [← houtput]
        exact hkept
      served := by
        rw [List.map_map]
        exact hserved }

namespace Config.Built

variable {config : Config} {behaviour : Behaviour} {world after : World} {report : BuildReport}
  {roots : RootSet} {command : PluginCommand} {sources : List SchemaSource} {made : FileSystem}
  {invocations : List Invocation}

/-- **The output directory is text**: a plugin was told about it. -/
theorem isText_output
    (h : config.Built behaviour world report roots after command sources made invocations) :
    config.output.IsText := by
  -- there is a first package, so there is a first request, and that was written
  have hsources : sources ≠ [] := by
    rintro rfl
    exact h.nonempty (List.forall₂_nil_right_iff.mp h.found)
  obtain ⟨first, rest, rfl⟩ := List.exists_cons_of_ne_nil hsources
  exact h.served.isText_output ⟨first, _, _⟩ List.mem_cons_self

/-- The source root is another spelling of an absolute output directory. -/
theorem exists_root (habsolute : config.output.isAbsolute = true)
    (h : config.Built behaviour world report roots after command sources made invocations) :
    ∃ root, roots = ⟨[root]⟩ ∧ root.Same config.output ∧ root.IsText := by
  have hform : ({ world with files := made } : World).absolute config.output
      = Path.absoluteFrom ⟨[]⟩ config.output := World.absolute_of_isAbsolute _ habsolute
  refine ⟨_, h.registered, ?_, ?_⟩
  · -- the root has the names of the output directory
    rw [hform]
    exact Path.same_absoluteFrom _ habsolute
  · -- the root is written with what the output directory is written with
    rw [hform]
    exact Path.isText_absoluteFrom h.isText_output (.inl habsolute)

/-- **The answer can be written** if all suppliers are text: everything else in it is. -/
theorem exists_response (habsolute : config.output.isAbsolute = true)
    (h : config.Built behaviour world report roots after command sources made invocations)
    (hsuppliers : ∀ supplier ∈ report.suppliers, supplier.path.IsText) :
    ∃ document, responseJson report roots = .ok document := by
  obtain ⟨root, rfl, -, rootText, hroot⟩ := h.exists_root habsolute
  obtain ⟨written, hwritten⟩ := Supplier.exists_listToJson_iff.mpr hsuppliers
  obtain ⟨output, houtput⟩ := Path.toJson_of_isText h.isText_output
  have hroots : (RootSet.mk [root]).toJson = .ok (.array [.string rootText]) :=
    RootSet.toJson_singleton.mpr ⟨rootText, congrArg Path.mk hroot, rfl⟩
  rw [← h.output] at houtput
  exact ⟨_, responseJson_eq_ok_iff.mpr ⟨written, output, _, hwritten, houtput, hroots, rfl⟩⟩

end Config.Built

end SchemaBuild
