import SchemaBuild.CommandLine.Parse
import SchemaBuild.Proofs.Build.Success
import SchemaBuild.Proofs.Config.Said
import SchemaBuild.Proofs.Lookup.Precedence

/-!
# What a successful run has done

A run that generates and succeeds shows a report, and everything in the report is so: the packages are
the ones that were asked for, on the suppliers each of them was found, and the plugin was started once for
each, with the text that was found there.

* `Program.Generated` — all of this;
* `Program.generated_of_exitCode` — it holds after every run that generates and succeeds.

The name of the file that a package is looked for in is the package, a dot, and the extension without
dots at its front; `Program.extension_without_dots` shows that these dots make a difference.
-/

namespace SchemaBuild

/-- The extension of schema sources, without dots at its front. -/
def Config.bareExtension (config : Config) : String :=
  String.ofList (config.generation.extension.toList.dropWhile (· = '.'))

namespace Program

/-- **What a run has done that generates and succeeds**, with its configuration loaded in the world
`loaded`: `before` are the processes that had been started before, `made` the files when the first
plugin was started, and `sources` what was found for the packages. -/
structure Generated (behaviour : Behaviour) (config : Config) (loaded : World)
    (before : List Invocation) (result : ProgramResult) (after : World) (command : PluginCommand)
    (suppliers : List Supplier) (sources : List SchemaSource) (made : FileSystem)
    (invocations : List Invocation) : Prop where
  plugin : PluginCommand.ofWords? config.plugin = .ok command
  /-- The report is shown: the suppliers, the packages in their order and as often as they were asked
  for, the output directory, and another spelling of it as the only source root. -/
  report : ∃ items output root, Supplier.listToJson suppliers = .ok (.array items) ∧
    config.output = .ofString output ∧ (Path.ofString root).Same config.output ∧
    result.Shows (.object [("suppliers", .array items),
      ("packages", .array (config.packages.map .string)), ("output_directory", .string output),
      ("source_roots", .array [.string root])])
  /-- The suppliers are the search path of the world in which the configuration was loaded. -/
  resolved : Supplier.resolve loaded config.resources config.classpathChain = .ok suppliers
  /-- The output directory is an absolute path, -/
  absolute : config.output.isAbsolute = true
  /-- and it was there before the first plugin was started, when nothing had changed but that directories
  on the way to it had been made. -/
  prepared : loaded.files.Adds made loaded.here (config.output :: config.output.parents)
  there : ({ loaded with files := made } : World).has config.output = true
  /-- The source of each package is what the search on the suppliers found, in their order. -/
  found : List.Forall₂ (fun package source => source.package.text = package ∧
    SourceLookup.search loaded (package ++ "." ++ config.bareExtension) suppliers
      = .ok (some (source.origin, source.text))) config.packages sources
  /-- The plugin was started once for each, in their order, with the configured options. -/
  served : command.Served behaviour { loaded with files := made }
    (sources.map fun source => ⟨source, config.generation.options, config.output⟩) invocations after
  /-- Nothing else was started. -/
  started : after.started = before ++ invocations

/-- The answer of a successful build, if it is written. -/
theorem report_of_built {behaviour : Behaviour} {config : Config} {world after : World}
    {report : BuildReport} {roots : RootSet} {command : PluginCommand} {sources : List SchemaSource}
    {made : FileSystem} {invocations : List Invocation} {json : Json}
    (habsolute : config.output.isAbsolute = true)
    (hbuilt : config.Built behaviour world report roots after command sources made invocations)
    (hjson : responseJson report roots = .ok json) :
    ∃ items output root, Supplier.listToJson report.suppliers = .ok (.array items) ∧
      config.output = .ofString output ∧ (Path.ofString root).Same config.output ∧
      json = .object [("suppliers", .array items),
        ("packages", .array (config.packages.map .string)), ("output_directory", .string output),
        ("source_roots", .array [.string root])] := by
  obtain ⟨listed, written, sourceRoots, hlisted, houtput, hroots, rfl⟩ :=
    responseJson_eq_ok_iff.mp hjson
  obtain ⟨items, -, rfl⟩ := Supplier.listToJson_eq_ok_iff.mp hlisted
  rw [hbuilt.output] at houtput
  obtain ⟨output, hpath, rfl⟩ := Path.toJson_eq_ok_iff.mp houtput
  obtain ⟨_, rfl, hsame, -⟩ := hbuilt.exists_root habsolute
  obtain ⟨root, rfl, rfl⟩ := RootSet.toJson_singleton.mp hroots
  refine ⟨items, output, root, hlisted, hpath, hsame, ?_⟩
  rw [← hbuilt.packages, List.map_map]
  rfl

/-- The snapshot of a build, by the texts of the packages. -/
theorem found_of_built {behaviour : Behaviour} {config : Config} {world after : World}
    {report : BuildReport} {roots : RootSet} {command : PluginCommand} {sources : List SchemaSource}
    {made : FileSystem} {invocations : List Invocation}
    (hbuilt : config.Built behaviour world report roots after command sources made invocations) :
    List.Forall₂ (fun package source => source.package.text = package ∧
      SourceLookup.search world (package ++ "." ++ config.bareExtension) report.suppliers
        = .ok (some (source.origin, source.text))) config.packages sources := by
  rw [← hbuilt.packages, List.forall₂_map_left_iff]
  refine hbuilt.found.imp ?_
  intro package source hfind
  obtain ⟨rfl, hsearch⟩ := SourceLookup.find_eq_some_iff_search.mp hfind
  exact ⟨rfl, hsearch⟩

/-- **The outcome of a run that generates and succeeds.** Its packages are those of the command line, in
their order and as often as they stand there, if there are any, and else those that the layers below
the command line configure; and the run has done what it reports. -/
theorem generated_of_exitCode {behaviour : Behaviour} {world : World} {arguments : List Bytes}
    {options : GenerateOptions} {globals : GlobalOptions}
    (hparse : CommandLine.parse arguments = .ok ⟨.generate options, globals⟩)
    (h : (run behaviour arguments world).1.exitCode = 0) :
    ∃ project config loaded command suppliers sources made invocations,
      globals.begin options.overrides world = (.ok (project, config), loaded) ∧
      (options.packages ≠ [] → config.packages = options.packages) ∧
      (options.packages = [] → ∃ layers,
        Config.layers loaded project globals.config = .ok layers ∧
        Config.Configured layers .packages config.packages) ∧
      Generated behaviour config loaded world.started (run behaviour arguments world).1
        (run behaviour arguments world).2 command suppliers sources made invocations := by
  obtain ⟨project, config, loaded, report, roots, after, json, hbegin, hbuild, hjson, hshows, rfl⟩ :=
    run_generate_ok hparse h
  obtain ⟨houtput, -⟩ := GlobalOptions.isAbsolute_of_begin hbegin
  obtain ⟨command, sources, made, invocations, hbuilt⟩ := Config.built_of_build houtput hbuild
  obtain ⟨items, output, root, hlisted, hpath, hsame, rfl⟩ := report_of_built houtput hbuilt hjson
  obtain ⟨environment, hloaded⟩ := globals.begin_world options.overrides world
  rw [hbegin] at hloaded
  obtain ⟨layers, read, hbegan, rfl⟩ := GlobalOptions.begin_eq_ok_iff.mp hbegin
  refine ⟨project, _, loaded, command, report.suppliers, sources, made, invocations, hbegin, ?_, ?_,
    ?_⟩
  · exact Config.packages_of_said hbegan.made
  · -- with no packages on the command line nothing is said about the leaf that holds them
    intro hnone
    have hunsaid : ∀ leaf : Leaf, leaf.path.head? = some Config.Part.packages.name →
        options.overrides.said? leaf = none := by
      intro leaf hleaf
      cases leaf with
      | packages =>
        show (if options.packages.isEmpty then none else _) = none
        rw [hnone]
        rfl
      | _ => exact absurd hleaf (by decide)
    have hconfigured := Config.configured_of_unsaid .packages hbegan.made hunsaid
    exact ⟨layers, hbegan.below, hconfigured⟩
  · exact {
      plugin := hbuilt.plugin
      report := ⟨items, output, root, hlisted, hpath, hsame, hshows⟩
      resolved := hbuilt.resolved
      absolute := houtput
      prepared := hbuilt.prepared
      there := hbuilt.there
      found := found_of_built hbuilt
      served := hbuilt.served
      started := by
        rw [hbuilt.served.ran.started]
        -- loading sets variables and starts nothing
        rw [show loaded = { world with environment } from hloaded] }

/-! ### An extension with a dot at its front -/

/-- A folder with two files, one behind a dot and one behind two, and an extension with a dot at its
front in the environment. -/
def dottedWorld : World where
  files := ⟨[(Bytes.ofString "lib", .directory [
      (Bytes.ofString "a.stema", .file (Bytes.ofString "one dot") false),
      (Bytes.ofString "a..stema", .file (Bytes.ofString "two dots") false)]),
    (Bytes.ofString "gen", .file [] true), (Bytes.ofString "tmp", .directory [])]⟩
  environment := ⟨[(Bytes.ofString Leaf.extension.variableName, Bytes.ofString ".stema")]⟩
  here := .root
  started := []

/-- The options of a run that asks for the same package twice. -/
def twiceOptions : GenerateOptions where
  packages := ["a", "a"]
  plugin := ["/gen"]
  sources := { classpath := some (Bytes.ofString "/lib") }

/-- Such a run. -/
def twiceLine : List Bytes :=
  ["generate", "--package", "a", "--package", "a", "--classpath", "/lib", "--plugin", "/gen"].map
    Bytes.ofString

/-- The package is generated from twice. -/
theorem generated_of_exitCode_dottedWorld :
    ∃ project config loaded command suppliers sources made invocations,
      ({} : GlobalOptions).begin twiceOptions.overrides dottedWorld = (.ok (project, config), loaded) ∧
      config.packages = ["a", "a"] ∧
      Generated .idle config loaded [] (run .idle twiceLine dottedWorld).1
        (run .idle twiceLine dottedWorld).2 command suppliers sources made invocations := by
  have hparse : CommandLine.parse twiceLine = .ok ⟨.generate twiceOptions, {}⟩ := by decide +kernel
  have hcode : (run .idle twiceLine dottedWorld).1.exitCode = 0 := by decide +kernel
  obtain ⟨project, config, loaded, command, suppliers, sources, made, invocations, hbegin, hsaid, -,
    hgenerated⟩ := generated_of_exitCode hparse hcode
  exact ⟨project, config, loaded, command, suppliers, sources, made, invocations, hbegin,
    hsaid (List.cons_ne_nil _ _), hgenerated⟩

theorem dottedPackage_sound : PackageName.flaw? "a" = none := rfl

/-- What is found for the package in the folder, with its text. -/
def dottedSource (text : String) : SchemaSource :=
  ⟨⟨"a", dottedPackage_sound⟩, ⟨.folder, .ofString "/lib"⟩, text⟩

/-- What the plugin is asked for when this is found. -/
def dottedRequest (text : String) : GenerationRequest :=
  ⟨dottedSource text, {}, .ofString "/target/generated-sources/stemgen"⟩

/-- The two texts make two requests. -/
theorem dottedRequest_document_ne :
    (dottedRequest "two dots").document ≠ (dottedRequest "one dot").document := by
  have hchars : ∀ request : GenerationRequest,
      request.document.map String.toList = request.toJson.map Json.compactChars := by
    intro request
    unfold GenerationRequest.document
    cases request.toJson with
    | error error => rfl
    | ok json => exact congrArg Except.ok String.toList_ofList
  intro h
  have hsame := congrArg (Except.map String.toList) h
  rw [hchars, hchars] at hsame
  revert hsame
  decide +kernel

/-- What is configured and found when a run of that kind has begun. -/
def DottedBeginning (config : Config) (loaded : World) : Prop :=
  config.packages = ["a", "a"] ∧ config.output = (dottedRequest "").output ∧
    config.generation = ⟨{}, ".stema"⟩ ∧
    Supplier.resolve loaded config.resources config.classpathChain
      = .ok [⟨.folder, .ofString "/lib"⟩] ∧
    SourceLookup.search loaded "a.stema" [⟨.folder, .ofString "/lib"⟩]
      = .ok (some (⟨.folder, .ofString "/lib"⟩, "one dot")) ∧
    SourceLookup.search loaded "a..stema" [⟨.folder, .ofString "/lib"⟩]
      = .ok (some (⟨.folder, .ofString "/lib"⟩, "two dots"))

instance (config : Config) (loaded : World) : Decidable (DottedBeginning config loaded) :=
  inferInstanceAs (Decidable (_ ∧ _ ∧ _ ∧ _ ∧ _ ∧ _))

/-- **Dots at the front of the extension do not count**: the configured extension is `.stema`, and so
the package, a dot and the extension name the file with two dots, which is found in the only folder. The
plugin gets the text of the other file. -/
theorem extension_without_dots :
    CommandLine.parse twiceLine = .ok ⟨.generate twiceOptions, {}⟩ ∧
    (run .idle twiceLine dottedWorld).1.exitCode = 0 ∧
    ∃ project config loaded command made invocations,
      ({} : GlobalOptions).begin twiceOptions.overrides dottedWorld = (.ok (project, config), loaded) ∧
      SourceLookup.search loaded ("a" ++ "." ++ config.generation.extension)
        [⟨.folder, .ofString "/lib"⟩] = .ok (some (⟨.folder, .ofString "/lib"⟩, "two dots")) ∧
      (dottedRequest "two dots").document ≠ (dottedRequest "one dot").document ∧
      PluginCommand.Served command .idle { loaded with files := made }
        [dottedRequest "one dot", dottedRequest "one dot"] invocations
        (run .idle twiceLine dottedWorld).2 := by
  have hparse : CommandLine.parse twiceLine = .ok ⟨.generate twiceOptions, {}⟩ := by decide +kernel
  have hcode : (run .idle twiceLine dottedWorld).1.exitCode = 0 := by decide +kernel
  have hbeginning : (({} : GlobalOptions).begun? twiceOptions.overrides dottedWorld).any
      (fun begun => decide (DottedBeginning begun.1 begun.2)) = true := by decide +kernel
  obtain ⟨project, config, loaded, report, roots, after, json, hbegin, hbuild, -, -, hafter⟩ :=
    run_generate_ok hparse hcode
  rw [GlobalOptions.begun?, hbegin] at hbeginning
  obtain ⟨hpackages, houtput, hgeneration, hresolve, hone, htwo⟩ := of_decide_eq_true hbeginning
  obtain ⟨command, sources, made, invocations, hbuilt⟩ :=
    Config.built_of_build (GlobalOptions.isAbsolute_of_begin hbegin).1 hbuild
  refine ⟨hparse, hcode, project, config, loaded, command, made, invocations, hbegin, ?_,
    dottedRequest_document_ne, ?_⟩
  · rw [hgeneration]
    exact htwo
  · -- both sources are what the search for the file with one dot finds
    have hsuppliers := hbuilt.resolved
    rw [hresolve] at hsuppliers
    have hfound := found_of_built hbuilt
    have hextension : config.bareExtension = "stema" := by
      rw [Config.bareExtension, hgeneration]
      decide +kernel
    rw [hpackages, ← Except.ok.inj hsuppliers, hextension] at hfound
    have hsource : ∀ {source : SchemaSource}, source.package.text = "a" ∧
        SourceLookup.search loaded ("a" ++ "." ++ "stema") [⟨.folder, .ofString "/lib"⟩]
          = .ok (some (source.origin, source.text)) → source = dottedSource "one dot" := by
      rintro ⟨⟨_, _⟩, origin, text⟩ ⟨rfl, hsearch⟩
      rw [show "a" ++ "." ++ "stema" = "a.stema" from rfl, hone] at hsearch
      obtain ⟨rfl, rfl⟩ := Prod.mk.inj (Option.some.inj (Except.ok.inj hsearch))
      rfl
    have hserved := hbuilt.served
    cases hfound with
    | cons hfirst hrest =>
      cases hrest with
      | cons hsecond hnone =>
        cases hnone
        rw [hsource hfirst, hsource hsecond, houtput, hgeneration] at hserved
        rw [hafter]
        exact hserved

end Program

end SchemaBuild
