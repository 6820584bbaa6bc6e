import SchemaBuild.CommandLine.Parse
import SchemaBuild.Proofs.CommandLine.Frame
import SchemaBuild.Proofs.CommandLine.Runs
import SchemaBuild.Proofs.Config.Parts

/-!
# The search path that is shown and the one that is searched

`suppliers` shows the search path that `generate` works with. The two commands put different settings
on top of the same layers, but what `generate` says beside the source options is about other parts of
the configuration than the resource directory and the classpath; and the search path is resolved before
a build does anything.

* `GlobalOptions.begin_same_sources` — the two commands begin alike, as far as the search path goes;
* `Config.resolve_of_build` — a build that succeeds reports the search path of the world it began in;
* `Program.shown_suppliers_are_searched` — so both show the same.
-/

namespace SchemaBuild

/-- What `generate` says beside its source options is about other leaves than those that the search
path is made of. -/
theorem GenerateOptions.said?_of_source (options : GenerateOptions) {leaf : Leaf}
    (h : leaf.path.head? = some Config.Part.classpath.name ∨
      leaf.path.head? = some Config.Part.resources.name) :
    options.sources.overrides.said? leaf = options.overrides.said? leaf := by
  cases leaf with
  | output => exact absurd h (by decide)
  | packages => exact absurd h (by decide)
  | plugin => exact absurd h (by decide)
  | _ => rfl

/-- **Both commands begin alike**: in the same project and the same world, with the same resource
directory and the same classpath. -/
theorem GlobalOptions.begin_same_sources {globals : GlobalOptions} {options : GenerateOptions}
    {world listed loaded : World} {root project : Path} {one other : Config}
    (hone : globals.begin options.sources.overrides world = (.ok (root, one), listed))
    (hother : globals.begin options.overrides world = (.ok (project, other), loaded)) :
    listed = loaded ∧ one.resources = other.resources ∧ one.classpath = other.classpath := by
  obtain ⟨layers, first, hfirst, rfl⟩ := GlobalOptions.begin_eq_ok_iff.mp hone
  obtain ⟨layers', second, hsecond, rfl⟩ := GlobalOptions.begin_eq_ok_iff.mp hother
  -- the command line has no say about the project and what is below it
  obtain rfl : root = project := Except.ok.inj (hfirst.found.symm.trans hsecond.found)
  obtain rfl : listed = loaded := (Prod.mk.inj (hfirst.dotenv.symm.trans hsecond.dotenv)).2
  obtain rfl : layers = layers' := Except.ok.inj (hfirst.below.symm.trans hsecond.below)
  have hresources : first.resources = second.resources :=
    Config.part_of_agreement .resources hfirst.made hsecond.made
      fun leaf hleaf => options.said?_of_source (.inr hleaf)
  have hclasspath : first.classpath = second.classpath :=
    Config.part_of_agreement .classpath hfirst.made hsecond.made
      fun leaf hleaf => options.said?_of_source (.inl hleaf)
  refine ⟨rfl, ?_, ?_⟩
  · show root.join first.resources = root.join second.resources
    rw [hresources]
  · show first.classpath.resolvePaths root = second.classpath.resolvePaths root
    rw [hclasspath]

/-- **A build that succeeds reports the search path** of the world in which it began. -/
theorem Config.resolve_of_build {config : Config} {behaviour : Behaviour} {world after : World}
    {report : BuildReport} {roots : RootSet}
    (h : config.build behaviour world = (.ok (report, roots), after)) :
    Supplier.resolve world config.resources config.classpathChain = .ok report.suppliers := by
  obtain ⟨request, command, hrequest, hrun⟩ := Config.build_eq_ok_iff.mp h
  obtain ⟨-, hresources⟩ := Config.buildRequest_eq_ok hrequest
  obtain ⟨calls, hcourse⟩ := BuildRequest.exists_course hrun
  cases hcourse with
  | finished compiles _ _ _ =>
    rw [← hresources]
    exact compiles.resolved

/-- **The search path that is shown is the one that is searched.** Let two command lines have the same
options about the project and about sources; the second may have any packages, output directory and
plugin. If both succeed in the same world, whatever programs do, the first one shows a list, and this is
the list of suppliers in the report that the second one shows. -/
theorem Program.shown_suppliers_are_searched {behaviour other : Behaviour} {world : World}
    {listing generating : List Bytes} {globals : GlobalOptions} {options : GenerateOptions}
    (hlisting : CommandLine.parse listing = .ok ⟨.suppliers options.sources, globals⟩)
    (hgenerating : CommandLine.parse generating = .ok ⟨.generate options, globals⟩)
    (hlisted : (run behaviour listing world).1.exitCode = 0)
    (hgenerated : (run other generating world).1.exitCode = 0) :
    ∃ items report,
      (∀ document, (run behaviour listing world).1.Shows document ↔ document = .array items) ∧
      (∀ document, (run other generating world).1.Shows document ↔ document = report) ∧
      report.member? "suppliers" = some (.array items) := by
  obtain ⟨root, one, listed, found, list, hone, hfound, hlist, hshowsList⟩ :=
    run_suppliers_ok hlisting hlisted
  obtain ⟨project, config, loaded, report, roots, after, json, hother, hbuild, hjson, hshows, -⟩ :=
    run_generate_ok hgenerating hgenerated
  obtain ⟨rfl, hresources, hclasspath⟩ := GlobalOptions.begin_same_sources hone hother
  -- both resolve the same search path in the same world
  have hchain : one.classpathChain = config.classpathChain := by
    rw [Config.classpathChain, Config.classpathChain, Config.classpathSources,
      Config.classpathSources, hclasspath]
  have hsearched := Config.resolve_of_build hbuild
  rw [← hresources, ← hchain, hfound] at hsearched
  obtain rfl : found = report.suppliers := Except.ok.inj hsearched
  obtain ⟨suppliers, output, sourceRoots, hsuppliers, -, -, rfl⟩ := responseJson_eq_ok_iff.mp hjson
  obtain rfl : list = suppliers := Except.ok.inj (hlist.symm.trans hsuppliers)
  obtain ⟨items, -, rfl⟩ := Supplier.listToJson_eq_ok_iff.mp hlist
  exact ⟨items, _, hshowsList.iff, hshows.iff, rfl⟩

/-! ### A project with a folder of schemas -/

/-- A project with a folder of schemas, and a program that can be run. -/
def libraryWorld : World where
  files := ⟨[(Bytes.ofString "p", .directory [(Bytes.ofString "lib",
      .directory [(Bytes.ofString "a.stema", .file (Bytes.ofString "schema") false)])]),
    (Bytes.ofString "gen", .file [] true), (Bytes.ofString "tmp", .directory [])]⟩
  environment := ⟨[]⟩
  here := .located [Bytes.ofString "p"]
  started := []

/-- The folder as it is shown. -/
def libraryItem : Json := .object [("kind", .string "folder"), ("path", .string "/p/lib")]

/-- The folder on the classpath is shown by the one command, and searched by the other. -/
theorem Program.shown_suppliers_are_searched_libraryWorld :
    let listing := ["suppliers", "--classpath", "lib"].map Bytes.ofString
    let generating := ["generate", "--classpath", "lib", "--package", "a", "--plugin", "/gen"].map
      Bytes.ofString
    (run .idle listing libraryWorld).1.Shows (.array [libraryItem]) ∧
      ∃ report, (run .idle generating libraryWorld).1.Shows report ∧
        report.member? "suppliers" = some (.array [libraryItem]) := by
  intro listing generating
  let options : GenerateOptions :=
    { packages := ["a"], plugin := ["/gen"], sources := { classpath := some (Bytes.ofString "lib") } }
  have hlisting : CommandLine.parse listing = .ok ⟨.suppliers options.sources, {}⟩ := by
    decide +kernel
  have hgenerating : CommandLine.parse generating = .ok ⟨.generate options, {}⟩ := by
    decide +kernel
  have hshown : (run .idle listing libraryWorld).1 = ⟨0, (Json.array [libraryItem]).pretty ++ "\n", none⟩ := by
    decide +kernel
  have hgenerated : (run .idle generating libraryWorld).1.exitCode = 0 := by decide +kernel
  obtain ⟨items, report, hitems, hreport, hmember⟩ := shown_suppliers_are_searched hlisting
    hgenerating (ProgramResult.Shows.exitCode hshown) hgenerated
  obtain rfl : [libraryItem] = items := Json.array.inj ((hitems _).mp hshown)
  exact ⟨hshown, report, (hreport report).mpr rfl, hmember⟩

end SchemaBuild
