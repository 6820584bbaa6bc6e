import SchemaBuild.CommandLine.Parse
import SchemaBuild.Proofs.Build.Success

/-!
# The exit status of a run that generates

A run that generates exits with 0 and shows the report of its build, or with 1 and shows nothing. After
the build one more step can fail: the report is written as JSON, and there is no JSON of a path that is
no text. Of the paths in a report the plugin was told about the output directory before, so that one is
text, and so is its absolute form, the source root. The suppliers remain: a plugin is told about the
ones that have a source only.

* `Program.run_of_build_ok`, `Program.run_of_build_error` — what a run comes to, from what its build did;
* `Program.exitCode_generate_iff` — so the exit status tells whether the build succeeded if all suppliers
  are text;
* `Program.failure_after_success` — and else it does not.
-/

namespace SchemaBuild

namespace Program

variable {behaviour : Behaviour} {world loaded after : World} {arguments : List Bytes}
  {options : GenerateOptions} {globals : GlobalOptions} {project : Path} {config : Config}

/-- What a run says whose report cannot be written. -/
def unwritten : ProgramResult :=
  ⟨1, "", some "stemgen error: path contains invalid UTF-8 characters\n"⟩

/-- **A build that failed** is reported as a failure. -/
theorem run_of_build_error {cause : Cause}
    (hparse : CommandLine.parse arguments = .ok ⟨.generate options, globals⟩)
    (hbegin : globals.begin options.overrides world = (.ok (project, config), loaded))
    (hbuild : config.build behaviour loaded = (.error cause, after)) :
    ∃ line, run behaviour arguments world = (⟨1, "", some line⟩, after) := by
  rw [run_of_begin hparse hbegin, Command.runWith_of_build_error hbuild]
  exact ⟨_, rfl⟩

/-- **A build that succeeded** is reported if all suppliers are text, and else the run fails. -/
theorem run_of_build_ok {report : BuildReport} {roots : RootSet}
    (hparse : CommandLine.parse arguments = .ok ⟨.generate options, globals⟩)
    (hbegin : globals.begin options.overrides world = (.ok (project, config), loaded))
    (hbuild : config.build behaviour loaded = (.ok (report, roots), after)) :
    ((∀ supplier ∈ report.suppliers, supplier.path.IsText) →
      ∃ document, responseJson report roots = .ok document ∧
        run behaviour arguments world = (⟨0, document.pretty ++ "\n", none⟩, after)) ∧
    ((∃ supplier ∈ report.suppliers, ¬ supplier.path.IsText) →
      run behaviour arguments world = (unwritten, after)) := by
  rw [run_of_begin hparse hbegin, Command.runWith_of_build_ok hbuild]
  constructor
  · intro hsuppliers
    -- all other paths of the answer are text, since a plugin has been told about the output directory
    obtain ⟨houtput, -⟩ := GlobalOptions.isAbsolute_of_begin hbegin
    obtain ⟨command, sources, made, invocations, hbuilt⟩ := Config.built_of_build houtput hbuild
    obtain ⟨document, hdocument⟩ := hbuilt.exists_response houtput hsuppliers
    refine ⟨document, hdocument, ?_⟩
    rw [hdocument]
    rfl
  · rintro ⟨supplier, hmem, hnot⟩
    rw [responseJson_of_not_isText hmem hnot]
    rfl

/-- **The exit status of a run that generates**, when its configuration is loaded. It is 0 exactly if the
build succeeded and all suppliers that it reports are text, whatever bytes other paths have. The run
shows the report then, and else it exits with 1 and shows nothing. -/
theorem exitCode_generate_iff
    (hparse : CommandLine.parse arguments = .ok ⟨.generate options, globals⟩)
    (hbegin : globals.begin options.overrides world = (.ok (project, config), loaded)) :
    ((run behaviour arguments world).1.exitCode = 0 ↔
      ∃ report roots after, config.build behaviour loaded = (.ok (report, roots), after) ∧
        ∀ supplier ∈ report.suppliers, supplier.path.IsText) ∧
    ((run behaviour arguments world).1.exitCode = 0 →
      ∃ report roots after document,
        config.build behaviour loaded = (.ok (report, roots), after) ∧
        responseJson report roots = .ok document ∧
        (run behaviour arguments world).1.Shows document) ∧
    ((run behaviour arguments world).1.exitCode ≠ 0 →
      ∃ line, (run behaviour arguments world).1 = ⟨1, "", some line⟩) := by
  -- what the build came to decides, and after a success the suppliers
  cases hbuild : config.build behaviour loaded with
  | mk result after =>
    cases result with
    | error cause =>
      -- the build failed
      obtain ⟨line, hrun⟩ := run_of_build_error hparse hbegin hbuild
      rw [hrun]
      refine ⟨⟨nofun, ?_⟩, nofun, fun _ => ⟨line, rfl⟩⟩
      rintro ⟨_, _, _, ⟨⟩, -⟩
    | ok built =>
      obtain ⟨report, roots⟩ := built
      obtain ⟨hwritten, hunwritten⟩ := run_of_build_ok hparse hbegin hbuild
      by_cases hsuppliers : ∀ supplier ∈ report.suppliers, supplier.path.IsText
      · -- all suppliers can be written down, so the response is shown
        obtain ⟨document, hdocument, hrun⟩ := hwritten hsuppliers
        rw [hrun]
        refine ⟨⟨fun _ => ⟨report, roots, after, rfl, hsuppliers⟩, fun _ => rfl⟩, ?_, ?_⟩
        · exact fun _ => ⟨report, roots, after, document, rfl, hdocument, rfl⟩
        · exact fun hne => absurd rfl hne
      · -- a supplier cannot be written down, so the run fails although the build did not
        have hrun : run behaviour arguments world = (unwritten, after) := by
          refine hunwritten ?_
          simpa only [not_forall, exists_prop] using hsuppliers
        rw [hrun]
        refine ⟨⟨nofun, ?_⟩, nofun, fun _ => ⟨_, rfl⟩⟩
        rintro ⟨_, _, _, ⟨⟩, hall⟩
        exact absurd hall hsuppliers

/-! ### A project directory whose name is no text -/

/-- A project directory with the name `p` and a byte that no text has, with a resource directory in it;
a folder with a schema elsewhere; and a program that can be run. -/
def namelessWorld : World where
  files := ⟨[(Bytes.ofString "p" ++ [255], .directory [(Bytes.ofString "src",
      .directory [(Bytes.ofString "main", .directory [(Bytes.ofString "resources", .directory [])])])]),
    (Bytes.ofString "lib", .directory [(Bytes.ofString "a.stema",
      .file (Bytes.ofString "schema") false)]),
    (Bytes.ofString "gen", .file [] true), (Bytes.ofString "tmp", .directory [])]⟩
  environment := ⟨[]⟩
  here := .root
  started := []

/-- A run in a project, which generates what is outside of it. -/
def outsideLine (project : Bytes) : List Bytes :=
  [Bytes.ofString "--project", project] ++ ["generate", "--classpath", "/lib", "--package", "a",
    "--output-directory", "/out", "--plugin", "/gen"].map Bytes.ofString

/-- The options of such a run. -/
def outsideOptions : GenerateOptions where
  packages := ["a"]
  output := some (.ofString "/out")
  plugin := ["/gen"]
  sources := { classpath := some (Bytes.ofString "/lib") }

/-- **The build has succeeded and the run fails**: the package was compiled and the plugin has generated
from it, but the resource directory is a supplier whose path is no text, and so there is no report. -/
theorem failure_after_success :
    let project := Path.slash :: Bytes.ofString "p" ++ [255]
    let globals : GlobalOptions := { project := some ⟨project⟩ }
    CommandLine.parse (outsideLine project) = .ok ⟨.generate outsideOptions, globals⟩ ∧
      (∃ root config loaded report roots after,
        globals.begin outsideOptions.overrides namelessWorld = (.ok (root, config), loaded) ∧
        config.build .idle loaded = (.ok (report, roots), after)) ∧
      (run .idle (outsideLine project) namelessWorld).1 = unwritten ∧
      (run .idle (outsideLine project) namelessWorld).2.started.length = 1 := by
  intro project globals
  refine ⟨by decide +kernel, ?_, by decide +kernel, by decide +kernel⟩
  have hsucceeds : (globals.begun? outsideOptions.overrides namelessWorld).any
      (fun begun => (begun.1.build .idle begun.2).1.isOk) = true := by decide +kernel
  obtain ⟨⟨config, loaded⟩, hbegun, hbuild⟩ := (Option.any_eq_true _ _).mp hsucceeds
  obtain ⟨root, hbegin⟩ := GlobalOptions.exists_of_begun? hbegun
  cases hbuilt : config.build .idle loaded with
  | mk result after =>
    rw [hbuilt] at hbuild
    cases result with
    | error cause => cases hbuild
    | ok made => exact ⟨root, config, loaded, made.1, made.2, after, hbegin, hbuilt⟩

/-- The same run in a project that is called `lib` succeeds, and shows its report. -/
theorem exitCode_generate_namelessWorld :
    let globals : GlobalOptions := { project := some (.ofString "/lib") }
    ∃ root config loaded report roots after document,
      globals.begin outsideOptions.overrides namelessWorld = (.ok (root, config), loaded) ∧
      config.build .idle loaded = (.ok (report, roots), after) ∧
      responseJson report roots = .ok document ∧
      (run .idle (outsideLine (Bytes.ofString "/lib")) namelessWorld).1.Shows document := by
  intro globals
  have hparse : CommandLine.parse (outsideLine (Bytes.ofString "/lib"))
      = .ok ⟨.generate outsideOptions, globals⟩ := by decide +kernel
  have hcode : (run .idle (outsideLine (Bytes.ofString "/lib")) namelessWorld).1.exitCode = 0 := by
    decide +kernel
  have hfound : (globals.begin outsideOptions.overrides namelessWorld).1.isOk = true := by
    decide +kernel
  cases hbegin : globals.begin outsideOptions.overrides namelessWorld with
  | mk result loaded =>
    rw [hbegin] at hfound
    cases result with
    | error cause => cases hfound
    | ok begun =>
      obtain ⟨root, config⟩ := begun
      obtain ⟨-, hshows, -⟩ := exitCode_generate_iff hparse hbegin
      obtain ⟨report, roots, after, document, hbuild, hdocument, hshown⟩ := hshows hcode
      exact ⟨root, config, loaded, report, roots, after, document, rfl, hbuild, hdocument, hshown⟩

end Program

end SchemaBuild
