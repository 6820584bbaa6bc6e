import SchemaBuild.Proofs.CommandLine.Collected
import SchemaBuild.Proofs.CommandLine.Runs
import SchemaBuild.Proofs.Config.Said

/-!
# Options that decide

An option about the configuration has the last word on it: whatever files and variables say, the
configuration has what the option gives, taken from the project directory if it is a path. There is one
exception. A path list with nothing in it is as good as none, so the files and the variables decide then.

* `CommandLine.Decides` — the configuration has what is given on the command line;
* `CommandLine.options_decide` — so it has whenever there is one, and there is one whenever there is one
  without the command line; `CommandLine.empty_list_undecided`: the exception.
-/

namespace SchemaBuild

/-- No path of a path list is empty. -/
theorem Path.isEmpty_of_mem_splitList {list : Bytes} {path : Path} (h : path ∈ splitList list) :
    path.isEmpty = false := by
  obtain ⟨piece, -, hpiece⟩ := List.mem_filterMap.mp h
  obtain ⟨hne, hsame⟩ := Option.ite_none_left_eq_some.mp hpiece
  obtain rfl := Option.some.inj hsame
  exact Bool.eq_false_iff.mpr hne

namespace Command

/-- The command without its path list. -/
def withoutClasspath : Command → Command
  | generate options =>
    .generate { options with sources := { options.sources with classpath := none } }
  | suppliers options => .suppliers { options with classpath := none }

/-- A path list is said by its entries, and only by them. -/
theorem overrides_withoutClasspath (command : Command) :
    command.withoutClasspath.overrides = { command.overrides with classpathEntries := [] } := by
  cases command <;> rfl

end Command

namespace CommandLine

/-- **The configuration has what is given on the command line**: packages and the plugin word for word,
and paths put behind the project directory. -/
structure Decides (arguments : List Bytes) (project : Path) (config : Config) : Prop where
  packages : given arguments .package ≠ [] →
    config.packages.map Bytes.ofString = given arguments .package
  plugin : given arguments .plugin ≠ [] →
    config.plugin.map Bytes.ofString = given arguments .plugin
  output : ∀ value ∈ given arguments .output, config.output = project.join ⟨value⟩
  resources : ∀ value ∈ given arguments .resources, config.resources = project.join ⟨value⟩
  classpathFile : ∀ value ∈ given arguments .classpathFile,
    config.classpath.file = some (project.join ⟨value⟩)
  /-- A path list that is not empty. -/
  classpath : ∀ value ∈ given arguments .classpath, Path.splitList value ≠ [] →
    config.classpath.entries = (Path.splitList value).map project.join

section Decided

variable {arguments : List Bytes} {line : CommandLine}

theorem decides_of_begin (h : parse arguments = .ok line) {world loaded : World} {project : Path}
    {config : Config}
    (hbegin : line.globals.begin line.command.overrides world = (.ok (project, config), loaded)) :
    Decides arguments project config := by
  obtain ⟨layers, read, hbegan, rfl⟩ := GlobalOptions.begin_eq_ok_iff.mp hbegin
  obtain ⟨hpackages, hplugin, houtput, hresources, hfile, hclasspath⟩ := overrides_of_parse h
  have hsaid : ∀ {leaf : Leaf} {value : leaf.Value},
      line.command.overrides.value? leaf = some value → leaf.get read = value :=
    fun hvalue => Config.get_of_said hbegan.made hvalue
  exact {
    packages := by
      intro hne
      rw [← hpackages, ne_eq, List.map_eq_nil_iff] at hne
      show read.packages.map Bytes.ofString = _
      rw [Config.packages_of_said hbegan.made hne, hpackages]
    plugin := by
      intro hne
      rw [← hplugin, ne_eq, List.map_eq_nil_iff] at hne
      have hread : read.plugin = line.command.overrides.plugin :=
        @hsaid .plugin _ (Overrides.said_of_ne_nil hne)
      show read.plugin.map Bytes.ofString = _
      rw [hread, hplugin]
    output := by
      intro value hvalue
      have hread : read.output = ⟨value⟩ := @hsaid .output _ (houtput value hvalue)
      exact congrArg project.join hread
    resources := by
      intro value hvalue
      have hread : read.resources = ⟨value⟩ := @hsaid .resources _ (hresources value hvalue)
      exact congrArg project.join hread
    classpathFile := by
      intro value hvalue
      have hread : read.classpath.file = some ⟨value⟩ :=
        @hsaid .classpathFile _ (congrArg (Option.map some) (hfile value hvalue))
      exact congrArg (Option.map project.join) hread
    classpath := by
      intro value hvalue hne
      have hentries := hclasspath value hvalue
      rw [← hentries] at hne
      have hread : read.classpath.entries = Path.splitList value := by
        rw [← hentries]
        exact @hsaid .classpathEntries _ (Overrides.said_of_ne_nil hne)
      show (read.classpath.entries.filter fun entry => !entry.isEmpty).map project.join = _
      -- splitting has dropped the empty entries, so placing the paths drops no more of them
      rw [hread, List.filter_eq_self.mpr]
      intro path hpath
      rw [Path.isEmpty_of_mem_splitList hpath]
      rfl }

/-- A run that begins without what the command line says begins with it. -/
theorem exists_begin_onto {globals : GlobalOptions} {overrides : Overrides}
    (htext : overrides.AreText) {world loaded : World} {project : Path} {lower : Config}
    (hbegin : globals.begin {} world = (.ok (project, lower), loaded)) :
    ∃ config, globals.begin overrides world = (.ok (project, config), loaded) := by
  obtain ⟨layers, read, hbegan, -⟩ := GlobalOptions.begin_eq_ok_iff.mp hbegin
  have hbelow : Layer.toConfig layers = .ok read := by
    have hmade := hbegan.made
    rwa [show ({} : Overrides).layers = [] from rfl, List.append_nil] at hmade
  obtain ⟨_, _, -, -, hmade⟩ := Config.toConfig_onto hbelow htext
  exact ⟨_, GlobalOptions.begin_eq_ok_iff.mpr
    ⟨layers, _, ⟨hbegan.found, hbegan.dotenv, hbegan.below, hmade⟩, rfl⟩⟩

/-- **Options decide.** In every world, whatever its files and variables say:

* a configuration that is loaded for a command line has what is given there;
* there is one, if there is one without what the command line says, and all its paths are text;
* a path list with nothing in it makes no difference. -/
theorem options_decide (h : parse arguments = .ok line) (world : World) :
    (∀ project config loaded,
      line.globals.begin line.command.overrides world = (.ok (project, config), loaded) →
        Decides arguments project config) ∧
    (line.command.overrides.AreText → ∀ project lower loaded,
      line.globals.begin {} world = (.ok (project, lower), loaded) →
        ∃ config, line.globals.begin line.command.overrides world
          = (.ok (project, config), loaded)) ∧
    ∀ value ∈ given arguments .classpath, Path.splitList value = [] →
      line.globals.begin line.command.overrides world
        = line.globals.begin line.command.withoutClasspath.overrides world := by
  refine ⟨?_, ?_, ?_⟩
  · -- what the options say is what the configuration says
    intro project config loaded hbegin
    exact decides_of_begin h hbegin
  · -- options do not keep a configuration from being made
    intro htext project lower loaded hbegin
    exact exists_begin_onto htext hbegin
  · -- an empty list is not said at all
    intro value hvalue hempty
    obtain ⟨-, -, -, -, -, hclasspath⟩ := overrides_of_parse h
    have hentries : line.command.overrides.classpathEntries = [] :=
      (hclasspath value hvalue).trans hempty
    rw [Command.overrides_withoutClasspath, ← hentries]

end Decided

/-- A world whose environment has these entries of the classpath. -/
def listedWorld (entries : String) : World where
  files := .empty
  environment := ⟨[(.ofString Leaf.classpathEntries.variableName, .ofString entries)]⟩
  here := .located []
  started := []

/-- The entries of the classpath in the configuration of a command line. -/
def entries? (line : CommandLine) (world : World) : Option (List Path) :=
  (line.globals.begun? line.command.overrides world).map (·.1.classpath.entries)

/-- The options decide about packages and the classpath, whatever the variable says. -/
theorem options_decide_listedWorld :
    let arguments := ["generate", "--package", "a", "--classpath", "lib:"].map Bytes.ofString
    let line : CommandLine :=
      ⟨.generate { packages := ["a"], sources := { classpath := some (.ofString "lib:") } }, {}⟩
    entries? line (listedWorld "[deps]") = some [.ofString "/lib"] ∧
      ∀ project config loaded,
        line.globals.begin line.command.overrides (listedWorld "[deps]")
          = (.ok (project, config), loaded) → Decides arguments project config := by
  intro arguments line
  have hparse : parse arguments = .ok line := by decide +kernel
  exact ⟨by decide +kernel, (options_decide hparse (listedWorld "[deps]")).1⟩

/-- **An empty path list does not decide**: the list is given, it has no parts, and the entries are those
of the variable, in each of two worlds that differ in the variable only. -/
theorem empty_list_undecided :
    let arguments := ["suppliers", "--classpath", ""].map Bytes.ofString
    let line : CommandLine := ⟨.suppliers { classpath := some [] }, {}⟩
    parse arguments = .ok line ∧ given arguments .classpath = [[]] ∧ Path.splitList [] = [] ∧
      entries? line (listedWorld "[deps]") = some [.ofString "/deps"] ∧
      entries? line (listedWorld "[lib]") = some [.ofString "/lib"] := by
  intro arguments line
  exact ⟨by decide +kernel, by decide +kernel, rfl, by decide +kernel, by decide +kernel⟩

end CommandLine

end SchemaBuild
