import Mathlib.Data.List.Forall2
import SchemaBuild.Config.Basic
import SchemaBuild.Proofs.FileSystem.Absolute
import SchemaBuild.Proofs.Path.Absolute

/-!
# Placing a configuration

The paths of a configuration are written for its project directory. Once they are put behind an
absolute path of that directory, nothing in the configuration depends on where it is read: every path is
absolute, and placing it once more, wherever that is, changes nothing. An empty entry of the classpath
names nothing and goes; any other path that is empty stands for the project directory itself.

* `Config.PlacedAt` — what a configuration is when it is placed;
* `Config.isAbsolute_resolvePaths` — all of its paths are absolute then;
* `Config.IsAbsolute.resolvePaths_eq` — a configuration with such paths stays as it is;
* `Config.resolvePaths_independent` — both for any configuration that is placed.
-/

namespace SchemaBuild

/-- Absolute entries are placed where they are. -/
theorem Path.map_join_of_isAbsolute {entries : List Path}
    (h : ∀ entry ∈ entries, entry.isAbsolute = true) (base : Path) :
    (entries.filter fun entry => !entry.isEmpty).map base.join = entries := by
  have hkept : (entries.filter fun entry => !entry.isEmpty) = entries := by
    rw [List.filter_eq_self]
    intro entry hmem
    rw [World.isEmpty_of_isAbsolute (h entry hmem)]
    rfl
  have hsame : entries.map base.join = entries.map id :=
    List.map_congr_left fun entry hmem => Path.join_of_isAbsolute (h entry hmem) base
  rw [hkept, hsame, List.map_id]

namespace Config

variable {base : Path} {config : Config}

/-- **The configuration `placed` is `read` with the base put in front of its relative paths.** Empty
entries go, and what is no path stays. -/
structure PlacedAt (base : Path) (read placed : Config) : Prop where
  output : Path.MeantFrom base read.output placed.output
  resources : Path.MeantFrom base read.resources placed.resources
  entries : List.Forall₂ (Path.MeantFrom base)
    (read.classpath.entries.filter fun entry => !entry.isEmpty) placed.classpath.entries
  file : Option.Rel (Path.MeantFrom base) read.classpath.file placed.classpath.file
  variableName : placed.classpath.variableName = read.classpath.variableName
  packages : placed.packages = read.packages
  generation : placed.generation = read.generation
  plugin : placed.plugin = read.plugin

/-- **All paths of the configuration are absolute.** -/
structure IsAbsolute (config : Config) : Prop where
  output : config.output.isAbsolute = true
  resources : config.resources.isAbsolute = true
  entries : ∀ entry ∈ config.classpath.entries, entry.isAbsolute = true
  file : ∀ file ∈ config.classpath.file, file.isAbsolute = true

theorem placedAt_resolvePaths (base : Path) (read : Config) :
    PlacedAt base read (read.resolvePaths base) where
  output := Path.meantFrom_join base read.output
  resources := Path.meantFrom_join base read.resources
  entries := by
    show List.Forall₂ _ _ (List.map base.join _)
    rw [List.forall₂_map_right_iff, List.forall₂_same]
    exact fun entry _ => Path.meantFrom_join base entry
  file := by
    show Option.Rel _ _ (Option.map base.join _)
    cases read.classpath.file with
    | none => exact .none
    | some file => exact .some (Path.meantFrom_join base file)
  variableName := rfl
  packages := rfl
  generation := rfl
  plugin := rfl

/-- Behind an absolute path all paths are absolute. -/
theorem isAbsolute_resolvePaths (h : base.isAbsolute = true) (read : Config) :
    IsAbsolute (read.resolvePaths base) where
  output := Path.isAbsolute_join h
  resources := Path.isAbsolute_join h
  entries _ hmem := by
    obtain ⟨entry, -, rfl⟩ := List.mem_map.mp hmem
    exact Path.isAbsolute_join h
  file _ hmem := by
    obtain ⟨file, -, rfl⟩ := Option.map_eq_some_iff.mp hmem
    exact Path.isAbsolute_join h

/-- Absolute paths are not put behind another one. -/
theorem IsAbsolute.resolvePaths_eq (h : IsAbsolute config) (base : Path) :
    config.resolvePaths base = config := by
  have hfile : config.classpath.file.map base.join = config.classpath.file := by
    cases hfile : config.classpath.file with
    | none => rfl
    | some file => exact congrArg some (Path.join_of_isAbsolute (h.file file hfile) base)
  rw [resolvePaths, ClasspathConfig.resolvePaths, Path.join_of_isAbsolute h.output,
    Path.join_of_isAbsolute h.resources, Path.map_join_of_isAbsolute h.entries, hfile]

/-- **A configuration that is placed does not depend on where it is read.** Behind an absolute path,

* all of its paths are absolute;
* absolute paths are what they were, relative ones follow the base, and the entries are those that were
  not empty, in order; nothing else is changed;
* placing it once more, behind any path, changes nothing. -/
theorem resolvePaths_independent (h : base.isAbsolute = true) (read : Config) :
    IsAbsolute (read.resolvePaths base) ∧ PlacedAt base read (read.resolvePaths base) ∧
      ∀ other, (read.resolvePaths base).resolvePaths other = read.resolvePaths base :=
  ⟨isAbsolute_resolvePaths h read, placedAt_resolvePaths base read,
    fun other => (isAbsolute_resolvePaths h read).resolvePaths_eq other⟩

/-- A configuration with an empty output directory and an empty entry, and with paths of both kinds. -/
def mixedConfig : Config where
  output := .ofString ""
  resources := .ofString "schemas/"
  packages := ["a"]
  classpath := { entries := [.ofString "/lib/", .ofString "", .ofString "../x.jar"]
                 file := some (.ofString "list")
                 variableName := some "LIBRARIES" }

/-- Placed in a project whose path ends in a slash, and then once more elsewhere. -/
theorem resolvePaths_independent_mixedConfig :
    (mixedConfig.resolvePaths (.ofString "/work/")).resolvePaths (.ofString "/elsewhere")
      = { mixedConfig with
          output := .ofString "/work/"
          resources := .ofString "/work/schemas/"
          classpath := { entries := [.ofString "/lib/", .ofString "/work/../x.jar"]
                         file := some (.ofString "/work/list")
                         variableName := some "LIBRARIES" } } := by
  have habsolute : (Path.ofString "/work/").isAbsolute = true := by decide
  obtain ⟨-, -, hagain⟩ := resolvePaths_independent habsolute mixedConfig
  rw [hagain]
  decide

end Config

end SchemaBuild
