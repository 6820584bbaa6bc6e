import Mathlib.Data.List.Basic
import SchemaBuild.Proofs.Classpath.Chaining
import SchemaBuild.Proofs.Config.Placement
import SchemaBuild.Proofs.FileSystem.Elsewhere

/-!
# The places of a search path

The search path of a project is put together from places that the configuration names: the resource
directory and the entries of the configuration are meant from the project directory, and the lines of a
listing file from its directory. Only what the classpath variable holds stays as it is, so a relative
entry there is looked at from the working directory.

* `Config.placedEntries` — the entries that have a directory to be meant from, and
  `Config.entries_resolvePaths`: the classpath is these and then those of the variable;
* `Config.placedSuppliers`, `Config.resolve_resolvePaths` — the same for the search path;
* `Config.placedSuppliers_movedTo` — what is placed in a project that is known by an absolute path is the
  same from everywhere, and so is the search path if the variable holds absolute paths
  (`Config.resolve_movedTo`).
-/

namespace SchemaBuild

/-! ### The entries of a classpath -/

namespace Config

/-- The entries that a configuration has of its own, from the project directory, and those of its listing
file, which is known from there, from the directory of that file. -/
def placedEntries (read : Config) (project : Path) (world : World) : Except Cause (List Path) :=
  let own := (read.classpath.entries.filter fun entry => !entry.isEmpty).map project.join
  match read.classpath.file with
  | none => .ok own
  | some file => (Classpath.listingEntries world (project.join file)).map (own ++ ·)

/-- The entries of the classpath variable, as they are. -/
def variableEntries (config : Config) (world : World) : Except Cause (List Path) :=
  match config.classpath.variableName with
  | none => .ok []
  | some name => Classpath.variableEntries world (.ofString name)

variable {read : Config} {project : Path} {world : World}

/-- **The classpath of a project** is what is placed and, behind it, what the variable holds. -/
theorem entries_resolvePaths (read : Config) (project : Path) (world : World) :
    (read.resolvePaths project).classpathChain.entries world
      = (do let placed ← read.placedEntries project world
            let said ← read.variableEntries world
            return placed ++ said) := by
  unfold classpathChain classpathSources
  rw [Classpath.entries, Classpath.chainEntries_append, Classpath.chainEntries_append]
  unfold resolvePaths ClasspathConfig.resolvePaths placedEntries variableEntries
  dsimp only
  generalize (read.classpath.entries.filter fun entry => !entry.isEmpty).map project.join = own
  have hown : Classpath.chainEntries world (if own.isEmpty then [] else [.fixed own]) = .ok own := by
    cases own with
    | nil => rfl
    | cons entry own => exact Classpath.chainEntries_singleton world _
  have hvariable : Classpath.chainEntries world
      (read.classpath.variableName.map fun name => Classpath.environment (.ofString name)).toList
        = match read.classpath.variableName with
          | none => .ok []
          | some name => Classpath.variableEntries world (.ofString name) := by
    cases read.classpath.variableName with
    | none => rfl
    | some name => exact Classpath.chainEntries_singleton world _
  -- with the file the order is as it is in the sources: own entries, listed ones, the variable
  rw [hown, hvariable]
  cases read.classpath.file with
  | none =>
    show (do let found ← Except.ok (own ++ []); _) = _
    rw [List.append_nil]
  | some file =>
    dsimp only [Option.map_some, Option.toList_some]
    rw [Classpath.chainEntries_singleton, Classpath.entries]
    cases Classpath.listingEntries world (project.join file) <;> rfl

theorem isAbsolute_of_placedEntries (h : project.isAbsolute = true) {placed : List Path}
    (hplaced : read.placedEntries project world = .ok placed) :
    ∀ entry ∈ placed, entry.isAbsolute = true := by
  have hown : ∀ entry ∈ (read.classpath.entries.filter fun entry => !entry.isEmpty).map project.join,
      entry.isAbsolute = true := (isAbsolute_resolvePaths h read).entries
  unfold placedEntries at hplaced
  dsimp only at hplaced
  split at hplaced
  · -- there is no listing file
    cases hplaced
    exact hown
  · next file _ =>
    cases hlisted : Classpath.listingEntries world (project.join file) with
    | error cause =>
      -- the listing file cannot be read
      rw [hlisted] at hplaced
      cases hplaced
    | ok listed =>
      rw [hlisted] at hplaced
      cases hplaced
      intro entry hmem
      obtain hfront | hback := List.mem_append.mp hmem
      · -- it is an entry of the configuration
        exact hown entry hfront
      · -- it is an entry of the listing file
        exact Classpath.isAbsolute_of_listingEntries (Path.isAbsolute_join h) hlisted entry hback

theorem placedEntries_movedTo (h : project.isAbsolute = true) (read : Config) (world : World)
    (place : Place) :
    read.placedEntries project (world.movedTo place) = read.placedEntries project world := by
  unfold placedEntries
  cases read.classpath.file with
  | none => rfl
  | some file =>
    dsimp only
    unfold Classpath.listingEntries
    rw [World.readText_movedTo world place (Path.isAbsolute_join h)]

theorem variableEntries_movedTo (config : Config) (world : World) (place : Place) :
    config.variableEntries (world.movedTo place) = config.variableEntries world := rfl

end Config

/-! ### Suppliers -/

namespace Supplier

variable (world : World) (place : Place)

theorem ofResources_movedTo {resources : Path} (h : resources.isAbsolute = true) :
    ofResources (world.movedTo place) resources = ofResources world resources := by
  unfold ofResources
  rw [World.has_movedTo world place h, World.absolute_movedTo world place h]

theorem ofPath?_movedTo {entry : Path} (h : entry.isAbsolute = true) :
    ofPath? (world.movedTo place) entry = ofPath? world entry := by
  unfold ofPath?
  rw [World.has_movedTo world place h, World.isDirectory_movedTo world place h,
    World.absolute_movedTo world place h]

theorem filterMap_ofPath?_movedTo {entries : List Path}
    (h : ∀ entry ∈ entries, entry.isAbsolute = true) :
    entries.filterMap (ofPath? (world.movedTo place)) = entries.filterMap (ofPath? world) :=
  List.filterMap_congr fun entry hmem => ofPath?_movedTo world place (h entry hmem)

end Supplier

namespace Config

variable {read : Config} {project : Path} {world : World}

/-- The suppliers of a project that do not come from the variable: the resource directory, from the
project directory, and the entries that are placed. -/
def placedSuppliers (read : Config) (project : Path) (world : World) : Except Cause (List Supplier) :=
  (read.placedEntries project world).map fun placed =>
    Supplier.ofResources world (project.join read.resources)
      ++ placed.filterMap (Supplier.ofPath? world)

theorem placedSuppliers_movedTo (h : project.isAbsolute = true) (read : Config) (world : World)
    (place : Place) :
    read.placedSuppliers project (world.movedTo place) = read.placedSuppliers project world := by
  unfold placedSuppliers
  rw [placedEntries_movedTo h, Supplier.ofResources_movedTo world place (Path.isAbsolute_join h)]
  cases hplaced : read.placedEntries project world with
  | error cause => rfl
  | ok placed =>
    -- that all of these are absolute is known from here, where they were placed
    dsimp only [Except.map]
    rw [Supplier.filterMap_ofPath?_movedTo world place (isAbsolute_of_placedEntries h hplaced)]

/-- **The search path of a project**: the suppliers that are placed, and then those of the variable. -/
theorem resolve_resolvePaths (read : Config) (project : Path) (world : World) :
    Supplier.resolve world (read.resolvePaths project).resources
        (read.resolvePaths project).classpathChain
      = (do let placed ← read.placedSuppliers project world
            let said ← read.variableEntries world
            return placed ++ said.filterMap (Supplier.ofPath? world)).mapError .classpath := by
  unfold Supplier.resolve
  rw [entries_resolvePaths, placedSuppliers]
  cases read.placedEntries project world with
  | error cause => rfl
  | ok placed =>
    cases read.variableEntries world with
    | error cause => rfl
    | ok said =>
      refine congrArg Except.ok ?_
      rw [List.filterMap_append, ← List.append_assoc]
      rfl

theorem resolve_eq_ok_iff {found : List Supplier} :
    Supplier.resolve world (read.resolvePaths project).resources
        (read.resolvePaths project).classpathChain = .ok found ↔
      ∃ placed said, read.placedSuppliers project world = .ok placed ∧
        read.variableEntries world = .ok said ∧
        found = placed ++ said.filterMap (Supplier.ofPath? world) := by
  rw [resolve_resolvePaths]
  cases read.placedSuppliers project world with
  | error cause => exact ⟨nofun, by rintro ⟨_, _, ⟨⟩, -⟩⟩
  | ok placed =>
    cases read.variableEntries world with
    | error cause => exact ⟨nofun, by rintro ⟨_, _, -, ⟨⟩, -⟩⟩
    | ok said =>
      constructor
      · -- the search path is found from both
        intro h
        exact ⟨placed, said, rfl, rfl, (Except.ok.inj h).symm⟩
      · -- what both give is the search path
        rintro ⟨_, _, ⟨⟩, ⟨⟩, rfl⟩
        rfl

/-- The search path of a project is the same from everywhere if the variable holds absolute paths. -/
theorem resolve_movedTo (h : project.isAbsolute = true) (place : Place)
    (hsaid : ∀ said, read.variableEntries world = .ok said →
      ∀ entry ∈ said, entry.isAbsolute = true) :
    Supplier.resolve (world.movedTo place) (read.resolvePaths project).resources
        (read.resolvePaths project).classpathChain
      = Supplier.resolve world (read.resolvePaths project).resources
        (read.resolvePaths project).classpathChain := by
  rw [resolve_resolvePaths, resolve_resolvePaths, placedSuppliers_movedTo h,
    variableEntries_movedTo]
  cases read.placedSuppliers project world with
  | error cause => rfl
  | ok placed =>
    cases hvariable : read.variableEntries world with
    | error cause => rfl
    | ok said =>
      refine congrArg Except.ok ?_
      rw [Supplier.filterMap_ofPath?_movedTo world place (hsaid said hvariable)]

end Config

end SchemaBuild
