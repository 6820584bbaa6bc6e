import SchemaBuild.Config.Layers
import SchemaBuild.Proofs.FileSystem.Elsewhere
import SchemaBuild.Proofs.Path.Text
import SchemaBuild.Proofs.Settings.Sources

/-!
# Configurations from elsewhere

The configuration of a project that is known by an absolute path is the same from every working
directory, if the home directory is known by one as well: the dotenv file, the user's file and the
project's file are then looked at by absolute paths. Only the sources of the settings tell the
directories apart, since files are shown as they are seen from there.

* `Config.loadDotenv_movedTo` — the dotenv file; `Config.loadDotenv_keeps`: it leaves variables alone
  that are text;
* `Config.layers_movedTo` — the layers, but for their sources.
-/

namespace SchemaBuild

/-- The home directory is known by an absolute path. -/
def Environment.HasHome (environment : Environment) : Prop :=
  ∃ home : Path, environment.get? (.ofString "HOME") = some home.bytes ∧ home.isAbsolute = true

/-! ### The dotenv file -/

namespace Dotenv

theorem assign_movedTo (world : World) (place : Place) (assignment : Assignment) :
    assign (world.movedTo place) assignment = (assign world assignment).movedTo place := by
  unfold assign
  dsimp only [World.movedTo_environment]
  split <;> rfl

/-- The lines of a dotenv file do the same from everywhere. -/
theorem loadLines_movedTo (place : Place) (lines : List Bytes) (pending : Pending)
    (earlier : List Assignment) (world : World) :
    loadLines lines pending earlier (world.movedTo place)
      = ((loadLines lines pending earlier world).1,
          (loadLines lines pending earlier world).2.movedTo place) := by
  -- each line looks at the environment and sets a variable in it, and no line looks at files
  -- the last line may be unfinished
  induction lines generalizing pending earlier world with
  | nil =>
    unfold loadLines
    split <;> rfl
  | cons line lines ih =>
    unfold loadLines
    cases Utf8.decode? line with
    | none =>
      -- the line is no text
      rfl
    | some chars =>
      dsimp only [World.movedTo_environment]
      cases pending.add chars with
      | inr pending =>
        -- the line goes on with the next one
        exact ih ..
      | inl text =>
        dsimp only
        cases Assignment.ofLine (valueOf world.environment earlier) text with
        | error bad =>
          -- the line cannot be understood
          rfl
        | ok found =>
          cases found with
          | none =>
            -- there is no assignment on the line
            exact ih ..
          | some assignment =>
            dsimp only
            rw [assign_movedTo, ih]
            by_cases himpossible : impossible world.environment assignment = true
            · -- the value has a NUL in it, and the load ends
              exact (if_pos himpossible).trans (by rw [if_pos himpossible])
            · -- the variable is set, and the load goes on
              exact (if_neg himpossible).trans (by rw [if_neg himpossible])

/-- A variable that is text is kept by an assignment. -/
theorem assign_keeps {world : World} {name value : Bytes} (htext : value.IsText)
    (h : world.environment.get? name = some value) (assignment : Assignment) :
    (assign world assignment).environment.get? name = some value := by
  unfold assign
  dsimp only
  split
  · exact h
  · next hfree =>
    -- what is set has no text in it yet, so it is another variable
    have hne : name ≠ .ofString assignment.name := by
      rintro rfl
      rw [Environment.getText?, h] at hfree
      have hsome := Bytes.isText_iff.mp htext
      rw [show value.toString? = none from hfree] at hsome
      cases hsome
    rw [← h]
    exact world.environment.get?_set_of_ne _ hne

theorem loadLines_keeps {name value : Bytes} (htext : value.IsText) (lines : List Bytes)
    (pending : Pending) (earlier : List Assignment) (world : World)
    (h : world.environment.get? name = some value) :
    (loadLines lines pending earlier world).2.environment.get? name = some value := by
  induction lines generalizing pending earlier world with
  | nil =>
    unfold loadLines
    split <;> exact h
  | cons line lines ih =>
    unfold loadLines
    split
    · -- the line is no text, and nothing more is done
      exact h
    · split
      · -- the line goes on with the next one
        exact ih _ _ _ h
      · split
        · -- the line cannot be understood, and nothing more is done
          exact h
        · -- there is no assignment on the line
          exact ih _ _ _ h
        · split
          · -- the value has a NUL in it, so the variable is not set
            exact h
          · -- a variable with a text is not set once more
            exact ih _ _ _ (assign_keeps htext h _)

end Dotenv

namespace Config

variable {project : Path}

/-- **The dotenv file of a project** that is known by an absolute path does the same from everywhere. -/
theorem loadDotenv_movedTo (h : project.isAbsolute = true) (world : World) (place : Place) :
    loadDotenv project (world.movedTo place)
      = ((loadDotenv project world).1, (loadDotenv project world).2.movedTo place) := by
  have hfile : (project.join (.ofString ".env")).isAbsolute = true := Path.isAbsolute_join h
  have hload : ∀ path : Path, path.isAbsolute = true →
      Dotenv.load path (world.movedTo place)
        = ((Dotenv.load path world).1, (Dotenv.load path world).2.movedTo place) := by
    intro path hpath
    unfold Dotenv.load
    rw [World.read_movedTo world place hpath]
    cases world.read path with
    | error error =>
      -- a file that cannot be read is the same from everywhere
      rfl
    | ok content =>
      -- the lines are the same, and they are carried out in the same way
      exact Dotenv.loadLines_movedTo ..
  unfold loadDotenv
  dsimp only
  rw [World.has_movedTo world place hfile]
  split
  · -- the file is there from everywhere
    rw [hload _ hfile]
    cases Dotenv.load (project.join (.ofString ".env")) world with
    | mk result loaded => cases result <;> rfl
  · -- there is no file
    rfl

/-- **Variables that are text** are left alone by a dotenv file. -/
theorem loadDotenv_keeps {world : World} {name value : Bytes} (htext : value.IsText)
    (h : world.environment.get? name = some value) :
    (loadDotenv project world).2.environment.get? name = some value := by
  have hload : ∀ path, (Dotenv.load path world).2.environment.get? name = some value := by
    intro path
    unfold Dotenv.load
    split
    · -- nothing is carried out
      exact h
    · -- none of the lines touches the variable
      exact Dotenv.loadLines_keeps htext _ _ _ _ h
  unfold loadDotenv
  dsimp only
  split
  · -- whatever the load ends with, it has kept the variable
    have hafter := hload (project.join (.ofString ".env"))
    split
    · next hloaded => rwa [hloaded] at hafter
    · next hloaded => rwa [hloaded] at hafter
  · -- there is no file
    exact h

end Config

/-! ### Layers -/

/-- A configuration file with an absolute path has the same settings from everywhere; only how it is
shown may differ. -/
theorem SettingsFile.layer_movedTo (world : World) (place : Place) {file : Path}
    (h : file.isAbsolute = true) :
    (layer (world.movedTo place) file).map Setting.unsourcedEntries
      = (layer world file).map Setting.unsourcedEntries := by
  have hlocate : locate? (world.movedTo place) file = locate? world file := by
    unfold locate?
    rw [if_pos h, if_pos h, World.isFile_movedTo world place h]
  -- an absolute path means the file that it leads to, and no other directory is searched
  have hfound : ∀ {found}, locate? world file = some found → found = file := by
    intro found hfound
    unfold locate? at hfound
    rw [if_pos h] at hfound
    split at hfound
    · -- the path itself is a file
      exact (Option.some.inj hfound).symm
    · -- the path is no file
      cases hfound
  unfold layer
  rw [hlocate]
  split
  · -- there is no such file
    rfl
  · next found hsome =>
    obtain rfl := hfound hsome
    rw [World.readText_movedTo world place h]
    split
    · -- the file cannot be read
      rfl
    · split
      · -- the text is no document
        rfl
      · -- the entries are the same, and only what is said of their place may differ
        show Except.ok _ = Except.ok _
        rw [Toml.unsourcedEntries_fieldSettings, Toml.unsourcedEntries_fieldSettings]

namespace Layer

theorem ofFile_movedTo (world : World) (place : Place) {file : Path} (h : file.isAbsolute = true) :
    (ofFile (world.movedTo place) file).unsourced = (ofFile world file).unsourced := by
  unfold ofFile
  obtain ⟨flaw, hthere, hhere⟩ | ⟨entries, others, hthere, hhere, hsame⟩ :=
    cases_of_map_eq (SettingsFile.layer_movedTo world place h)
  · -- the file gives the same flaw
    rw [hthere, hhere]
  · -- the file gives the same entries
    rw [hthere, hhere]
    exact congrArg Except.ok hsame

theorem ofOptionalFile_movedTo (world : World) (place : Place) {file : Path}
    (h : file.isAbsolute = true) :
    (ofOptionalFile (world.movedTo place) file).map unsourced
      = (ofOptionalFile world file).map unsourced := by
  unfold ofOptionalFile
  rw [World.has_movedTo world place h]
  split
  · -- the file is there from everywhere
    exact congrArg ([·]) (ofFile_movedTo world place h)
  · -- the file is missing from everywhere
    rfl

end Layer

namespace Config

/-- The home directory that the environment names is taken, and not the one on record. -/
theorem isAbsolute_of_homeDirectory? {world : World} (h : world.environment.HasHome) {home : Path}
    (hhome : world.homeDirectory? = some home) : home.isAbsolute = true := by
  obtain ⟨named, hnamed, habsolute⟩ := h
  -- an absolute path is not empty, so it is not passed over
  have hnonempty : (!named.isEmpty) = true := by
    obtain ⟨_ | ⟨b, bytes⟩⟩ := named
    · cases habsolute
    · rfl
  have hgiven : ((world.environment.get? (.ofString "HOME")).map Path.mk).filter (!·.isEmpty)
      = some named := by
    rw [hnamed, Option.map_some, Option.filter_some, if_pos hnonempty]
  unfold World.homeDirectory? at hhome
  dsimp only at hhome
  rw [hgiven] at hhome
  cases hhome
  exact habsolute

/-- The user's file has an absolute path if the home directory has one. -/
theorem isAbsolute_of_userFile? {world : World} (h : world.environment.HasHome) {file : Path}
    (hfile : userFile? world = some file) : file.isAbsolute = true := by
  obtain ⟨directory, hdirectory, rfl⟩ := Option.map_eq_some_iff.mp hfile
  suffices hgoal : directory.isAbsolute = true from Path.isAbsolute_join (Path.isAbsolute_join hgoal)
  unfold userDirectory? at hdirectory
  dsimp only at hdirectory
  split at hdirectory
  · next given hgiven =>
    -- a directory that is given counts only if its path is absolute
    cases hdirectory
    exact (Option.filter_eq_some_iff.mp hgiven).2
  · obtain ⟨home, hhome, rfl⟩ := Option.map_eq_some_iff.mp hdirectory
    exact Path.isAbsolute_join (isAbsolute_of_homeDirectory? h hhome)

theorem userLayer_movedTo {world : World} (h : world.environment.HasHome) (place : Place) :
    (userLayer (world.movedTo place)).map Layer.unsourced
      = (userLayer world).map Layer.unsourced := by
  unfold userLayer
  rw [show userFile? (world.movedTo place) = userFile? world from rfl]
  split
  · next hfile =>
    -- the file of the user has an absolute path
    exact Layer.ofOptionalFile_movedTo world place (isAbsolute_of_userFile? h hfile)
  · -- there is no home, so there is no file of the user
    rfl

theorem projectLayer_movedTo {project : Path} (h : project.isAbsolute = true) (world : World)
    (place : Place) (file : Option Path) :
    (projectLayer (world.movedTo place) project file).map (·.map Layer.unsourced)
      = (projectLayer world project file).map (·.map Layer.unsourced) := by
  unfold projectLayer
  cases file with
  | none =>
    -- the file of the project is where the project is
    exact congrArg Except.ok (Layer.ofOptionalFile_movedTo world place (Path.isAbsolute_join h))
  | some file =>
    -- the file that was asked for is meant from the project
    have hfile : (project.join file).isAbsolute = true := Path.isAbsolute_join h
    dsimp only
    rw [World.isFile_movedTo world place hfile]
    split
    · -- the file is there from everywhere
      exact congrArg (Except.ok [·]) (Layer.ofFile_movedTo world place hfile)
    · -- the file is missing, which is an error
      rfl

/-- **The layers of a project** that is known by an absolute path are the same from everywhere, but for
the sources of the settings, if the home directory is known by an absolute path. -/
theorem layers_movedTo {project : Path} (h : project.isAbsolute = true) {world : World}
    (hhome : world.environment.HasHome) (place : Place) (file : Option Path) :
    (layers (world.movedTo place) project file).map (·.map Layer.unsourced)
      = (layers world project file).map (·.map Layer.unsourced) := by
  unfold layers
  obtain ⟨error, hthere, hhere⟩ | ⟨found, other, hthere, hhere, hsame⟩ :=
    cases_of_map_eq (projectLayer_movedTo h world place file)
  · -- the layer of the project cannot be read
    rw [hthere, hhere]
  · -- both have a layer of the project, and that of the user below it
    rw [hthere, hhere]
    refine congrArg Except.ok ?_
    simp only [List.map_append]
    rw [userLayer_movedTo hhome, hsame]
    rfl

end Config

end SchemaBuild
