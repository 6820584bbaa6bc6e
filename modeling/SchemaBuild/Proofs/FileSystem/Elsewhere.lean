import SchemaBuild.Classpath
import SchemaBuild.Proofs.FileSystem.Absolute
import SchemaBuild.Proofs.Path.Chains
import SchemaBuild.Proofs.Text.Utf8

/-!
# Absolute paths from elsewhere

A run sees files by paths, and only relative ones are taken from the working directory. So what it
finds by an absolute path is the same wherever it was started.

* `World.movedTo` — the same files and the same environment, seen from another directory;
* `World.find_movedTo`, `World.readText_movedTo` and the like — looking at absolute paths;
* `World.exists_parent_of_read` — a path of a file has a directory above it;
* `Classpath.isAbsolute_of_listingEntries` — a listing file with an absolute path lists absolute paths
  only, since its directory is known by one.
-/

namespace SchemaBuild

namespace World

/-- The world with another working directory. -/
def movedTo (world : World) (place : Place) : World := { world with here := place }

variable (world : World) (place : Place) {path : Path}

@[simp] theorem movedTo_files : (world.movedTo place).files = world.files := rfl

@[simp] theorem movedTo_environment : (world.movedTo place).environment = world.environment := rfl

/-- **An absolute path leads to the same object from everywhere.** -/
theorem find_movedTo (h : path.isAbsolute = true) :
    (world.movedTo place).find path = world.find path := by
  have hlocate : world.files.locate place path = world.files.locate world.here path := by
    unfold FileSystem.locate FileSystem.startOf
    rw [if_pos h, if_pos h]
  show world.files.find place path = world.files.find world.here path
  rw [FileSystem.find, FileSystem.find, hlocate]

theorem has_movedTo (h : path.isAbsolute = true) :
    (world.movedTo place).has path = world.has path := by
  rw [has, has, find_movedTo world place h]

theorem isDirectory_movedTo (h : path.isAbsolute = true) :
    (world.movedTo place).isDirectory path = world.isDirectory path := by
  rw [isDirectory, isDirectory, find_movedTo world place h]

theorem isFile_movedTo (h : path.isAbsolute = true) :
    (world.movedTo place).isFile path = world.isFile path := by
  rw [isFile, isFile, find_movedTo world place h]

theorem read_movedTo (h : path.isAbsolute = true) :
    (world.movedTo place).read path = world.read path := by
  rw [read, read, find_movedTo world place h]

theorem readText_movedTo (h : path.isAbsolute = true) :
    (world.movedTo place).readText path = world.readText path := by
  rw [readText, readText, read_movedTo world place h]

/-- The absolute form of an absolute path is taken from nowhere. -/
theorem absolute?_movedTo (h : path.isAbsolute = true) :
    (world.movedTo place).absolute? path = world.absolute? path := by
  rw [absolute?, absolute?, h, if_pos rfl, if_pos rfl]

theorem absolute_movedTo (h : path.isAbsolute = true) :
    (world.movedTo place).absolute path = world.absolute path := by
  rw [absolute_of_isAbsolute _ h, absolute_of_isAbsolute _ h]

end World

/-! ### The directories above a path -/

namespace Path

theorem isAbsolute_of_mem_parentsOf {reversed : List Bytes} {above : Path}
    (h : above ∈ parentsOf .root reversed) : above.isAbsolute = true := by
  induction reversed with
  | nil => cases h
  | cons segment reversed ih =>
    rw [parentsOf] at h
    split at h
    · -- a filler makes no path of its own
      exact ih h
    · obtain rfl | hlater := List.mem_cons.mp h
      · -- it is the path itself
        rfl
      · -- it is one of those above
        exact ih hlater

theorem start_of_isAbsolute {path : Path} (h : path.isAbsolute = true) : path.parts.1 = .root := by
  obtain ⟨first, rest, -, hparts⟩ := path.exists_parts
  rw [hparts, if_pos h]

/-- The directory above an absolute path is known by an absolute path. -/
theorem isAbsolute_of_parent? {path above : Path} (h : path.isAbsolute = true)
    (habove : path.parent? = some above) : above.isAbsolute = true := by
  have hmem : above ∈ path.parents := List.mem_of_mem_head? habove
  rw [parents, start_of_isAbsolute h] at hmem
  exact isAbsolute_of_mem_parentsOf hmem

/-- A path that has no directory above it takes no step away from where it begins. -/
theorem plainSteps_of_no_parent {path : Path} (hnone : path.parent? = none) :
    ∀ step ∈ path.plainSteps, step = .stay := by
  intro step hmem
  by_contra hmove
  -- above its last name there would be a chain, and every chain has a first path
  obtain ⟨reversed, segment, fillers, -, -, -, hparents⟩ := exists_last_name ⟨step, hmem, hmove⟩
  rw [parent?, hparents] at hnone
  cases hnone

/-- A relative path that has no directory above it is empty. -/
theorem isEmpty_of_no_parent {path : Path} (h : path.isAbsolute = false)
    (hnone : path.parent? = none) : path.isEmpty = true := by
  obtain ⟨first, rest, -, hparts⟩ := path.exists_parts
  rw [h, if_neg Bool.false_ne_true] at hparts
  split at hparts
  · -- above a `.` there is always the empty path
    have hlast : ∀ reversed, parentsOf .current reversed ≠ [] := by
      intro reversed
      induction reversed with
      | nil => exact List.cons_ne_nil _ _
      | cons segment reversed ih =>
        rw [parentsOf]
        split
        · exact ih
        · exact List.cons_ne_nil _ _
    rw [parent?, parents, hparts, List.head?_eq_none_iff] at hnone
    exact absurd hnone (hlast _)
  · next hdot =>
    -- the first stretch is not a name, so it is empty, and then there is no other
    have hfiller : isFiller first = true := by
      by_contra hname
      obtain ⟨hstep, hmoves⟩ := stepsOf_singleton (Bool.eq_false_iff.mpr hname)
      refine hmoves (plainSteps_of_no_parent hnone _ ?_)
      rw [plainSteps_eq, hparts, ← List.singleton_append, stepsOf_append, hstep]
      simp
    obtain rfl : first = [] := by simpa [isFiller, hdot] using hfiller
    have hfits := path.parts_fits
    have hbytes := path.assemble_parts
    rw [hparts] at hfits hbytes
    rw [(hfits.plain rfl [] rfl).2 rfl] at hbytes
    rw [← hbytes]
    rfl

end Path

/-! ### Listing files -/

/-- Steps that stay lead nowhere else. -/
theorem FileSystem.walk_of_stay (files : FileSystem) (links : Nat) {steps : List Step}
    (h : ∀ step ∈ steps, step = .stay) : files.walk links .root steps = .ok .root := by
  have hdirectory : files.isDirectoryAtPlace .root = true := by
    show files.isDirectoryAt [] = true
    rw [isDirectoryAt, node?_nil]
    rfl
  induction steps with
  | nil => exact walk_nil files links .root
  | cons step steps ih =>
    obtain ⟨rfl, hrest⟩ := List.forall_mem_cons.mp h
    rw [walk_cons_of_reaches (afterStep_stay hdirectory)]
    exact ih hrest

/-- A path that has no directory above it is no path of a file. -/
theorem World.exists_error_of_no_parent (world : World) {path : Path}
    (hnone : path.parent? = none) : ∃ error, world.read path = .error error := by
  have hsteps : ∀ step ∈ path.steps, step = .stay := by
    obtain ⟨behind, hsplit, hbehind⟩ := path.exists_steps_eq
    intro step hmem
    rw [hsplit] at hmem
    obtain hplain | hlast := List.mem_append.mp hmem
    · -- a step of the path
      exact Path.plainSteps_of_no_parent hnone step hplain
    · -- the slash at the end stays
      exact hbehind step hlast
  unfold World.read World.find FileSystem.find FileSystem.locate
  cases hpath : FileSystem.pathError? path with
  | some error =>
    -- the path cannot be followed
    exact ⟨error, rfl⟩
  | none =>
    -- the empty path is none that can be looked at, so this one leads to the root, a directory
    have habsolute : path.isAbsolute = true := by
      by_contra hrelative
      have hempty := Path.isEmpty_of_no_parent (Bool.eq_false_iff.mpr hrelative) hnone
      rw [FileSystem.pathError?, hempty, if_pos rfl] at hpath
      split at hpath <;> cases hpath
    dsimp only
    rw [FileSystem.startOf, if_pos habsolute, world.files.walk_of_stay linkLimit hsteps]
    dsimp only [Place.root]
    rw [FileSystem.node?_nil]
    exact ⟨.isDirectory, rfl⟩

/-- **Above a file** there is a directory. -/
theorem World.exists_parent_of_read {world : World} {path : Path} {content : Bytes}
    (h : world.read path = .ok content) : ∃ above, path.parent? = some above := by
  rw [← Option.ne_none_iff_exists']
  intro hnone
  obtain ⟨error, herror⟩ := world.exists_error_of_no_parent hnone
  rw [h] at herror
  cases herror

/-- What is read as text is the encoding of that text. -/
theorem World.readText_eq_ok_iff {world : World} {path : Path} {text : String} :
    world.readText path = .ok text ↔ world.read path = .ok (.ofString text) := by
  unfold readText
  cases hread : world.read path with
  | error error =>
    -- the file cannot be read
    exact iff_of_false nofun nofun
  | ok content =>
    dsimp only
    rw [Except.ok.injEq, ← Bytes.toString?_eq_some_iff]
    cases content.toString? with
    | none =>
      -- the content is no text
      exact iff_of_false nofun nofun
    | some found => rw [Except.ok.injEq, Option.some.injEq]

/-- **A listing file with an absolute path lists absolute paths only.** -/
theorem Classpath.isAbsolute_of_listingEntries {world : World} {file : Path} {entries : List Path}
    (h : file.isAbsolute = true) (hentries : listingEntries world file = .ok entries) :
    ∀ entry ∈ entries, entry.isAbsolute = true := by
  unfold listingEntries at hentries
  split at hentries
  · next text hread =>
    -- the entries are meant from the directory of the listing file, which is absolute
    cases hentries
    have hbase : (listingBase file).isAbsolute = true := by
      obtain ⟨above, hparent⟩ := World.exists_parent_of_read (World.readText_eq_ok_iff.mp hread)
      rw [listingBase, hparent]
      exact Path.isAbsolute_of_parent? h hparent
    intro entry hmem
    obtain ⟨line, -, hline⟩ := List.mem_filterMap.mp hmem
    obtain ⟨found, -, rfl⟩ := Option.map_eq_some_iff.mp hline
    exact Path.isAbsolute_join hbase
  · -- the listing file cannot be read
    cases hentries

end SchemaBuild
