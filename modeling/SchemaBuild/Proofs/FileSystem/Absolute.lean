import SchemaBuild.Proofs.FileSystem.Entries
import SchemaBuild.Proofs.Path.Absolute

/-!
# Where the absolute form leads

The absolute form of a path leads from every working directory to where the path leads from the one
that the form was made in. A step that stays can be left out of a walk, and the form leaves it out. A
step up cannot: behind a symbolic link it does not take back the step before it, and the form keeps
it. In front of the steps of a relative path stand the names of the working directory, and on their
way no link is followed.

Only its length can keep the form from leading there: a path of `pathLimit` bytes is not followed.

* `FileSystem.Spells` — a path leads to a directory, and follows no link on the way;
* `FileSystem.locate_absoluteFrom` — the absolute form behind such a path;
* `World.Placed` — the working directory is there, or it has been removed;
* `World.locate_absolute_iff` — the absolute form in a world leads where the path leads exactly if
  it is not too long;
* `World.find_absolute` — so it leads to the same object.
-/

namespace SchemaBuild

/-- A name that an entry of a directory can have. -/
structure Path.IsEntryName (name : Bytes) : Prop where
  ne_nil : name ≠ []
  length_le : name.length ≤ nameLimit
  noSlash : Path.slash ∉ name
  noNul : 0 ∉ name
  ne_dot : name ≠ Path.dot
  ne_dotDot : name ≠ Path.dotDot

namespace FileSystem

variable {files : FileSystem}

/-! ### Bases -/

/-- The path leads from the root to the directory `start`, and follows no link on the way. -/
structure Spells (files : FileSystem) (base : Path) (start : Place) : Prop where
  isAbsolute : base.isAbsolute = true
  noNul : 0 ∉ base.bytes
  directory : files.isDirectoryAtPlace start = true
  walk (links : Nat) (more : List Step) :
    files.walk links .root (base.plainSteps ++ more) = files.walk links start more

/-- One slash, and two of them, lead to the root. -/
theorem spells_root (files : FileSystem) : files.Spells ⟨[Path.slash]⟩ .root where
  isAbsolute := rfl
  noNul := by decide
  directory := rfl
  walk _ _ := rfl

theorem spells_doubleRoot (files : FileSystem) : files.Spells ⟨[Path.slash, Path.slash]⟩ .root where
  isAbsolute := rfl
  noNul := by decide
  directory := rfl
  walk _ _ := rfl

/-- What is above a directory is a directory. -/
theorem exists_directory_above {above below : Location}
    (h : files.isDirectoryAt (above ++ below) = true) :
    ∃ entries, files.node? above = some (.directory entries) := by
  obtain ⟨entries, hnode⟩ := kind?_eq_directory_iff.mp (isDirectoryAt_iff.mp h)
  exact Node.at?_above_directory hnode

/-- Entering directories, each in the one before it. -/
theorem walk_enter_all {above below : Location}
    (hdirectory : files.isDirectoryAt (above ++ below) = true)
    (hnames : ∀ name ∈ below, name.length ≤ nameLimit) (links : Nat) (more : List Step) :
    files.walk links (.located above) (below.map .enter ++ more)
      = files.walk links (.located (above ++ below)) more := by
  induction below generalizing above with
  | nil =>
    -- no step is left
    simp
  | cons name below ih =>
    -- the first name leads to a directory, and the others are entered from there
    have hname := hnames name List.mem_cons_self
    rw [List.append_cons] at hdirectory ⊢
    obtain ⟨entries, hnext⟩ := exists_directory_above hdirectory
    have habove : files.isDirectoryAt above = true := by
      rw [List.append_assoc] at hdirectory
      obtain ⟨_, habove⟩ := exists_directory_above hdirectory
      exact isDirectoryAt_of_node habove
    rw [← ih hdirectory fun other h => hnames other (List.mem_cons_of_mem _ h), List.map_cons,
      List.cons_append, walk_cons_of_reaches (afterStep_enter habove hname hnext nofun)]

/-- The path of a location enters its names. -/
theorem plainSteps_pathOf {location : Location}
    (hnames : ∀ name ∈ location, Path.IsEntryName name) :
    (World.pathOf location).plainSteps = location.map .enter := by
  cases location with
  | nil =>
    -- the root has no names
    rfl
  | cons first rest =>
    -- the stretches between the slashes are the names
    have hsplit : Bytes.split Path.slash ([] ++ (first :: rest).flatMap (Path.slash :: ·))
        = [] :: first :: rest :=
      Bytes.split_flatMap (fun name h => (hnames name h).noSlash) List.not_mem_nil
    have hsegments : (World.pathOf (first :: rest)).segments = [] :: first :: rest := hsplit
    have hfilter : (first :: rest).filter (!·.isEmpty) = first :: rest :=
      List.filter_eq_self.mpr fun name h => by simpa using (hnames name h).ne_nil
    rw [Path.plainSteps, hsegments, List.filter_cons_of_neg (by simp), hfilter]
    refine List.map_congr_left fun name h => ?_
    rw [Step.ofSegment, if_neg (hnames name h).ne_dot, if_neg (hnames name h).ne_dotDot]

/-- **The path of a location** leads there, if it is a directory. -/
theorem spells_pathOf {location : Location} (hdirectory : files.isDirectoryAt location = true)
    (hnames : ∀ name ∈ location, Path.IsEntryName name) :
    files.Spells (World.pathOf location) (.located location) where
  isAbsolute := by cases location <;> rfl
  noNul := by
    intro hmem
    rw [World.pathOf] at hmem
    split at hmem
    · -- the root is written with a slash only
      exact absurd hmem (by decide)
    · -- no name has a NUL in it, and no slash is one
      obtain ⟨name, hname, hzero⟩ := List.mem_flatMap.mp hmem
      obtain hslash | hzero := List.mem_cons.mp hzero
      · exact absurd hslash (by decide)
      · exact (hnames name hname).noNul hzero
  directory := hdirectory
  walk links more := by
    rw [plainSteps_pathOf hnames]
    have hlengths : ∀ name ∈ location, name.length ≤ nameLimit := fun name h =>
      (hnames name h).length_le
    exact walk_enter_all hdirectory hlengths links more

/-- The base of an absolute form leads to where the path begins. -/
theorem spells_baseFrom {here : Place} {base path : Path}
    (hbase : path.isAbsolute = false → files.Spells base here) :
    files.Spells (Path.baseFrom base path) (startOf here path) := by
  rw [Path.baseFrom, startOf]
  split
  · -- an absolute path starts at its root
    split
    · exact spells_doubleRoot files
    · exact spells_root files
  · next habsolute =>
    -- a relative one starts where the base leads to
    exact hbase (by simpa using habsolute)

/-! ### The absolute form behind a base -/

section Form

variable {here start goal : Place} {base path : Path}

/-- Staying where a directory is. -/
theorem walk_stay (h : files.isDirectoryAtPlace start = true) (links : Nat) :
    files.walk links start [.stay] = .ok start := by
  rw [walk_cons_of_reaches (afterStep_stay h), walk_nil]

/-- The walk along the absolute form is the one along the base and then the one along the path. -/
theorem walk_absoluteFrom (hbase : files.Spells (Path.baseFrom base path) start) {links : Nat}
    (habsolute : path.isAbsolute = true ∨ base.isAbsolute = true)
    (h : files.walk links start path.steps = .ok goal) :
    files.walk links .root (Path.absoluteFrom base path).steps = .ok goal := by
  rw [Path.steps, Path.plainSteps_absoluteFrom, List.append_assoc, hbase.walk]
  have hleft := StaysLeftOut.filter path.plainSteps
  cases hslash : path.endsInSlash with
  | true =>
    -- both end in a slash, and the step for it is kept
    rw [Path.endsInSlash_absoluteFrom habsolute hslash, if_pos rfl]
    rw [Path.steps, hslash, if_pos rfl] at h
    exact walk_of_staysLeftOut (hleft.append (.refl _)) h
  | false =>
    rw [Path.steps, hslash, if_neg Bool.false_ne_true, List.append_nil] at h
    have hplain := walk_of_staysLeftOut hleft h
    split
    · next hend =>
      -- the form is all base, and the path stays where it begins
      have hnames := Path.names_eq_nil_of_endsInSlash hslash hend
      rw [← Path.names_map_ofSegment, hnames] at hplain ⊢
      have hstart : files.walk links start [] = .ok start := by cases links <;> rfl
      rw [List.map_nil, hstart] at hplain
      rw [List.map_nil, List.nil_append, walk_stay hbase.directory]
      exact hplain
    · rwa [List.append_nil]

/-- **The absolute form behind a base** leads where the path leads, unless it is too long. -/
theorem locate_absoluteFrom (hbase : files.Spells (Path.baseFrom base path) (startOf here path))
    (habsolute : path.isAbsolute = true ∨ base.isAbsolute = true)
    (h : files.locate here path = .ok goal)
    (hlength : (Path.absoluteFrom base path).bytes.length < pathLimit) (there : Place) :
    files.locate there (Path.absoluteFrom base path) = .ok goal := by
  have hform := Path.isAbsolute_absoluteFrom habsolute
  have hfine := pathError?_of_locate h
  obtain ⟨hnoNul, -, -⟩ := pathError?_eq_none_iff.mp hfine
  have herror : pathError? (Path.absoluteFrom base path) = none := by
    obtain ⟨behind, hbytes, hbehind⟩ := Path.exists_absoluteFrom_bytes base path
    refine pathError?_eq_none_iff.mpr ⟨?_, ?_, hlength⟩
    · -- the bytes are those of the base and of the path
      rw [hbytes]
      intro hzero
      obtain hzero | hzero := List.mem_append.mp hzero
      · exact hbase.noNul hzero
      · obtain hslash | hzero := hbehind 0 hzero
        · exact absurd hslash (by decide)
        · exact hnoNul hzero
    · -- the form begins with a slash, so it is not empty
      obtain ⟨rest, hrest⟩ := Path.exists_of_isAbsolute hform
      simp [hrest]
  rw [locate, hfine] at h
  rw [locate, herror, startOf, if_pos hform]
  exact walk_absoluteFrom hbase habsolute h

end Form

end FileSystem

/-! ### Absolute forms in a world -/

namespace World

variable {world : World} {path : Path} {goal : Place} {location : Location}

/-- The working directory is there, with names that entries can have, or it has been removed. -/
def Placed (world : World) : Prop :=
  ∀ location, world.here = .located location →
    world.files.isDirectoryAt location = true ∧ ∀ name ∈ location, Path.IsEntryName name

theorem isEmpty_of_locate (h : world.files.locate world.here path = .ok goal) :
    path.isEmpty = false := by
  obtain ⟨-, hne, -⟩ := FileSystem.pathError?_eq_none_iff.mp (FileSystem.pathError?_of_locate h)
  simpa [Path.isEmpty] using hne

theorem isEmpty_of_isAbsolute (h : path.isAbsolute = true) : path.isEmpty = false := by
  obtain ⟨rest, hrest⟩ := Path.exists_of_isAbsolute h
  rw [Path.isEmpty, hrest]
  rfl

theorem absolute_of_isAbsolute (world : World) (h : path.isAbsolute = true) :
    world.absolute path = Path.absoluteFrom ⟨[]⟩ path := by
  rw [absolute, absolute?, isEmpty_of_isAbsolute h, if_neg Bool.false_ne_true, if_pos h]

theorem absolute_of_located (hhere : world.here = .located location) (hne : path.isEmpty = false)
    (h : path.isAbsolute = false) : world.absolute path = Path.absoluteFrom (pathOf location) path := by
  rw [absolute, absolute?, hne, h, if_neg Bool.false_ne_true, if_neg Bool.false_ne_true,
    currentDirectory, hhere]
  rfl

/-- From a removed working directory a relative path has no absolute form, and stays as it is. -/
theorem absolute_of_removed {above : Location} {depth : Nat}
    (hhere : world.here = .removed above depth) (h : path.isAbsolute = false) :
    world.absolute path = path := by
  rw [absolute, absolute?, h, if_neg Bool.false_ne_true, currentDirectory, hhere]
  split
  · next hsome => split at hsome <;> cases hsome
  · rfl

theorem isAbsolute_currentDirectory (h : world.currentDirectory = .ok path) :
    path.isAbsolute = true := by
  unfold currentDirectory at h
  split at h
  · next location _ =>
    -- the working directory is spelled from the root
    cases h
    cases location <;> rfl
  · -- the working directory was removed
    cases h

/-- What has an absolute form has an absolute one. -/
theorem isAbsolute_of_absolute? {root : Path} (h : world.absolute? path = .ok root) :
    root.isAbsolute = true := by
  unfold absolute? at h
  split at h
  · -- the empty path has no absolute form
    cases h
  · split at h
    · next habsolute =>
      -- an absolute path is its own base
      cases h
      exact Path.isAbsolute_absoluteFrom (.inl habsolute)
    · -- a relative one is meant from the working directory
      cases hhere : world.currentDirectory with
      | error error =>
        rw [hhere] at h
        cases h
      | ok here =>
        rw [hhere] at h
        cases h
        exact Path.isAbsolute_absoluteFrom (.inr (isAbsolute_currentDirectory hhere))

/-- The absolute form of an absolute path leads where the path leads. -/
theorem locate_absolute_of_isAbsolute (h : path.isAbsolute = true)
    (hlocate : world.files.locate world.here path = .ok goal) (there : Place) :
    world.files.locate there (world.absolute path) = .ok goal := by
  have hlength := Path.length_absoluteFrom_le_of_isAbsolute ⟨[]⟩ h
  have hbase : world.files.Spells (Path.baseFrom ⟨[]⟩ path) (FileSystem.startOf world.here path) :=
    FileSystem.spells_baseFrom fun hrelative => by
      rw [h] at hrelative
      cases hrelative
  rw [absolute_of_isAbsolute world h]
  exact FileSystem.locate_absoluteFrom hbase (.inl h) hlocate
    (Nat.lt_of_le_of_lt hlength (FileSystem.length_lt_of_locate hlocate)) there

/-- The absolute form of a relative path leads, if it is not too long, where the path leads. -/
theorem locate_absolute_of_located (hplaced : world.Placed) (hhere : world.here = .located location)
    (hlocate : world.files.locate world.here path = .ok goal)
    (hlength : (world.absolute path).bytes.length < pathLimit) (there : Place) :
    world.files.locate there (world.absolute path) = .ok goal := by
  cases habsolute : path.isAbsolute with
  | true =>
    -- an absolute path leads to the same from everywhere
    exact locate_absolute_of_isAbsolute habsolute hlocate there
  | false =>
    -- a relative one leads on from the working directory, which the form spells out
    obtain ⟨hdirectory, hnames⟩ := hplaced location hhere
    have hspells := FileSystem.spells_pathOf hdirectory hnames
    rw [absolute_of_located hhere (isEmpty_of_locate hlocate) habsolute] at hlength ⊢
    refine FileSystem.locate_absoluteFrom (FileSystem.spells_baseFrom fun _ => ?_)
      (.inr hspells.isAbsolute) hlocate hlength there
    rw [hhere]
    exact hspells

/-- **The absolute form leads where the path leads**, from every working directory, exactly if it is
not too long. -/
theorem locate_absolute_iff (hplaced : world.Placed) (hhere : world.here = .located location)
    (hlocate : world.files.locate world.here path = .ok goal) :
    (∀ there, world.files.locate there (world.absolute path)
        = world.files.locate world.here path)
      ↔ (world.absolute path).bytes.length < pathLimit := by
  constructor
  · -- what can be reached has a path that is short enough
    intro hsame
    have hform := (hsame world.here).trans hlocate
    exact FileSystem.length_lt_of_locate hform
  · -- a path that is short enough leads there, wherever it is followed
    intro hlength there
    rw [hlocate]
    exact locate_absolute_of_located hplaced hhere hlocate hlength there

/-- The absolute form leads to the same object, also if the working directory has been removed. -/
theorem find_absolute (hplaced : world.Placed) {node : Node} (hfind : world.find path = .ok node)
    (hlength : (world.absolute path).bytes.length < pathLimit) :
    world.find (world.absolute path) = .ok node := by
  obtain ⟨goal, hlocate⟩ := FileSystem.exists_locate_of_find hfind
  have hform : world.files.locate world.here (world.absolute path) = .ok goal := by
    cases habsolute : path.isAbsolute with
    | true =>
      -- an absolute path leads to the same from everywhere
      exact locate_absolute_of_isAbsolute habsolute hlocate world.here
    | false =>
      -- the working directory has a path
      cases hhere : world.here with
      | located location =>
        rw [← hhere]
        exact locate_absolute_of_located hplaced hhere hlocate hlength world.here
      | removed above depth =>
        -- the working directory was removed, and the path stays as it is
        rw [absolute_of_removed hhere habsolute, ← hhere]
        exact hlocate
  rw [find, FileSystem.find, hlocate] at hfind
  rw [find, FileSystem.find, hform]
  exact hfind

end World

end SchemaBuild
