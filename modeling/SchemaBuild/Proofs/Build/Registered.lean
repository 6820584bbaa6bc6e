import SchemaBuild.Build.Roots
import SchemaBuild.Proofs.Build.Output
import SchemaBuild.Proofs.FileSystem.Absolute
import SchemaBuild.Proofs.Roots.Distinct

/-!
# Registered output directories

What is known of a directory once it is registered as a source root: it is there, and it is registered
by a path that leads to it from everywhere. The empty path is the exception to both. Nothing is made
for it, it has no absolute form, and it is registered all the same.

Calls that make and register directories, one after the other on one set of roots, meet in the file
system: a directory that one call makes is there for the next one, and a call may fail after it has
made some of the directories that it needs.

* `ensureAndRegister_delivers` — the directory is there and its root is absolute exactly if the path
  is not empty;
* `RootSet.step_cases` — all that one call can do to a site with a set of roots;
* `RootSet.ensureAndRegister_again` — a call that succeeded changes nothing when it is repeated;
* `RootSet.Accounts` — what a sequence of calls has done, told from the paths, and
  `RootSet.accounts_afterCalls`, that it is so for every sequence.
-/

namespace SchemaBuild

variable {τ : Type} {path : Path} {before after : Site τ} {location : Location}

/-! ### What is there, and from where -/

namespace World

variable {world : World}

/-- The empty path leads nowhere. -/
theorem has_of_isEmpty (world : World) (h : path.isEmpty = true) : world.has path = false := by
  obtain ⟨bytes⟩ := path
  obtain rfl : bytes = [] := List.isEmpty_iff.mp h
  rfl

/-- The empty path has no absolute form, and stays as it is. -/
theorem absolute_of_isEmpty (world : World) (h : path.isEmpty = true) :
    world.absolute path = path := by
  rw [absolute, absolute?, if_pos h]

/-- Every other path has an absolute form, if the working directory is there. -/
theorem absolute?_eq_ok (hhere : world.here = .located location) (hne : path.isEmpty = false) :
    world.absolute? path = .ok (world.absolute path) := by
  have hcurrent : world.currentDirectory = .ok (pathOf location) := by
    rw [currentDirectory, hhere]
  have hform : ∃ root, world.absolute? path = .ok root := by
    rw [absolute?, hne, if_neg Bool.false_ne_true, hcurrent]
    -- whether the path is absolute or not, it has a form
    split
    · exact ⟨_, rfl⟩
    · exact ⟨_, rfl⟩
  obtain ⟨root, hroot⟩ := hform
  rw [absolute, hroot]

/-- What takes the place of the absolute form is absolute, unless the path is empty. -/
theorem isAbsolute_absolute_iff (hhere : world.here = .located location) :
    (world.absolute path).isAbsolute = true ↔ path.isEmpty = false := by
  constructor
  · -- the empty path has no absolute form
    intro habsolute
    cases hempty : path.isEmpty with
    | false => rfl
    | true =>
      rw [absolute_of_isEmpty world hempty] at habsolute
      rw [isEmpty_of_isAbsolute habsolute] at hempty
      cases hempty
  · -- any other path has one
    intro hne
    exact isAbsolute_of_absolute? (absolute?_eq_ok hhere hne)

/-- Absolute forms are made in the working directory, and nothing else of a world counts. -/
theorem absolute_congr {other : World} (h : other.here = world.here) (path : Path) :
    other.absolute path = world.absolute path := by
  have hform : other.absolute? path = world.absolute? path := by
    rw [absolute?, absolute?, currentDirectory, currentDirectory, h]
  rw [absolute, absolute, hform]

/-- What is there is still there when directories were added. -/
theorem has_of_grows {grown : World} (hfiles : world.files.Grows grown.files)
    (hhere : grown.here = world.here) (h : world.has path = true) : grown.has path = true := by
  unfold has find FileSystem.find at h ⊢
  rw [hhere]
  cases hlocate : world.files.locate world.here path with
  | error error =>
    -- what cannot be reached is not there
    rw [hlocate] at h
    cases h
  | ok place =>
    rw [hlocate] at h
    rw [hfiles.locate_eq_ok hlocate]
    cases place with
    | removed above depth =>
      -- the directory above a removed one is there, whatever grows
      rfl
    | located goal =>
      dsimp only at h ⊢
      -- what stands at the end of the walk has kept its kind
      cases hnode : world.files.node? goal with
      | none =>
        rw [hnode] at h
        cases h
      | some node =>
        have hkind : world.files.kind? goal = some node.kind := by
          rw [FileSystem.kind?, hnode]
          rfl
        obtain ⟨grownNode, hgrown, -⟩ := Option.map_eq_some_iff.mp (hfiles.kept hkind)
        rw [hgrown]
        rfl

end World

/-! ### One call on any registry -/

/-- **What registering a directory delivers.** When it succeeds the registry was asked, and it was
asked for the absolute form in a site where the directory was made. There the path leads to something,
and the form is absolute, exactly if the path is not empty. What the path leads to is still there
afterwards if the registry takes nothing away. -/
theorem ensureAndRegister_delivers {register : Path → Task (Site τ) IoError Unit}
    (hhere : before.world.here = .located location)
    (h : ensureAndRegister register path before = (.ok (), after)) :
    ∃ prepared : Site τ,
      register (prepared.world.absolute path) prepared = (.ok (), after) ∧
      (prepared.world.has path = true ↔ path.isEmpty = false) ∧
      ((prepared.world.absolute path).isAbsolute = true ↔ path.isEmpty = false) ∧
      (path.isEmpty = false → prepared.world.files.Grows after.world.files →
        after.world.here = prepared.world.here → after.world.has path = true) := by
  obtain ⟨error, -, hresult⟩ | ⟨prepared, hensure, hregister⟩ := ensureAndRegister_cases h
  · -- no directory is there, so the call has not succeeded
    cases hresult
  · obtain ⟨error, -, hresult⟩ | ⟨hregister, -⟩ := hregister
    · -- the root is not registered, so the call has not succeeded
      cases hresult
    · have hplace : prepared.world.here = .located location := by
        obtain ⟨-, hsite⟩ := ensureDirectory_adds hensure
        rw [hsite]
        exact hhere
      have hthere : prepared.world.has path = true ↔ path.isEmpty = false := by
        constructor
        · -- the empty path leads nowhere
          intro hhas
          cases hempty : path.isEmpty with
          | false => rfl
          | true =>
            rw [prepared.world.has_of_isEmpty hempty] at hhas
            cases hhas
        · -- what was made or was there is the path
          intro hne
          exact has_of_ensureDirectory hne hensure
      refine ⟨prepared, hregister, hthere, World.isAbsolute_absolute_iff hplace, ?_⟩
      intro hne hgrows hkeptHere
      exact World.has_of_grows hgrows hkeptHere (hthere.mpr hne)

namespace RootSet

/-- Registering in the set that is kept beside a world. -/
def registering : Path → Task (Site RootSet) IoError Unit :=
  task (·.kept) fun site kept => { site with kept }

/-- A site with nothing in it, and no roots. -/
def vacantSite : Site RootSet where
  world :=
    { files := .empty
      environment := ⟨[]⟩
      here := .root
      started := [] }
  kept := .empty

/-- A path that goes up from a directory that has to be made first. -/
def upwardPath : Path := .ofString "new/../gen//"

/-- What is delivered for it. -/
theorem ensureAndRegister_delivers_upwardPath :
    vacantSite.world.here = .located [] ∧
      (ensureAndRegister registering upwardPath vacantSite).1 = .ok () ∧
      ∃ prepared : Site RootSet,
        registering (prepared.world.absolute upwardPath) prepared
          = (.ok (), (ensureAndRegister registering upwardPath vacantSite).2) ∧
        prepared.world.has upwardPath = true ∧
        (prepared.world.absolute upwardPath).isAbsolute = true := by
  have hhere : vacantSite.world.here = .located [] := rfl
  have hresult : (ensureAndRegister registering upwardPath vacantSite).1 = .ok () := rfl
  obtain ⟨prepared, hregister, hthere, habsolute, -⟩ :=
    ensureAndRegister_delivers hhere (Prod.ext hresult rfl)
  exact ⟨hhere, hresult, prepared, hregister, hthere.mpr rfl, habsolute.mpr rfl⟩

/-- **The empty path is registered without a directory**, and by no absolute path. -/
theorem registered_without_directory :
    ¬∀ (register : Path → Task (Site RootSet) IoError Unit) (path : Path)
      (before after : Site RootSet) (location : Location),
      before.world.here = .located location → before.world.files.isDirectoryAt location = true →
      ensureAndRegister register path before = (.ok (), after) →
      after.world.has path = true ∧ ∃ prepared : Site RootSet,
        register (prepared.world.absolute path) prepared = (.ok (), after) ∧
        (prepared.world.absolute path).isAbsolute = true := by
  intro hdelivered
  have hcall : ensureAndRegister registering ⟨[]⟩ vacantSite
      = (.ok (), ⟨vacantSite.world, ⟨[⟨[]⟩]⟩⟩) := rfl
  obtain ⟨hhas, -⟩ := hdelivered registering ⟨[]⟩ vacantSite _ [] rfl rfl hcall
  rw [World.has_of_isEmpty _ rfl] at hhas
  cases hhas

/-! ### One call on a set of roots -/

section Step

variable {before after : Site RootSet} {result : Except BuildError Unit}

/-- **All that one call can do.** Either way it adds directories that are named by prefixes of its
path, and nothing else of the world changes. A call that succeeds registers the absolute form, and a
call that fails names the directory and leaves the set as it is. -/
theorem step_cases (h : ensureAndRegister registering path before = (result, after)) :
    before.world.files.Adds after.world.files before.world.here (path :: path.parents) ∧
      after.world = { before.world with files := after.world.files } ∧
      ((result = .ok () ∧ after.kept = before.kept.register (before.world.absolute path)) ∨
        (∃ io, result = .error (.directory path io)) ∧ after.kept = before.kept) := by
  obtain ⟨error, hensure, rfl⟩ | ⟨prepared, hensure, hregister⟩ := ensureAndRegister_cases h
  · -- the directory could not be made
    obtain ⟨hadds, hsite⟩ := ensureDirectory_adds hensure
    obtain ⟨⟨io, rfl⟩, -, hkept⟩ := ensureDirectory_error hensure
    exact ⟨hadds, congrArg (·.world) hsite, .inr ⟨⟨io, rfl⟩, hkept⟩⟩
  · -- the directory is there, and its form was not changed by making it
    obtain ⟨hadds, hsite⟩ := ensureDirectory_adds hensure
    have hworld : prepared.world = { before.world with files := prepared.world.files } :=
      congrArg (·.world) hsite
    have hform : prepared.world.absolute path = before.world.absolute path := by
      apply World.absolute_congr
      rw [hworld]
    obtain ⟨error, hrefused, -⟩ | ⟨hregistered, rfl⟩ := hregister
    · -- a set refuses nothing
      cases hrefused
    · cases hregistered
      refine ⟨hadds, hworld, .inl ⟨rfl, ?_⟩⟩
      dsimp only
      rw [hform, hsite]

/-- The set is as it was after a call that fails. -/
theorem kept_of_error {error : BuildError}
    (h : ensureAndRegister registering path before = (.error error, after)) :
    after.kept = before.kept := by
  obtain ⟨-, -, ⟨hresult, -⟩ | ⟨-, hkept⟩⟩ := step_cases h
  · cases hresult
  · exact hkept

theorem absolute_of_step (h : ensureAndRegister registering path before = (result, after))
    (other : Path) : after.world.absolute other = before.world.absolute other := by
  obtain ⟨-, hworld, -⟩ := step_cases h
  apply World.absolute_congr
  rw [hworld]

/-- Nothing is made for the empty path, and that is no failure. -/
theorem ensureDirectory_of_isEmpty (hempty : path.isEmpty = true) (site : Site RootSet) :
    ensureDirectory path site = (.ok (), site) := by
  have hmade : site.world.makeDirectories path = (.ok (), site.world) := by
    rw [World.makeDirectories, FileSystem.makeDirectories, FileSystem.makeChain_of_isEmpty hempty]
  rw [ensureDirectory, site.world.has_of_isEmpty hempty, hmade]
  rfl

/-- **A call that succeeded changes nothing when it is made once more.** -/
theorem ensureAndRegister_again
    (h : ensureAndRegister registering path before = (.ok (), after)) :
    ensureAndRegister registering path after = (.ok (), after) := by
  have hready : ensureDirectory path after = (.ok (), after) := by
    cases hempty : path.isEmpty with
    | true => exact ensureDirectory_of_isEmpty hempty after
    | false =>
      -- the directory is there now, and nothing is made where something is
      obtain ⟨error, -, hresult⟩ | ⟨prepared, hensure, hregister⟩ := ensureAndRegister_cases h
      · -- the first call has succeeded, so the directory was made
        cases hresult
      · obtain ⟨error, hrefused, -⟩ | ⟨hregistered, -⟩ := hregister
        · -- it has succeeded, so the root was registered
          cases hrefused
        · cases hregistered
          have hthere : prepared.world.has path = true := has_of_ensureDirectory hempty hensure
          rw [ensureDirectory, if_pos hthere]
  obtain ⟨-, -, ⟨-, hkept⟩ | ⟨⟨io, hresult⟩, -⟩⟩ := step_cases h
  · -- the root is known, and a known root changes nothing
    have hknown : after.kept.register (after.world.absolute path) = after.kept := by
      apply register_of_contains
      rw [hkept, absolute_of_step h]
      exact contains_register before.kept _
    rw [ensureAndRegister, hready]
    dsimp only [registering, task]
    rw [hknown]
  · cases hresult

end Step

/-! ### Calls one after the other -/

/-- The site after calls for these paths, one after the other. -/
def afterCalls (site : Site RootSet) : List Path → Site RootSet
  | [] => site
  | path :: paths => afterCalls (ensureAndRegister registering path site).2 paths

/-- The paths whose calls succeed, in their order. -/
def succeeded (site : Site RootSet) : List Path → List Path
  | [] => []
  | path :: paths =>
    let later := succeeded (ensureAndRegister registering path site).2 paths
    if (ensureAndRegister registering path site).1.isOk then path :: later else later

/-- Calls add directories that are named by prefixes of their paths, and nothing else of the world
changes. -/
theorem afterCalls_adds (site : Site RootSet) (paths : List Path) :
    site.world.files.Adds (afterCalls site paths).world.files site.world.here
        (paths.flatMap fun path => path :: path.parents) ∧
      (afterCalls site paths).world
        = { site.world with files := (afterCalls site paths).world.files } := by
  induction paths generalizing site with
  | nil => exact ⟨.refl _ _ _, rfl⟩
  | cons path paths ih =>
    rw [List.flatMap_cons, afterCalls]
    cases hcall : ensureAndRegister registering path site with
    | mk result next =>
      obtain ⟨hfirst, hworld, -⟩ := step_cases hcall
      obtain ⟨hlater, hrest⟩ := ih next
      -- the later calls are made in the same working directory
      have hhere : next.world.here = site.world.here := by rw [hworld]
      rw [hhere] at hlater
      rw [hworld] at hrest
      constructor
      · apply FileSystem.Adds.trans
        · -- what the first call adds is named by its path
          exact hfirst.mono (List.subset_append_left _ _)
        · exact hlater.mono (List.subset_append_right _ _)
      · -- the rest of the world is left alone by all calls
        exact hrest

/-- **The set after calls** holds the first spellings of the absolute forms of the paths whose calls
succeeded, behind those that it held before. -/
theorem afterCalls_roots {site : Site RootSet} {earlier : List Path}
    (h : site.kept.roots = Path.distinct earlier) (paths : List Path) :
    (afterCalls site paths).kept.roots
      = Path.distinct (earlier ++ (succeeded site paths).map site.world.absolute) := by
  -- the earlier paths grow along the calls
  induction paths generalizing site earlier with
  | nil =>
    rw [succeeded, List.map_nil, List.append_nil]
    exact h
  | cons path paths ih =>
    rw [afterCalls, succeeded]
    cases hcall : ensureAndRegister registering path site with
    | mk result next =>
      have hform : next.world.absolute = site.world.absolute := funext (absolute_of_step hcall)
      obtain ⟨-, -, ⟨rfl, hkept⟩ | ⟨⟨io, rfl⟩, hkept⟩⟩ := step_cases hcall
      · -- the call has succeeded, and its root is registered behind the earlier ones
        have hnext : next.kept.roots
            = Path.distinct (earlier ++ [site.world.absolute path]) := by
          rw [hkept]
          exact register_distinct h _
        have hrest := ih hnext
        rw [hform, List.append_assoc] at hrest
        exact hrest
      · -- the call has failed, and the set stays
        rw [← hkept] at h
        have hrest := ih h
        rw [hform] at hrest
        exact hrest

/-- The call for the empty path succeeds wherever it is made. -/
theorem mem_succeeded_of_isEmpty {site : Site RootSet} {paths : List Path}
    (hempty : path.isEmpty = true) (hmem : path ∈ paths) : path ∈ succeeded site paths := by
  induction paths generalizing site with
  | nil => cases hmem
  | cons first paths ih =>
    rw [succeeded]
    obtain rfl | hlater := List.mem_cons.mp hmem
    · -- the call for the empty path succeeds, and nothing is made
      have hresult : (ensureAndRegister registering path site).1.isOk = true := by
        rw [ensureAndRegister, ensureDirectory_of_isEmpty hempty]
        rfl
      rw [if_pos hresult]
      exact List.mem_cons_self
    · -- the path is one of those called later
      split
      · exact List.mem_cons_of_mem _ (ih hlater)
      · exact ih hlater

theorem mem_of_mem_succeeded {site : Site RootSet} {paths : List Path}
    (h : path ∈ succeeded site paths) : path ∈ paths := by
  induction paths generalizing site with
  | nil => cases h
  | cons first paths ih =>
    rw [succeeded] at h
    split at h
    · -- this call has succeeded, or a later one
      obtain rfl | hlater := List.mem_cons.mp h
      · exact List.mem_cons_self
      · exact List.mem_cons_of_mem _ (ih hlater)
    · -- this call has failed, so it was a later one
      exact List.mem_cons_of_mem _ (ih h)

/-- **The account of calls** for these paths that begin with an empty set. -/
structure Accounts (world : World) (paths : List Path) : Prop where
  /-- Nothing that was there is changed or removed, and what is new is a directory. -/
  grows : world.files.Grows (afterCalls ⟨world, .empty⟩ paths).world.files
  /-- Every new directory is named by a prefix of one of the paths. -/
  named {location : Location} {kind : NodeKind} : world.files.kind? location = none →
    (afterCalls ⟨world, .empty⟩ paths).world.files.kind? location = some kind →
    ∃ path ∈ paths, ∃ front : Path, front.components <+: path.components ∧
      (afterCalls ⟨world, .empty⟩ paths).world.files.locate world.here front = .ok (.located location)
  /-- Only the files of the world change. -/
  frame : (afterCalls ⟨world, .empty⟩ paths).world
    = { world with files := (afterCalls ⟨world, .empty⟩ paths).world.files }
  /-- A call that fails leaves the set as it is. -/
  failed {done later : List Path} {path : Path} {error : BuildError} {next : Site RootSet} :
    paths = done ++ path :: later →
    ensureAndRegister registering path (afterCalls ⟨world, .empty⟩ done) = (.error error, next) →
    next.kept = (afterCalls ⟨world, .empty⟩ done).kept
  /-- A call that succeeds changes nothing when it is made once more. -/
  again {done later : List Path} {path : Path} {next : Site RootSet} :
    paths = done ++ path :: later →
    ensureAndRegister registering path (afterCalls ⟨world, .empty⟩ done) = (.ok (), next) →
    ensureAndRegister registering path next = (.ok (), next)
  /-- The set holds the absolute forms of the paths whose calls succeeded, in the order of their
  first success, -/
  roots : (afterCalls ⟨world, .empty⟩ paths).kept.roots
    = Path.distinct ((succeeded ⟨world, .empty⟩ paths).map world.absolute)
  /-- no two of them the same path. -/
  distinct : (afterCalls ⟨world, .empty⟩ paths).kept.roots.Pairwise fun root other => ¬root.Same other
  /-- A path that is not empty has an absolute form, -/
  form {path : Path} : path.isEmpty = false → world.absolute? path = .ok (world.absolute path)
  /-- and the empty path, which has none, is registered as it is. -/
  absolute_iff : (∀ root ∈ (afterCalls ⟨world, .empty⟩ paths).kept.roots, root.isAbsolute = true) ↔
    ∀ path ∈ paths, path.isEmpty = false

/-- **Every sequence of calls** is as its account says, whichever of them fail. -/
theorem accounts_afterCalls {world : World} (hhere : world.here = .located location)
    (paths : List Path) : Accounts world paths := by
  have hroots : (afterCalls ⟨world, .empty⟩ paths).kept.roots
      = Path.distinct ([] ++ (succeeded ⟨world, .empty⟩ paths).map world.absolute) :=
    afterCalls_roots rfl paths
  rw [List.nil_append] at hroots
  obtain ⟨hadds, hframe⟩ := afterCalls_adds ⟨world, .empty⟩ paths
  refine
    { grows := hadds.grows
      named := ?_
      frame := hframe
      failed := fun _ hcall => kept_of_error hcall
      again := fun _ hcall => ensureAndRegister_again hcall
      roots := hroots
      distinct := ?_
      form := World.absolute?_eq_ok hhere
      absolute_iff := ?_ }
  · -- what is new was named by one of the calls
    intro place kind hnone hsome
    obtain ⟨front, hmem, hlocate⟩ := hadds.named hnone hsome
    obtain ⟨path, hpath, hchain⟩ := List.mem_flatMap.mp hmem
    exact ⟨path, hpath, front, FileSystem.components_prefix_of_mem_chain hchain, hlocate⟩
  · -- no two roots are the same
    rw [hroots]
    exact Path.distinct_pairwise _
  · -- the empty path is the only one without an absolute form
    rw [hroots]
    constructor
    · intro habsolute path hmem
      cases hempty : path.isEmpty with
      | false => rfl
      | true =>
        -- its call has succeeded, so a spelling of it is in the set, and none of them is absolute
        have hsuccess : path ∈ succeeded ⟨world, .empty⟩ paths := mem_succeeded_of_isEmpty hempty hmem
        have hcalled := List.mem_map_of_mem (f := world.absolute) hsuccess
        rw [World.absolute_of_isEmpty world hempty] at hcalled
        obtain ⟨root, hroot, hsame⟩ := Path.exists_mem_distinct_iff.mpr ⟨path, hcalled, .refl path⟩
        rw [Path.Same, Path.components_of_isAbsolute (habsolute root hroot)] at hsame
        obtain ⟨bytes⟩ := path
        obtain rfl : bytes = [] := List.isEmpty_iff.mp hempty
        cases hsame
    · -- without the empty path all roots are forms
      intro hne root hmem
      obtain ⟨path, hpath, rfl⟩ := List.mem_map.mp ((Path.distinct_sublist _).subset hmem)
      exact (World.isAbsolute_absolute_iff hhere).mpr (hne path (mem_of_mem_succeeded hpath))

/-- A world with a directory, a link to it, and a file. -/
def crowdedWorld : World where
  files := ⟨[(Bytes.ofString "d", .directory []), (Bytes.ofString "l", .link (.ofString "d")),
    (Bytes.ofString "f", .file [] false)]⟩
  environment := ⟨[]⟩
  here := .root
  started := []

/-- Paths that meet in it: two spellings of one directory, another way to it, and a file in the way. -/
def crowdedPaths : List Path := ["d/x", "f/y", "l//x/", "./d/x"].map Path.ofString

/-- The file makes one of the calls fail, and two of the others register one root. -/
theorem accounts_afterCalls_crowdedWorld :
    crowdedWorld.here = .located [] ∧ Accounts crowdedWorld crowdedPaths ∧
      succeeded ⟨crowdedWorld, .empty⟩ crowdedPaths
        = ["d/x", "l//x/", "./d/x"].map Path.ofString ∧
      (afterCalls ⟨crowdedWorld, .empty⟩ crowdedPaths).kept.roots
        = ["/d/x", "/l/x/"].map Path.ofString := by
  have hsucceeded : succeeded ⟨crowdedWorld, .empty⟩ crowdedPaths
      = ["d/x", "l//x/", "./d/x"].map Path.ofString := by decide +kernel
  have hroots : (afterCalls ⟨crowdedWorld, .empty⟩ crowdedPaths).kept.roots
      = ["/d/x", "/l/x/"].map Path.ofString := by decide +kernel
  have hhere : crowdedWorld.here = .located [] := rfl
  exact ⟨hhere, accounts_afterCalls hhere crowdedPaths, hsucceeded, hroots⟩

/-- **A root may be no absolute form**: the call for the empty path succeeds, and registers it. -/
theorem root_without_absolute_form :
    ¬∀ (world : World) (location : Location) (paths : List Path),
      world.here = .located location → world.files.isDirectoryAt location = true →
      ∀ root ∈ (afterCalls ⟨world, .empty⟩ paths).kept.roots,
        ∃ path ∈ succeeded ⟨world, .empty⟩ paths, world.absolute? path = .ok root := by
  intro hforms
  have hroots : (afterCalls vacantSite [⟨[]⟩]).kept.roots = [⟨[]⟩] := rfl
  obtain ⟨path, -, hform⟩ := hforms vacantSite.world [] [⟨[]⟩] rfl rfl ⟨[]⟩ (by
    show _ ∈ (afterCalls vacantSite [⟨[]⟩]).kept.roots
    rw [hroots]
    exact List.mem_cons_self)
  -- an absolute form begins with a slash
  have habsolute := World.isAbsolute_of_absolute? hform
  cases habsolute

end RootSet

end SchemaBuild
