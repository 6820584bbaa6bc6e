import SchemaBuild.Proofs.Build.Registered
import SchemaBuild.Proofs.FileSystem.Creation

/-!
# Output directories that are missing

An output directory that is missing is made before it is registered, with all that is missing above
it. With nothing but directories in the way of its path this succeeds, however the path is spelled, and
the path leads to a directory then. The exception is a path that ends in a `.`: only the directories
above the directory that it names are made, and without that one the call fails.

* `RootSet.ensureAndRegister_creates` — the directory is made if the last step of the path does not
  stay, and if it does the call succeeds exactly if the path is there once those above it are made;
* `RootSet.not_created_behind_dot` — so a directory that could be made may not be.
-/

namespace SchemaBuild

theorem World.isDirectory_of_leadsTo {world : World} {path : Path} {origin location : Location}
    (hfine : FileSystem.pathError? path = none)
    (hstart : FileSystem.startOf world.here path = .located origin)
    (h : world.files.LeadsTo origin path.plainSteps location) : world.isDirectory path = true := by
  obtain ⟨entries, hfind⟩ := FileSystem.find_of_leadsTo hfine hstart h
  rw [isDirectory, find, hfind]
  rfl

namespace RootSet

variable {path : Path} {before : Site RootSet} {made : FileSystem} {origin : Location}

/-- A directory that is missing is made and registered, if it can be made. -/
theorem ensureAndRegister_of_made (hmissing : before.world.has path = false)
    (hmade : before.world.files.makeDirectories before.world.here path = (.ok (), made)) :
    ∃ after, ensureAndRegister registering path before = (.ok (), after) ∧
      after.world = { before.world with files := made } := by
  have hensure : ensureDirectory path before
      = (.ok (), { before with world := { before.world with files := made } }) := by
    rw [ensureDirectory, hmissing, if_neg Bool.false_ne_true, World.makeDirectories, hmade]
  rw [ensureAndRegister, hensure]
  exact ⟨_, rfl, rfl⟩

/-- A directory that is missing and cannot be made is the failure. -/
theorem ensureAndRegister_of_not_made {error : IoError} (hmissing : before.world.has path = false)
    (hmade : before.world.files.makeDirectories before.world.here path = (.error error, made)) :
    ∃ after, ensureAndRegister registering path before = (.error (.directory path error), after) ∧
      after.world = { before.world with files := made } := by
  have hensure : ensureDirectory path before = (.error (.directory path error),
      { before with world := { before.world with files := made } }) := by
    rw [ensureDirectory, hmissing, if_neg Bool.false_ne_true, World.makeDirectories, hmade]
  rw [ensureAndRegister, hensure]
  exact ⟨_, rfl, rfl⟩

/-- **A missing output directory is made** wherever nothing but directories is in the way of its path,
if the last step of the path does not stay. If that step stays then the directories above the path are
made, and the call succeeds exactly if the path leads to a directory by then. -/
theorem ensureAndRegister_creates (hfine : FileSystem.pathError? path = none)
    (hnames : ∀ name, Step.enter name ∈ path.plainSteps → name.length ≤ nameLimit)
    (hstart : FileSystem.startOf before.world.here path = .located origin)
    (hdirectory : before.world.files.isDirectoryAt origin = true)
    (hmissing : before.world.has path = false)
    (hclear : before.world.files.Clear before.world.here origin path) :
    (path.plainSteps.getLast? ≠ some .stay →
      ∃ after, ensureAndRegister registering path before = (.ok (), after) ∧
        after.world.isDirectory path = true) ∧
    (path.plainSteps.getLast? = some .stay →
      ∃ made after,
        FileSystem.makeChain before.world.here path.parents before.world.files = (.ok (), made) ∧
        after.world = { before.world with files := made } ∧
        ensureAndRegister registering path before =
          (if after.world.isDirectory path then .ok () else .error (.directory path .notFound),
            after)) := by
  have hnowhere : ∀ location, ¬before.world.files.LeadsTo origin path.plainSteps location := by
    intro location hleads
    obtain ⟨entries, hfind⟩ := FileSystem.find_of_leadsTo hfine hstart hleads
    rw [World.has_of_find hfind] at hmissing
    cases hmissing
  constructor
  · -- the last step moves: the directory is made at the end of the path
    intro hmove
    obtain hnil | ⟨steps, step, hsteps⟩ := List.eq_nil_or_concat path.plainSteps
    · -- a path without steps is where it begins
      refine absurd ?_ (hnowhere origin)
      rw [hnil]
      exact .refl hdirectory
    · rw [List.concat_eq_append] at hsteps
      have hstep : step ≠ .stay := by
        rintro rfl
        rw [hsteps, List.getLast?_concat] at hmove
        exact hmove rfl
      obtain ⟨made, goal, hmade, hgoal⟩ := FileSystem.makeDirectories_of_move hfine hstart hdirectory
        hnames hclear hsteps hstep
      obtain ⟨after, hcall, hworld⟩ := ensureAndRegister_of_made hmissing hmade
      refine ⟨after, hcall, ?_⟩
      rw [hworld]
      exact World.isDirectory_of_leadsTo hfine hstart hgoal
  · -- it stays: what is in front of it is missing, or the path would lead there
    intro hstay
    obtain ⟨steps, hsteps⟩ := List.getLast?_eq_some_iff.mp hstay
    have hinitial : steps <+: path.plainSteps := ⟨[.stay], hsteps.symm⟩
    have hlost : before.world.files.walk linkLimit (.located origin) steps = .error .notFound := by
      obtain ⟨location, hleads⟩ | hlost :=
        FileSystem.reached_or_missing hnames hdirectory hclear.now hinitial
      · -- the steps lead somewhere, and so would the path, which stays there
        refine absurd ?_ (hnowhere location)
        rw [hsteps]
        exact hleads.stay
      · -- something of the steps is missing
        exact hlost
    obtain ⟨made, hchain, ⟨⟨goal, hgoal⟩, hmade⟩ | ⟨hwalk, hmade⟩⟩ :=
      FileSystem.makeDirectories_of_stay hfine hstart hdirectory hnames hclear hsteps hlost
    · -- the directory is there at the end
      obtain ⟨after, hcall, hworld⟩ := ensureAndRegister_of_made hmissing hmade
      have hthere : after.world.isDirectory path = true := by
        rw [hworld]
        exact World.isDirectory_of_leadsTo hfine hstart hgoal
      refine ⟨made, after, hchain, hworld, ?_⟩
      rw [hcall, if_pos hthere]
    · -- the directory is missing at the end
      obtain ⟨after, hcall, hworld⟩ := ensureAndRegister_of_not_made hmissing hmade
      have hnone : after.world.isDirectory path = false := by
        have hfind : after.world.find path = .error .notFound := by
          rw [hworld]
          exact FileSystem.find_of_walk_error hfine hstart hwalk
        rw [World.isDirectory, hfind]
      refine ⟨made, after, hchain, hworld, ?_⟩
      rw [hcall, hnone, if_neg Bool.false_ne_true]

/-! ### Paths that are created, and one that is not -/

/-- Whether the names among steps are short enough can be looked at. -/
theorem length_le_of_steps {steps : List Step} (h : (steps.all fun
      | .enter name => decide (name.length ≤ nameLimit)
      | _ => true) = true) :
    ∀ name, Step.enter name ∈ steps → name.length ≤ nameLimit := by
  intro name hmem
  simpa using List.all_eq_true.mp h _ hmem

/-- A path along a link and up again, with slashes and a dot between its names and a slash behind
them. -/
def spreadPath : Path := .ofString "l/../x//./y/"

/-- Nothing is in its way: the link leads to a directory, and the other names are missing. -/
theorem crowdedWorld_clear : crowdedWorld.files.Clear crowdedWorld.here [] spreadPath := by
  apply FileSystem.Unobstructed.clear
  · decide +kernel
  · decide +kernel

/-- So is a path that goes up out of a directory that is missing, where there is nothing at all. -/
theorem vacantSite_clear : vacantSite.world.files.Clear vacantSite.world.here [] upwardPath := by
  refine FileSystem.clear_of_directories (length_le_of_steps (by decide +kernel)) ?_
  intro location kind hkind
  cases location with
  | nil => exact (Option.some.inj hkind).symm
  | cons name rest => cases hkind

/-- Both of them are made, with the directories above them. -/
theorem ensureAndRegister_creates_spreadPath :
    FileSystem.pathError? spreadPath = none ∧ crowdedWorld.has spreadPath = false ∧
      crowdedWorld.files.Clear crowdedWorld.here [] spreadPath ∧
      (∃ after : Site RootSet,
        ensureAndRegister registering spreadPath ⟨crowdedWorld, .empty⟩ = (.ok (), after) ∧
          after.world.isDirectory spreadPath = true) ∧
      vacantSite.world.files.GoesUpFromMissing [] upwardPath.plainSteps ∧
      vacantSite.world.files.Clear vacantSite.world.here [] upwardPath ∧
      ∃ after : Site RootSet,
        ensureAndRegister registering upwardPath vacantSite = (.ok (), after) ∧
          after.world.isDirectory upwardPath = true := by
  have hfine : FileSystem.pathError? spreadPath = none := by decide +kernel
  have hmissing : crowdedWorld.has spreadPath = false := by decide +kernel
  have hspread : ∃ after : Site RootSet,
      ensureAndRegister registering spreadPath ⟨crowdedWorld, .empty⟩ = (.ok (), after) ∧
        after.world.isDirectory spreadPath = true := by
    have hnames : ∀ name, Step.enter name ∈ spreadPath.plainSteps → name.length ≤ nameLimit :=
      length_le_of_steps (by decide +kernel)
    obtain ⟨hmove, -⟩ := @ensureAndRegister_creates spreadPath ⟨crowdedWorld, .empty⟩ [] hfine hnames
      rfl rfl hmissing crowdedWorld_clear
    exact hmove (by decide +kernel)
  have hupward : ∃ after : Site RootSet,
      ensureAndRegister registering upwardPath vacantSite = (.ok (), after) ∧
        after.world.isDirectory upwardPath = true := by
    have hnames : ∀ name, Step.enter name ∈ upwardPath.plainSteps → name.length ≤ nameLimit :=
      length_le_of_steps (by decide +kernel)
    obtain ⟨hmove, -⟩ := @ensureAndRegister_creates upwardPath vacantSite [] (by decide +kernel) hnames
      rfl rfl (by decide +kernel) vacantSite_clear
    exact hmove (by decide +kernel)
  have hlost : vacantSite.world.files.GoesUpFromMissing [] upwardPath.plainSteps := by
    decide +kernel
  exact ⟨hfine, hmissing, crowdedWorld_clear, hspread, hlost, vacantSite_clear, hupward⟩

/-- **Behind a name that is missing a dot is not created**: the call fails, although nothing is in the
way of the path. -/
theorem not_created_behind_dot :
    ¬∀ (path : Path) (before : Site RootSet) (origin : Location),
      FileSystem.pathError? path = none →
      (∀ name, Step.enter name ∈ path.plainSteps → name.length ≤ nameLimit) →
      FileSystem.startOf before.world.here path = .located origin →
      before.world.files.isDirectoryAt origin = true → before.world.has path = false →
      before.world.files.Clear before.world.here origin path →
      ∃ after, ensureAndRegister registering path before = (.ok (), after) ∧
        after.world.isDirectory path = true := by
  intro hcreated
  have hclear : vacantSite.world.files.Clear vacantSite.world.here [] (.ofString "gen/.") := by
    apply FileSystem.Unobstructed.clear
    · decide +kernel
    · decide +kernel
  obtain ⟨after, hcall, -⟩ := hcreated (.ofString "gen/.") vacantSite [] (by decide +kernel)
    (length_le_of_steps (by decide +kernel)) rfl rfl (by decide +kernel) hclear
  have hfailure : (ensureAndRegister registering (.ofString "gen/.") vacantSite).1
      = .error (.directory (.ofString "gen/.") .notFound) := by
    rfl
  rw [hcall] at hfailure
  cases hfailure

end RootSet

end SchemaBuild
