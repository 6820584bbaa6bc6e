import SchemaBuild.Build.Stages
import SchemaBuild.Proofs.FileSystem.Named

/-!
# The output directory

What making and registering the output directory comes to. The directory is made first, by the build
itself, which adds directories to the file system and does nothing else (`ensureDirectory_ok`,
`ensureDirectory_error`); the new ones are named by prefixes of its path (`ensureDirectory_adds`).
Then the registry is asked, once, for the absolute path
(`ensureAndRegister_cases`).
-/

namespace SchemaBuild

variable {τ : Type} {path : Path} {before after : Site τ}

theorem World.has_of_find {world : World} {node : Node} (h : world.find path = .ok node) :
    world.has path = true := by
  rw [has, h]
  rfl

/-- What making directories does to a world: the file system grows, and nothing else changes. -/
theorem World.makeDirectories_eq {world after : World} {result : Except IoError Unit}
    (h : world.makeDirectories path = (result, after)) :
    world.files.makeDirectories world.here path = (result, after.files) ∧
      after = { world with files := after.files } ∧ world.files.Grows after.files := by
  unfold World.makeDirectories at h
  have hgrows := world.files.makeDirectories_grows world.here path
  cases hmade : world.files.makeDirectories world.here path with
  | mk made files =>
    rw [hmade] at h hgrows
    cases h
    exact ⟨rfl, rfl, hgrows⟩

/-- **A directory that was ensured** is there, or the site is as it was found: an empty path names
no directory to make. -/
theorem ensureDirectory_ok (h : ensureDirectory path before = (.ok (), after)) :
    (after.world.has path = true ∨ after = before) ∧
      before.world.files.Grows after.world.files ∧ after.kept = before.kept := by
  unfold ensureDirectory at h
  split at h
  · -- something is there, and it is left alone
    cases h
    exact ⟨.inr rfl, .refl _, rfl⟩
  · split at h
    · next world hmade =>
      cases h
      obtain ⟨hfiles, hworld, hgrows⟩ := World.makeDirectories_eq hmade
      refine ⟨?_, hgrows, rfl⟩
      obtain ⟨entries, hfind⟩ | ⟨_, hsame⟩ := FileSystem.makeDirectories_ok hfiles
      · have hthere : world.find path = .ok (.directory entries) := by
          rw [hworld]
          exact hfind
        exact .inl (World.has_of_find hthere)
      · -- the path is empty: no file has changed, and so nothing has
        rw [hsame] at hworld
        rw [hworld]
        exact .inr rfl
    · cases h

/-- A directory that was ensured is there, if its path is not empty. -/
theorem has_of_ensureDirectory (hne : path.isEmpty = false)
    (h : ensureDirectory path before = (.ok (), after)) : after.world.has path = true := by
  unfold ensureDirectory at h
  split at h
  · next hhas =>
    -- the path was there before
    cases h
    exact hhas
  · split at h
    · next world hmade =>
      -- its directories were made
      cases h
      obtain ⟨hfiles, hworld, -⟩ := World.makeDirectories_eq hmade
      obtain ⟨entries, hfind⟩ | ⟨hempty, -⟩ := FileSystem.makeDirectories_ok hfiles
      · -- the path is a directory now
        have hthere : world.find path = .ok (.directory entries) := by
          rw [hworld]
          exact hfind
        exact World.has_of_find hthere
      · -- the empty path is excluded
        rw [hempty] at hne
        cases hne
    · -- the directories could not be made
      cases h

/-- **A directory that was not made** is the one that was asked for, and what was made above it
stays. -/
theorem ensureDirectory_error {error : BuildError}
    (h : ensureDirectory path before = (.error error, after)) :
    (∃ io, error = .directory path io) ∧
      before.world.files.Grows after.world.files ∧ after.kept = before.kept := by
  unfold ensureDirectory at h
  split at h
  · -- the path was there before
    cases h
  · split at h
    · -- its directories were made
      cases h
    · next io world hmade =>
      -- what was made before the failure is kept
      cases h
      obtain ⟨-, -, hgrows⟩ := World.makeDirectories_eq hmade
      exact ⟨⟨io, rfl⟩, hgrows, rfl⟩

/-- **What ensuring a directory adds**, whether it succeeds or not: directories that are named by
prefixes of the path. Nothing else of the site changes. -/
theorem ensureDirectory_adds {result : Except BuildError Unit}
    (h : ensureDirectory path before = (result, after)) :
    before.world.files.Adds after.world.files before.world.here (path :: path.parents) ∧
      after = ⟨{ before.world with files := after.world.files }, before.kept⟩ := by
  unfold ensureDirectory at h
  split at h
  · cases h
    exact ⟨.refl _ _ _, rfl⟩
  · cases hmakes : before.world.makeDirectories path with
    | mk made world =>
      obtain ⟨hfiles, hworld, -⟩ := World.makeDirectories_eq hmakes
      have hadds := before.world.files.makeDirectories_adds before.world.here path
      rw [hfiles] at hadds
      rw [hmakes] at h
      -- the result says whether the directory was made, and the site is the same either way
      obtain rfl : after = { before with world } := by
        cases made <;> exact (Prod.mk.inj h).2.symm
      exact ⟨hadds, by rw [← hworld]⟩

/-- Making and registering a directory goes one of three ways. -/
theorem ensureAndRegister_cases {register : Path → Task (Site τ) IoError Unit}
    {result : Except BuildError Unit}
    (h : ensureAndRegister register path before = (result, after)) :
    (∃ error, ensureDirectory path before = (.error error, after) ∧ result = .error error) ∨
    ∃ prepared, ensureDirectory path before = (.ok (), prepared) ∧
      ((∃ error, register (prepared.world.absolute path) prepared = (.error error, after) ∧
        result = .error (.registration (prepared.world.absolute path) error)) ∨
      (register (prepared.world.absolute path) prepared = (.ok (), after) ∧ result = .ok ())) := by
  unfold ensureAndRegister at h
  split at h
  · next error after hensure =>
    -- the directory could not be made, and the registry was not asked
    cases h
    exact .inl ⟨error, hensure, rfl⟩
  · next prepared hensure =>
    refine .inr ⟨prepared, hensure, ?_⟩
    dsimp only at h
    split at h
    · next after hregister =>
      -- the root is registered
      cases h
      exact .inr ⟨hregister, rfl⟩
    · next error after hregister =>
      -- the registry refuses the root
      cases h
      exact .inl ⟨error, hregister, rfl⟩

end SchemaBuild
