import SchemaBuild.Proofs.Resolution.Recorded

/-!
# Folders and archives

A supplier is read as its kind says, so a folder should be a directory and an archive something else.
For the entries of a classpath this is looked up. The resource directory is taken for a directory as
soon as it exists, so that a file in its place is recorded as a folder.

* `Supplier.Classified` — the kind of a supplier is that of the object its path leads to;
* `Supplier.resolve_classified_iff` — all suppliers are classified exactly if the resource directory
  is a directory or missing, and no directory has an absolute form that is too long;
* `Supplier.resources_misclassified` — a file in place of the resource directory is not.
-/

namespace SchemaBuild.Supplier

variable {world : World} {path resources : Path} {classpath : Classpath} {entries : List Path}

/-- The supplier is a folder exactly if its path leads to a directory. -/
def Classified (world : World) (supplier : Supplier) : Prop :=
  supplier.kind = .folder ↔ world.isDirectory supplier.path = true

instance (world : World) : DecidablePred (Classified world) := fun supplier =>
  inferInstanceAs (Decidable (supplier.kind = .folder ↔ world.isDirectory supplier.path = true))

theorem has_of_isDirectory (h : world.isDirectory path = true) : world.has path = true := by
  cases hfind : world.find path with
  | error error =>
    -- nothing that can be found is no directory either
    rw [World.isDirectory, hfind] at h
    cases h
  | ok node =>
    -- whatever is found is there
    rw [World.has, hfind]
    rfl

/-- The absolute form of a path leads to a directory if the path does and the form is not too
long. -/
theorem isDirectory_absolute_iff (hplaced : world.Placed) (hhas : world.has path = true) :
    world.isDirectory (world.absolute path) = true ↔
      world.isDirectory path = true ∧ (world.absolute path).bytes.length < pathLimit := by
  cases hfind : world.find path with
  | error error =>
    -- a path that leads nowhere is excluded
    rw [World.has, hfind] at hhas
    cases hhas
  | ok node =>
    by_cases hlength : (world.absolute path).bytes.length < pathLimit
    · -- the form leads to the same object
      have hform := World.find_absolute hplaced hfind hlength
      rw [World.isDirectory, World.isDirectory, hform, hfind]
      simp [hlength]
    · -- the form is too long to lead anywhere
      simp only [hlength, and_false, iff_false]
      intro hdirectory
      cases hform : world.find (world.absolute path) with
      | error error =>
        rw [World.isDirectory, hform] at hdirectory
        cases hdirectory
      | ok node => exact hlength (FileSystem.length_lt_of_find hform)

/-- The resource directory is classified if it is a directory that can be reached, or missing. -/
theorem ofResources_classified_iff (hplaced : world.Placed) :
    (∀ supplier ∈ ofResources world resources, Classified world supplier) ↔
      (world.has resources = true → world.isDirectory resources = true) ∧
        (world.isDirectory resources = true →
          (world.absolute resources).bytes.length < pathLimit) := by
  cases hhas : world.has resources with
  | false =>
    -- without a resource directory there is no supplier of it
    have hnone : world.isDirectory resources ≠ true := fun hdirectory => by
      rw [has_of_isDirectory hdirectory] at hhas
      cases hhas
    simp [ofResources, hhas, hnone]
  | true =>
    -- it is recorded as a folder, whatever it is
    rw [ofResources, if_pos hhas]
    simp only [List.mem_singleton, forall_eq, Classified, true_iff, forall_const]
    rw [isDirectory_absolute_iff hplaced hhas]
    constructor
    · -- the folder is a directory, and it is reached by its form
      rintro ⟨hdirectory, hlength⟩
      exact ⟨hdirectory, fun _ => hlength⟩
    · -- a directory that is reached by its form is classified
      rintro ⟨hdirectory, hlength⟩
      exact ⟨hdirectory, hlength hdirectory⟩

/-- The supplier of an entry is classified unless it is a directory that can no longer be reached. -/
theorem ofPath?_classified_iff (hplaced : world.Placed) (entry : Path) :
    (∀ supplier ∈ ofPath? world entry, Classified world supplier) ↔
      (world.isDirectory entry = true → (world.absolute entry).bytes.length < pathLimit) := by
  cases hhas : world.has entry with
  | false =>
    -- an entry that is not there gives no supplier
    have hnone : world.isDirectory entry ≠ true := fun hdirectory => by
      rw [has_of_isDirectory hdirectory] at hhas
      cases hhas
    simp [ofPath?, hhas, hnone]
  | true =>
    -- it is recorded as what it is, unless its form leads nowhere
    rw [ofPath?, if_pos hhas]
    simp only [Option.mem_some_iff, forall_eq', Classified]
    rw [isDirectory_absolute_iff hplaced hhas]
    cases world.isDirectory entry <;> simp

/-- **The suppliers that are resolved** are all classified exactly if the resource directory is a
directory or missing, and the absolute form of no directory is too long. -/
theorem resolve_classified_iff (hplaced : world.Placed) (resources : Path)
    (hentries : classpath.entries world = .ok entries) :
    ∃ suppliers, resolve world resources classpath = .ok suppliers ∧
      ((∀ supplier ∈ suppliers, Classified world supplier) ↔
        (world.has resources = true → world.isDirectory resources = true) ∧
        ∀ path ∈ resources :: entries, world.isDirectory path = true →
          (world.absolute path).bytes.length < pathLimit) := by
  have hothers : (∀ supplier ∈ entries.filterMap (ofPath? world), Classified world supplier) ↔
      ∀ entry ∈ entries, world.isDirectory entry = true →
        (world.absolute entry).bytes.length < pathLimit := by
    simp only [List.mem_filterMap, ← ofPath?_classified_iff hplaced, Option.mem_def]
    constructor
    · -- a supplier that is found belongs to an entry
      exact fun h entry hentry supplier hsome => h supplier ⟨entry, hentry, hsome⟩
    · -- an entry gives one supplier at most
      rintro h supplier ⟨entry, hentry, hsome⟩
      exact h entry hentry supplier hsome
  refine ⟨ofResources world resources ++ entries.filterMap (ofPath? world), ?_, ?_⟩
  · -- the entries are known, so the suppliers are
    rw [resolve, hentries]
  · -- the suppliers are classified one by one
    rw [List.forall_mem_append, List.forall_mem_cons, ofResources_classified_iff hplaced, hothers,
      and_assoc]

/-- A resource directory behind a link and entries of both kinds are classified. -/
theorem linkedWorld_classified :
    ∃ suppliers, resolve linkedWorld linkedResources (.fixed linkedEntries) = .ok suppliers ∧
      ∀ supplier ∈ suppliers, Classified linkedWorld supplier := by
  obtain ⟨suppliers, hresolve, hclassified⟩ :=
    resolve_classified_iff linkedWorld_placed linkedResources
      (show Classpath.entries linkedWorld (.fixed linkedEntries) = .ok linkedEntries from rfl)
  exact ⟨suppliers, hresolve, hclassified.mpr (by decide +kernel)⟩

/-- **A file in place of the resource directory** is recorded as a folder. -/
theorem resources_misclassified :
    ¬∀ (world : World) (resources : Path) (classpath : Classpath) (suppliers : List Supplier),
      world.Placed → resolve world resources classpath = .ok suppliers →
        ∀ supplier ∈ suppliers, Classified world supplier := by
  intro hall
  have hresolve : resolve linkedWorld (.ofString "a.tar") (.fixed [])
      = .ok [⟨.folder, .ofString "/w/a.tar"⟩] := by
    decide +kernel
  have hfile : ¬Classified linkedWorld ⟨.folder, .ofString "/w/a.tar"⟩ := by
    decide +kernel
  exact hfile (hall linkedWorld _ _ _ linkedWorld_placed hresolve _ (List.mem_singleton_self _))

end SchemaBuild.Supplier
