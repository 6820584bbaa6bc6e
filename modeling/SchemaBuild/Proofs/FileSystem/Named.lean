import SchemaBuild.Proofs.FileSystem.Growth
import SchemaBuild.Proofs.Path.Segments

/-!
# Which directories are made

That making directories only adds directories is not all: they stand where the path that was asked
for passes through. Every directory that is new is **named** by a path of the chain, which leads to
it as soon as it is made and as long as nothing but directories is added.

* `FileSystem.Adds` — the growth of a file system by directories that are named by given paths, with
  `Adds.refl` and `Adds.trans`;
* `FileSystem.makeDirectories_adds` — making the directories of a path adds directories that are
  named by prefixes of the path, also when it fails half way.
-/

namespace SchemaBuild.FileSystem

namespace Grows

variable {a b : FileSystem} {here : Place} {path : Path} {place : Place}

/-- Where a path leads it still leads when directories are added. -/
theorem locate_eq_ok (h : a.Grows b) (hlocate : a.locate here path = .ok place) :
    b.locate here path = .ok place := by
  unfold locate at hlocate ⊢
  split at hlocate
  · cases hlocate
  · exact h.walk_eq_ok hlocate

end Grows

/-- The file system has grown, and every directory that is new is named by one of the paths, as seen
from `here`. -/
structure Adds (before after : FileSystem) (here : Place) (paths : List Path) : Prop where
  grows : before.Grows after
  named : ∀ {location kind}, before.kind? location = none → after.kind? location = some kind →
    ∃ path ∈ paths, after.locate here path = .ok (.located location)

namespace Adds

variable {a b c : FileSystem} {here : Place} {paths : List Path}

theorem refl (files : FileSystem) (here : Place) (paths : List Path) :
    files.Adds files here paths where
  grows := .refl files
  named hnone hsome := by rw [hnone] at hsome; cases hsome

theorem trans (hab : a.Adds b here paths) (hbc : b.Adds c here paths) : a.Adds c here paths where
  grows := hab.grows.trans hbc.grows
  named {location kind} hnone hsome := by
    cases hb : b.kind? location with
    | none => exact hbc.named hb hsome
    | some middle =>
      -- the path that named it after the first growth leads there after the second one, too
      obtain ⟨path, hmem, hlocate⟩ := hab.named hnone hb
      exact ⟨path, hmem, hbc.grows.locate_eq_ok hlocate⟩

theorem mono {more : List Path} (h : a.Adds b here paths) (hsub : paths ⊆ more) :
    a.Adds b here more where
  grows := h.grows
  named hnone hsome := by
    obtain ⟨path, hmem, hlocate⟩ := h.named hnone hsome
    exact ⟨path, hsub hmem, hlocate⟩

end Adds

/-- A directory that was made is named by its path. -/
theorem makeDirectory_adds {files made : FileSystem} {here : Place} {path : Path}
    (h : files.makeDirectory here path = .ok made) : files.Adds made here [path] where
  grows := makeDirectory_grows h
  named {location kind} hnone hsome := by
    obtain ⟨above, name, habove, -, rfl, hlocate⟩ := locate_of_makeDirectory h
    refine ⟨path, List.mem_singleton_self path, ?_⟩
    -- nothing is new but the directory itself: elsewhere nothing has changed, and nothing is in it
    by_cases hbelow : above ++ [name] <+: location
    · -- within the new directory
      obtain ⟨rest, rfl⟩ := hbelow
      cases rest with
      | nil =>
        -- it is the new directory itself
        rwa [List.append_nil]
      | cons first rest =>
        -- the new directory is empty
        rw [kind?, node?, Node.at?_append, ← node?, node?_put_directory habove] at hsome
        cases hsome
    · -- elsewhere
      rw [kind?_put_directory habove hbelow, hnone] at hsome
      cases hsome

/-- The directories that making a chain adds are named by paths of the chain. -/
theorem makeChain_adds (here : Place) (paths : List Path) (files : FileSystem) :
    files.Adds (makeChain here paths files).2 here paths := by
  refine makeChain_keeps (fun before after => before.Adds after here paths)
    (fun files => .refl files here paths) .trans ?_ files
  intro path hmem before after hmade
  exact (makeDirectory_adds hmade).mono (by simpa using hmem)

/-- **Making the directories of a path** adds directories that are named by prefixes of the path,
also when it fails. -/
theorem makeDirectories_adds (files : FileSystem) (here : Place) (path : Path) :
    files.Adds (files.makeDirectories here path).2 here (path :: path.parents) :=
  makeChain_adds here _ files

/-- The paths of the chain are prefixes of the path: each leads along the beginning of it. -/
theorem components_prefix_of_mem_chain {path named : Path} (h : named ∈ path :: path.parents) :
    named.components <+: path.components := by
  obtain rfl | habove := List.mem_cons.mp h
  · exact List.prefix_rfl
  · exact Path.components_prefix_of_mem_parents habove

end SchemaBuild.FileSystem
