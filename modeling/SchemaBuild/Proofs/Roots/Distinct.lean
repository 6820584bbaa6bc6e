import Mathlib.Data.List.Induction
import SchemaBuild.Build.Roots

/-!
# Roots without repetitions

Of a sequence of registered roots a set keeps the first spelling of every path, in the order in which
the paths came first.

* `Path.distinct` — the first spellings of the paths of a list;
* `Path.distinct_concat` — one more path is one more spelling, unless an earlier path is the same;
* `Path.distinct_eq_firstSpellings` — they stand where no earlier path is the same;
* `RootSet.register_distinct`, `RootSet.roots_after` — registering a root, or one root after the other,
  in a set that holds them;
* `RootSet.collects_after` — a set that began empty is an ordered set of what was registered.
-/

namespace SchemaBuild

namespace Path

/-- The paths of a list, without those that are the same as an earlier one. -/
def distinct : List Path → List Path
  | [] => []
  | path :: paths => path :: (distinct paths).filter fun other => ¬path.Same other

variable {paths : List Path} {path : Path}

theorem distinct_sublist (paths : List Path) : (distinct paths).Sublist paths := by
  induction paths with
  | nil => exact .slnil
  | cons first paths ih => exact (List.filter_sublist.trans ih).cons_cons first

/-- No two of them are the same path. -/
theorem distinct_pairwise (paths : List Path) :
    (distinct paths).Pairwise fun path other => ¬path.Same other := by
  induction paths with
  | nil => exact .nil
  | cons first paths ih =>
    refine .cons (fun other hmem => ?_) (ih.filter _)
    simpa using (List.mem_filter.mp hmem).2

/-- Every path of the list is there in one spelling. -/
theorem exists_mem_distinct_iff :
    (∃ other ∈ distinct paths, other.Same path) ↔ ∃ other ∈ paths, other.Same path := by
  constructor
  · -- what is left was there before
    rintro ⟨other, hmem, hsame⟩
    exact ⟨other, (distinct_sublist paths).subset hmem, hsame⟩
  · -- the first one of those that are the same is left
    rintro ⟨other, hmem, hsame⟩
    induction paths with
    | nil => cases hmem
    | cons first paths ih =>
      by_cases hfirst : first.Same path
      · -- it is the first path
        exact ⟨first, List.mem_cons_self, hfirst⟩
      · -- it is a later one, and so it is not the same as the first
        obtain rfl | hlater := List.mem_cons.mp hmem
        · exact absurd hsame hfirst
        · obtain ⟨found, hfound, hfoundSame⟩ := ih hlater
          refine ⟨found, List.mem_cons_of_mem _ (List.mem_filter.mpr ⟨hfound, ?_⟩), hfoundSame⟩
          simpa using fun h => hfirst (h.trans hfoundSame)

/-- **One more path** is one more spelling at the end, unless an earlier path is the same. -/
theorem distinct_concat (paths : List Path) (path : Path) :
    distinct (paths ++ [path])
      = distinct paths ++ if ∃ other ∈ paths, other.Same path then [] else [path] := by
  induction paths with
  | nil => simp [distinct]
  | cons first paths ih =>
    rw [List.cons_append, distinct, distinct, ih, List.filter_append, List.cons_append]
    congr 2
    have hany : (∃ other ∈ first :: paths, other.Same path) ↔
        first.Same path ∨ ∃ other ∈ paths, other.Same path := by simp
    by_cases hlater : ∃ other ∈ paths, other.Same path
    · -- a later path is the same, and so it is in the whole list
      rw [if_pos hlater, if_pos (hany.mpr (.inr hlater))]
      rfl
    · -- only the first path can be the same, and then it takes the new one away
      rw [if_neg hlater]
      by_cases hfirst : first.Same path
      · rw [if_pos (hany.mpr (.inl hfirst))]
        simp [hfirst]
      · rw [if_neg (mt hany.mp (not_or.mpr ⟨hfirst, hlater⟩))]
        simp [hfirst]

/-- The paths of a list that are not the same as any path that stands before them. -/
def firstSpellings (paths : List Path) : List Path :=
  (paths.zipIdx.filter fun (path, position) =>
    ∀ earlier ∈ paths.take position, ¬earlier.Same path).map (·.1)

/-- A path at the end changes nothing about those before it. -/
theorem firstSpellings_concat (paths : List Path) (path : Path) :
    firstSpellings (paths ++ [path])
      = firstSpellings paths ++ if ∃ other ∈ paths, other.Same path then [] else [path] := by
  have hbefore : ∀ entry ∈ paths.zipIdx,
      decide (∀ earlier ∈ (paths ++ [path]).take entry.2, ¬earlier.Same entry.1)
        = decide (∀ earlier ∈ paths.take entry.2, ¬earlier.Same entry.1) := by
    intro entry hentry
    have hlt : entry.2 < paths.length := by simpa using List.snd_lt_of_mem_zipIdx hentry
    rw [List.take_append_of_le_length (Nat.le_of_lt hlt)]
  rw [firstSpellings, firstSpellings, List.zipIdx_append, List.filter_append, List.map_append,
    List.filter_congr hbefore, List.zipIdx_singleton, Nat.zero_add]
  congr 1
  have hwhole : (paths ++ [path]).take paths.length = paths := List.take_left
  by_cases hknown : ∃ other ∈ paths, other.Same path
  · -- a path that is the same comes earlier, so this one is dropped
    rw [if_pos hknown, List.filter_cons_of_neg]
    · rfl
    · simpa [hwhole] using hknown
  · -- no earlier path is the same, so this one is kept
    rw [if_neg hknown, List.filter_cons_of_pos]
    · rfl
    · simpa [hwhole] using hknown

/-- **The first spellings** stand where no earlier path is the same. -/
theorem distinct_eq_firstSpellings (paths : List Path) : distinct paths = firstSpellings paths := by
  induction paths using List.reverseRecOn with
  | nil => rfl
  | append_singleton paths path ih => rw [distinct_concat, firstSpellings_concat, ih]

end Path

namespace RootSet

variable {known : RootSet} {paths : List Path}

/-- A set that holds the first spellings knows exactly the paths that are the same as one of them. -/
theorem contains_iff_of_distinct (h : known.roots = Path.distinct paths) (root : Path) :
    known.contains root = true ↔ ∃ path ∈ paths, path.Same root := by
  rw [contains_iff, h]
  exact Path.exists_mem_distinct_iff

/-- **Registering** keeps a set of first spellings one. -/
theorem register_distinct (h : known.roots = Path.distinct paths) (root : Path) :
    (known.register root).roots = Path.distinct (paths ++ [root]) := by
  rw [Path.distinct_concat, register]
  by_cases hknown : ∃ path ∈ paths, path.Same root
  · rw [if_pos hknown, if_pos ((contains_iff_of_distinct h root).mpr hknown), h, List.append_nil]
  · rw [if_neg hknown, if_neg (mt (contains_iff_of_distinct h root).mp hknown), h]

/-- A set after roots were registered one after the other. -/
def after (known : RootSet) (roots : List Path) : RootSet := roots.foldl register known

/-- **Registering one root after the other** keeps it one, too. -/
theorem after_distinct {earlier : List Path} (h : known.roots = Path.distinct earlier)
    (paths : List Path) : (known.after paths).roots = Path.distinct (earlier ++ paths) := by
  induction paths generalizing known earlier with
  | nil => rw [List.append_nil, ← h]; rfl
  | cons path paths ih => rw [List.append_cons]; exact ih (register_distinct h path)

/-- The roots of a set that began empty. -/
theorem roots_after (paths : List Path) : (empty.after paths).roots = Path.distinct paths := by
  have hempty : empty.roots = Path.distinct [] := rfl
  exact after_distinct hempty paths

/-- **An ordered set** of the paths that were registered. -/
structure Collects (known : RootSet) (paths : List Path) : Prop where
  /-- No two roots are the same path. -/
  pairwise : known.roots.Pairwise fun root other => ¬root.Same other
  /-- The roots are the registered paths that were not the same as an earlier one, each as it was
  spelled first, in the order in which they came first. -/
  roots_eq : known.roots = Path.firstSpellings paths
  /-- The set knows the paths that are the same as a registered one, and no others. -/
  contains_iff (root : Path) : known.contains root = true ↔ ∃ path ∈ paths, path.Same root
  /-- Registering a path that is known, in any spelling, leaves every byte as it is. -/
  register_eq {root : Path} : known.contains root = true → known.register root = known

/-- **A set that began empty** is an ordered set of what was registered since. -/
theorem collects_after (paths : List Path) : (empty.after paths).Collects paths where
  pairwise := by
    rw [roots_after]
    exact Path.distinct_pairwise paths
  roots_eq := by rw [roots_after, Path.distinct_eq_firstSpellings]
  contains_iff := contains_iff_of_distinct (roots_after paths)
  register_eq := register_of_contains

/-- A slash more and a `.` inside are another spelling of the same path; a `.` in front is another path. -/
example : (empty.after (["/gen/a", "gen", "/gen//a/", "./gen", "/gen/./a", "gen/"].map .ofString)).roots
    = ["/gen/a", "gen", "./gen"].map .ofString := by decide +kernel

end RootSet

end SchemaBuild
