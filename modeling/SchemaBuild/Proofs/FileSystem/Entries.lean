import SchemaBuild.Proofs.FileSystem.Growth
import SchemaBuild.Proofs.Path.Segments

/-!
# Entries of directories

What a name behind the path of a directory leads to is decided by the entries of the directory,
however the directory itself is reached: along links, with a slash at the end, or from a working
directory that has been removed.

* `FileSystem.walk_of_staysLeftOut` — steps that stay can be left out of a walk;
* `FileSystem.locate_join` — the walk to the joined path is the walk to the directory and then the
  step that the name stands for;
* `FileSystem.find_join_of_file` — the name of a file in the directory leads to this file;
* `FileSystem.find_join_of_no_entry` — a name without an entry leads to no file.
-/

namespace SchemaBuild

/-! ### Steps -/

/-- A name behind a path is one more step, and a slash at the end of the path asks for nothing. -/
theorem Path.steps_join {name : Bytes} (folder : Path) (hslash : slash ∉ name) (hne : name ≠ []) :
    (folder.join ⟨name⟩).steps = folder.plainSteps ++ [Step.ofSegment name] := by
  rw [steps, plainSteps_join (isAbsolute_of_noSlash hslash hne), plainSteps_of_noSlash hslash hne,
    endsInSlash_join folder hslash hne, if_neg Bool.false_ne_true, List.append_nil]

namespace FileSystem

variable {files : FileSystem} {here place goal : Place} {folder : Path} {name : Bytes}
  {entries : List (Bytes × Node)}

/-- Steps of which some that stay are left out. -/
inductive StaysLeftOut : List Step → List Step → Prop
  | nil : StaysLeftOut [] []
  | keep {before after : List Step} (step : Step) (h : StaysLeftOut before after) :
    StaysLeftOut (step :: before) (step :: after)
  | leave {before after : List Step} (h : StaysLeftOut before after) :
    StaysLeftOut (.stay :: before) after

namespace StaysLeftOut

theorem refl (steps : List Step) : StaysLeftOut steps steps := by
  induction steps with
  | nil => exact .nil
  | cons step steps ih => exact ih.keep step

theorem append {a b a' b' : List Step} (ha : StaysLeftOut a a') (hb : StaysLeftOut b b') :
    StaysLeftOut (a ++ b) (a' ++ b') := by
  induction ha with
  | nil => exact hb
  | keep step _ ih => exact ih.keep step
  | leave _ ih => exact ih.leave

/-- All of them can be left out. -/
theorem filter (steps : List Step) : StaysLeftOut steps (steps.filter (· ≠ .stay)) := by
  induction steps with
  | nil => exact .nil
  | cons step steps ih =>
    -- a step that stays is left out
    by_cases hstep : step = .stay
    · rw [List.filter_cons_of_neg (by simp [hstep]), hstep]
      exact ih.leave
    · -- any other step is kept
      rw [List.filter_cons_of_pos (by simp [hstep])]
      exact ih.keep step

end StaysLeftOut

/-- One round of a walk that comes to its end comes to the same end without steps that stay. -/
theorem walkWith_of_staysLeftOut {follow : Place → List Step → Except IoError Place}
    (hfollow : ∀ place before after, StaysLeftOut before after → follow place before = .ok goal →
      follow place after = .ok goal)
    {before after : List Step} (hsteps : StaysLeftOut before after)
    (h : files.walkWith follow place before = .ok goal) :
    files.walkWith follow place after = .ok goal := by
  induction hsteps generalizing place with
  | nil => exact h
  | leave _ ih =>
    rw [walkWith_cons] at h
    by_cases hdirectory : files.isDirectoryAtPlace place = true
    · -- where there is a directory the step stays there
      rw [afterStep_stay hdirectory] at h
      exact ih h
    · -- where there is none the walk fails already
      rw [afterStep_of_not_directory hdirectory] at h
      cases h
  | @keep before after step hrest ih =>
    rw [walkWith_cons] at h ⊢
    cases hstep : files.afterStep place step with
    | fails error =>
      -- the step fails, and so does the walk
      rw [hstep] at h
      cases h
    | reaches next =>
      -- the steps behind are taken from the next place
      rw [hstep] at h
      exact ih h
    | follows next target =>
      rw [hstep] at h
      -- the steps of the target are all taken, and those behind it as here
      exact hfollow _ _ _ ((StaysLeftOut.refl target).append hrest) h

/-- **Steps that stay** can be left out of a walk that comes to its end. -/
theorem walk_of_staysLeftOut {links : Nat} {before after : List Step}
    (hsteps : StaysLeftOut before after) (h : files.walk links place before = .ok goal) :
    files.walk links place after = .ok goal := by
  induction links generalizing place before after with
  | zero =>
    -- no link may be followed any more
    exact walkWith_of_staysLeftOut (fun _ _ _ _ hfollow => by cases hfollow) hsteps h
  | succ links ih =>
    have hfollow : ∀ place before after, StaysLeftOut before after →
        files.walk links place before = .ok goal → files.walk links place after = .ok goal :=
      fun _ _ _ => ih
    exact walkWith_of_staysLeftOut hfollow hsteps h

/-- A walk along a path comes along the steps of the path alone. -/
theorem walk_plainSteps {links : Nat} {path : Path}
    (h : files.walk links place path.steps = .ok goal) :
    files.walk links place path.plainSteps = .ok goal := by
  refine walk_of_staysLeftOut ?_ h
  have hend : StaysLeftOut (if path.endsInSlash then [Step.stay] else []) [] := by
    split
    · -- the slash at the end is a step that stays
      exact StaysLeftOut.nil.leave
    · exact .nil
  have hsteps := (StaysLeftOut.refl path.plainSteps).append hend
  rwa [List.append_nil] at hsteps

/-- What can be looked at: a path that is not empty, not too long and has no NUL in it. -/
theorem pathError?_eq_none_iff {path : Path} :
    pathError? path = none ↔ 0 ∉ path.bytes ∧ path.bytes ≠ [] ∧ path.bytes.length < pathLimit := by
  unfold pathError? Path.isEmpty
  split
  · next hnul => simpa using fun h => absurd (List.contains_iff_mem.mp hnul) h
  · next hnul =>
    have hmem : 0 ∉ path.bytes := fun h => hnul (List.contains_iff_mem.mpr h)
    split
    · next hempty => simp [List.isEmpty_iff.mp hempty]
    · next hempty =>
      have hne : path.bytes ≠ [] := fun h => hempty (List.isEmpty_iff.mpr h)
      split <;> simp_all

/-- A path that leads to a place can be looked at. -/
theorem pathError?_of_locate {path : Path} (h : files.locate here path = .ok goal) :
    pathError? path = none := by
  unfold locate at h
  split at h
  · cases h
  · assumption

/-- A path that leads to an object leads to a place. -/
theorem exists_locate_of_find {path : Path} {node : Node} (h : files.find here path = .ok node) :
    ∃ place, files.locate here path = .ok place := by
  cases hlocate : files.locate here path with
  | error error =>
    rw [find, hlocate] at h
    cases h
  | ok place => exact ⟨place, rfl⟩

/-- A path that leads somewhere is not too long. -/
theorem length_lt_of_locate {path : Path} (h : files.locate here path = .ok goal) :
    path.bytes.length < pathLimit :=
  (pathError?_eq_none_iff.mp (pathError?_of_locate h)).2.2

theorem length_lt_of_find {path : Path} {node : Node} (h : files.find here path = .ok node) :
    path.bytes.length < pathLimit := by
  obtain ⟨place, hlocate⟩ := exists_locate_of_find h
  exact length_lt_of_locate hlocate

/-- A path that was followed holds no NUL, so its joined path does not, either. -/
theorem pathError?_join (hfolder : files.locate here folder = .ok goal) (hslash : Path.slash ∉ name)
    (hne : name ≠ []) (hnul : 0 ∉ name)
    (hpath : (folder.join ⟨name⟩).bytes.length < pathLimit) :
    pathError? (folder.join ⟨name⟩) = none := by
  obtain ⟨hnoNul, -, -⟩ := pathError?_eq_none_iff.mp (pathError?_of_locate hfolder)
  obtain ⟨front, hbytes, hfront⟩ :=
    Path.join_bytes_eq_append folder (Path.isAbsolute_of_noSlash hslash hne)
  have hzero : 0 ≠ Path.slash := by decide
  refine pathError?_eq_none_iff.mpr ⟨?_, ?_, hpath⟩
  · -- no NUL is in the folder or in the name
    rw [hbytes]
    obtain rfl | rfl := hfront <;> simp [hnoNul, hnul, hzero]
  · -- the path is not empty, since the name is not
    rw [hbytes]
    simp [hne]

/-- **The walk to a name in a directory** is the walk to the directory and then one step. -/
theorem locate_join {result : Except IoError Place} (hfolder : files.locate here folder = .ok goal)
    (hslash : Path.slash ∉ name) (hne : name ≠ []) (herror : pathError? (folder.join ⟨name⟩) = none)
    (hstep : ∀ links, files.walk links goal [Step.ofSegment name] = result) :
    files.locate here (folder.join ⟨name⟩) = result := by
  unfold locate at hfolder
  split at hfolder
  · cases hfolder
  · next hfine =>
    -- the name does not change where the walk begins
    have hstart : startOf here (folder.join ⟨name⟩) = startOf here folder := by
      obtain ⟨-, hbytes, -⟩ := pathError?_eq_none_iff.mp hfine
      obtain ⟨first, rest, hcons⟩ := List.exists_cons_of_ne_nil hbytes
      have hhead : (folder.join ⟨name⟩).bytes.head? = folder.bytes.head? := by
        have habsolute := Path.isAbsolute_of_noSlash hslash hne
        rw [Path.join, habsolute, if_neg Bool.false_ne_true, hcons]
        split <;> rfl
      rw [startOf, startOf, Path.isAbsolute, hhead]
      rfl
    rw [locate, herror, hstart, Path.steps_join folder hslash hne]
    exact (Grows.refl files).walk_append (fun links _ => hstep links) (walk_plainSteps hfolder)

/-! ### What is in a directory -/

section Directory

variable {location : Location} {content : Bytes} {executable : Bool}
  (hfolder : files.locate here folder = .ok (.located location))
  (hnode : files.node? location = some (.directory entries))

include hnode

theorem isDirectoryAt_of_node : files.isDirectoryAt location = true :=
  isDirectoryAt_iff.mpr (kind?_eq_directory_iff.mpr ⟨entries, hnode⟩)

/-- What stands below a directory is the entry of its name. -/
theorem node?_entry (name : Bytes) : files.node? (location ++ [name]) = entries.lookup name := by
  have hroot : files.root.at? location = some (.directory entries) := hnode
  rw [node?, Node.at?_append, hroot]
  cases hlookup : entries.lookup name <;> simp [Node.at?, Node.child?, hlookup]

/-- Entering what has no entry. -/
theorem walk_enter_of_no_entry (hlookup : entries.lookup name = none) :
    ∃ error, ∀ links, files.walk links (.located location) [.enter name] = .error error := by
  have hdirectory : files.isDirectoryAtPlace (.located location) = true :=
    isDirectoryAt_of_node hnode
  -- the name is too long, or there is nothing to enter
  by_cases hlength : name.length ≤ nameLimit
  · have hnone := (node?_entry hnode name).trans hlookup
    exact ⟨_, fun links =>
      walk_cons_of_fails (afterStep_enter_missing hdirectory hlength hnone) links []⟩
  · have hlong : files.afterStep (.located location) (.enter name) = .fails .nameTooLong := by
      rw [afterStep, if_pos hdirectory, if_pos (Nat.not_le.mp hlength)]
    exact ⟨_, fun links => walk_cons_of_fails hlong links []⟩

/-- Entering a file. -/
theorem walk_enter_of_file (hlookup : entries.lookup name = some (.file content executable))
    (hlength : name.length ≤ nameLimit) (links : Nat) :
    files.walk links (.located location) [.enter name] = .ok (.located (location ++ [name])) := by
  have hfile := (node?_entry hnode name).trans hlookup
  rw [walk_cons_of_reaches (afterStep_enter (isDirectoryAt_of_node hnode) hlength hfile nofun),
    walk_nil]

/-- Staying in a directory, and going up from it, leads to a directory. -/
theorem walk_to_directory {step : Step} (hstep : step = .stay ∨ step = .up) :
    ∃ goal entries', (∀ links, files.walk links (.located location) [step] = .ok (.located goal)) ∧
      files.node? goal = some (.directory entries') := by
  have hdirectory : files.isDirectoryAtPlace (.located location) = true :=
    isDirectoryAt_of_node hnode
  obtain rfl | rfl := hstep
  · -- the directory itself
    refine ⟨location, entries, fun links => ?_, hnode⟩
    rw [walk_cons_of_reaches (afterStep_stay hdirectory), walk_nil]
  · -- above a directory there is a directory, and the root is above itself
    obtain ⟨entries', habove⟩ : ∃ entries', files.node? location.dropLast
        = some (.directory entries') := by
      obtain rfl | ⟨above, name, rfl⟩ := List.eq_nil_or_concat location
      · exact ⟨entries, hnode⟩
      · rw [List.concat_eq_append] at hnode ⊢
        rw [List.dropLast_concat]
        exact Node.at?_above_directory hnode
    refine ⟨location.dropLast, entries', fun links => ?_, habove⟩
    rw [walk_cons_of_reaches (afterStep_up hdirectory), walk_nil, Place.up]

include hfolder

/-- **The name of a file** in a directory leads to the file. -/
theorem find_join_of_file (hslash : Path.slash ∉ name) (hne : name ≠ []) (hdot : name ≠ Path.dot)
    (hdotDot : name ≠ Path.dotDot) (hnul : 0 ∉ name) (hlength : name.length ≤ nameLimit)
    (hpath : (folder.join ⟨name⟩).bytes.length < pathLimit)
    (hlookup : entries.lookup name = some (.file content executable)) :
    files.find here (folder.join ⟨name⟩) = .ok (.file content executable) := by
  have herror := pathError?_join hfolder hslash hne hnul hpath
  have hstep : Step.ofSegment name = .enter name := by
    rw [Step.ofSegment, if_neg hdot, if_neg hdotDot]
  have hlocate : files.locate here (folder.join ⟨name⟩) = .ok (.located (location ++ [name])) := by
    refine locate_join hfolder hslash hne herror fun links => ?_
    rw [hstep]
    exact walk_enter_of_file hnode hlookup hlength links
  rw [find, hlocate]
  dsimp only
  rw [node?_entry hnode, hlookup]

/-- **A name without an entry** leads to no file. -/
theorem find_join_of_no_entry (hslash : Path.slash ∉ name) (hne : name ≠ [])
    (hlookup : entries.lookup name = none) :
    files.find here (folder.join ⟨name⟩) ≠ .ok (.file content executable) := by
  intro hfind
  cases herror : pathError? (folder.join ⟨name⟩) with
  | some error =>
    -- the path cannot be followed
    rw [find, locate, herror] at hfind
    cases hfind
  | none =>
    have hlocate : ∀ {result}, (∀ links, files.walk links (.located location)
        [Step.ofSegment name] = result) → files.locate here (folder.join ⟨name⟩) = result :=
      fun hstep => locate_join hfolder hslash hne herror hstep
    by_cases hfiller : Step.ofSegment name = .stay ∨ Step.ofSegment name = .up
    · -- the directory itself, or the one above it
      obtain ⟨goal, entries', hwalk, hgoal⟩ := walk_to_directory hnode hfiller
      rw [find, hlocate hwalk] at hfind
      dsimp only at hfind
      rw [hgoal] at hfind
      cases hfind
    · -- nothing of that name is there
      have hstep : Step.ofSegment name = .enter name := by
        unfold Step.ofSegment at hfiller ⊢
        split
        · simp_all
        · split <;> simp_all
      obtain ⟨error, hwalk⟩ := walk_enter_of_no_entry hnode hlookup
      rw [← hstep] at hwalk
      rw [find, hlocate hwalk] at hfind
      cases hfind

end Directory

end FileSystem

end SchemaBuild
