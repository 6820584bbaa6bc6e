import SchemaBuild.Proofs.FileSystem.Steps
import SchemaBuild.World

/-!
# Making directories

A file system **grows** when directories are added to it and nothing else happens: what stood at a
location still stands there, a file with its contents and a link with its target. Making directories
is the only change that this library makes to a file system by itself, and growing is all that it
does.

* `FileSystem.kind?` — what stands at a location, without what is in it;
* `FileSystem.Grows` — the relation, a preorder (`Grows.refl`, `Grows.trans`);
* `FileSystem.Grows.walk_eq_ok` — a walk that comes to its end in a file system comes to the same
  end in one that it has grown to;
* `FileSystem.makeDirectories_grows` — making directories grows the file system, also when it fails
  half way;
* `FileSystem.makeDirectories_ok` — when it succeeds the path leads to a directory, the empty path
  apart, for which nothing is made.
-/

namespace SchemaBuild

/-- What an object is, without what is in it. -/
inductive NodeKind where
  | directory
  | file (content : Bytes) (executable : Bool)
  | link (target : Path)

/-- What the object is. -/
def Node.kind : Node → NodeKind
  | directory _ => .directory
  | file content executable => .file content executable
  | link target => .link target

namespace FileSystem

/-- What stands at a location. -/
def kind? (files : FileSystem) (location : Location) : Option NodeKind :=
  (files.node? location).map Node.kind

section Kinds

variable {files : FileSystem} {location : Location}

theorem kind?_eq_none_iff : files.kind? location = none ↔ files.node? location = none :=
  Option.map_eq_none_iff

theorem kind?_eq_directory_iff :
    files.kind? location = some .directory ↔
      ∃ entries, files.node? location = some (.directory entries) := by
  unfold kind?
  cases files.node? location with
  | none => simp
  | some node => cases node <;> simp [Node.kind]

theorem kind?_eq_file_iff {content : Bytes} {executable : Bool} :
    files.kind? location = some (.file content executable) ↔
      files.node? location = some (.file content executable) := by
  unfold kind?
  cases files.node? location with
  | none => simp
  | some node => cases node <;> simp [Node.kind]

theorem kind?_eq_link_iff {target : Path} :
    files.kind? location = some (.link target) ↔ files.node? location = some (.link target) := by
  unfold kind?
  cases files.node? location with
  | none => simp
  | some node => cases node <;> simp [Node.kind]

/-- Nothing is below where nothing is. -/
theorem node?_append_of_none (h : files.node? location = none) (below : Location) :
    files.node? (location ++ below) = none := by
  rw [node?, Node.at?_append, ← node?, h]
  rfl

theorem isDirectoryAt_iff :
    files.isDirectoryAt location = true ↔ files.kind? location = some .directory := by
  unfold kind? isDirectoryAt
  cases files.node? location with
  | none => simp
  | some node => cases node <;> simp [Node.kind, Node.isDirectory]

end Kinds

/-! ### Growing -/

/-- Nothing that was there has changed, and what is new is a directory. -/
structure Grows (before after : FileSystem) : Prop where
  /-- What stood at a location still stands there. -/
  kept : ∀ {location kind}, before.kind? location = some kind → after.kind? location = some kind
  /-- What stands where nothing stood is a directory. -/
  added : ∀ {location kind}, before.kind? location = none → after.kind? location = some kind →
    kind = .directory

namespace Grows

variable {a b c : FileSystem}

theorem refl (files : FileSystem) : files.Grows files where
  kept h := h
  added hnone hsome := by rw [hnone] at hsome; cases hsome

theorem trans (hab : a.Grows b) (hbc : b.Grows c) : a.Grows c where
  kept h := hbc.kept (hab.kept h)
  added {location kind} hnone hsome := by
    cases hb : b.kind? location with
    | none => exact hbc.added hb hsome
    | some middle =>
      -- a directory that the first growth added is still one after the second
      rw [hbc.kept hb] at hsome
      rw [← Option.some.inj hsome]
      exact hab.added hnone hb

theorem isDirectoryAtPlace (h : a.Grows b) {place : Place}
    (hplace : a.isDirectoryAtPlace place = true) : b.isDirectoryAtPlace place = true := by
  cases place with
  | located location => exact isDirectoryAt_iff.mpr (h.kept (isDirectoryAt_iff.mp hplace))
  | removed above depth => rfl

/-- A step that does not fail comes to the same in the grown file system: what is entered is still
there, and of the same kind. -/
theorem afterStep (h : a.Grows b) {place : Place} {step : Step}
    (hlands : ∀ error, a.afterStep place step ≠ .fails error) :
    b.afterStep place step = a.afterStep place step := by
  unfold FileSystem.afterStep at hlands ⊢
  split at hlands
  · next hdirectory =>
    rw [if_pos hdirectory, if_pos (h.isDirectoryAtPlace hdirectory)]
    cases step with
    | stay => rfl
    | up => rfl
    | enter name =>
      cases place with
      | removed above depth =>
        -- no name can be entered where a directory was removed
        rfl
      | located location =>
        dsimp only at hlands ⊢
        split
        · -- the name is too long in both
          rfl
        · next hname =>
          rw [if_neg hname] at hlands
          cases hnode : a.node? (location ++ [name]) with
          | none =>
            -- nothing is there, so the step has failed
            rw [hnode] at hlands
            exact absurd rfl (hlands _)
          | some node =>
            -- a directory may have more in it now, but it is still one
            cases node with
            | directory entries =>
              obtain ⟨entries', hnode'⟩ :=
                kind?_eq_directory_iff.mp (h.kept (kind?_eq_directory_iff.mpr ⟨_, hnode⟩))
              rw [hnode']
            | file content executable =>
              rw [kind?_eq_file_iff.mp (h.kept (kind?_eq_file_iff.mpr hnode))]
            | link target => rw [kind?_eq_link_iff.mp (h.kept (kind?_eq_link_iff.mpr hnode))]
  · -- there is no directory, so the step has failed
    exact absurd rfl (hlands _)

/-- One round of a walk, between two links: what it comes to in a file system it comes to in a grown
one, and further steps are then walked from there. -/
theorem walkWith_append (h : a.Grows b) {follow follow' : Place → List Step → Except IoError Place}
    {goal : Place} {more : List Step} {result : Except IoError Place}
    (hfollow : ∀ place steps, follow place steps = .ok goal →
      follow' place (steps ++ more) = result)
    (hmore : b.walkWith follow' goal more = result) {place : Place} {steps : List Step}
    (hwalk : a.walkWith follow place steps = .ok goal) :
    b.walkWith follow' place (steps ++ more) = result := by
  induction steps generalizing place with
  | nil =>
    cases hwalk
    exact hmore
  | cons step rest ih =>
    rw [walkWith_cons] at hwalk
    have hlands : ∀ error, a.afterStep place step ≠ .fails error := by
      intro error hfails
      rw [hfails] at hwalk
      cases hwalk
    rw [List.cons_append, walkWith_cons, h.afterStep hlands]
    cases hstep : a.afterStep place step with
    | fails error => exact absurd hstep (hlands error)
    | reaches next =>
      -- the step leads to the same place in both
      rw [hstep] at hwalk
      exact ih hwalk
    | follows next target =>
      rw [hstep] at hwalk
      -- the steps of the link come before the rest, so the further steps stay behind both
      dsimp only
      rw [← List.append_assoc]
      exact hfollow _ _ hwalk

/-- A walk that comes to its end comes to the same end in the grown file system, and goes on from
there with at most as many links to follow. -/
theorem walk_append (h : a.Grows b) {links : Nat} {place goal : Place} {steps more : List Step}
    {result : Except IoError Place} (hmore : ∀ n ≤ links, b.walk n goal more = result)
    (hwalk : a.walk links place steps = .ok goal) :
    b.walk links place (steps ++ more) = result := by
  induction links generalizing place steps with
  | zero =>
    -- no link may be followed here, and none was
    exact h.walkWith_append (fun _ _ hfollow => by cases hfollow) (hmore 0 (Nat.le_refl 0)) hwalk
  | succ links ih =>
    have hfollow : ∀ place steps, a.walk links place steps = .ok goal →
        b.walk links place (steps ++ more) = result :=
      fun _ _ hfollow => ih (fun n hn => hmore n (Nat.le_succ_of_le hn)) hfollow
    exact h.walkWith_append hfollow (hmore (links + 1) (Nat.le_refl _)) hwalk

/-- A walk that comes to its end comes to the same end in the grown file system. -/
theorem walk_eq_ok (h : a.Grows b) {links : Nat} {place goal : Place} {steps : List Step}
    (hwalk : a.walk links place steps = .ok goal) : b.walk links place steps = .ok goal := by
  have hall := h.walk_append (fun n _ => walk_nil b n goal) hwalk
  rwa [List.append_nil] at hall

end Grows

/-! ### Putting a directory where nothing is -/

end FileSystem

namespace Node

/-- What is above a directory is a directory. -/
theorem at?_above_directory {node : Node} {above below : Location} {entries : List (Bytes × Node)}
    (h : node.at? (above ++ below) = some (directory entries)) :
    ∃ entries', node.at? above = some (directory entries') := by
  rw [at?_append] at h
  cases hnode : node.at? above with
  | none =>
    -- nothing is above
    simp [hnode] at h
  | some middle =>
    rw [hnode] at h
    cases middle with
    | directory entries' => exact ⟨entries', rfl⟩
    | file content executable => cases below <;> simp [at?, child?] at h
    | link target => cases below <;> simp [at?, child?] at h

/-- Where a directory is, one still is when something is put below it. -/
theorem at?_put_above (new : Node) {node : Node} {above below : Location}
    {entries : List (Bytes × Node)} (hbelow : below ≠ [])
    (h : node.at? above = some (directory entries)) :
    ∃ entries', (put new node (above ++ below)).at? above = some (directory entries') := by
  induction above generalizing node with
  | nil =>
    -- the directory itself: its entries change, its kind does not
    obtain rfl : node = directory entries := by simpa using h
    obtain ⟨name, rest, rfl⟩ := List.exists_cons_of_ne_nil hbelow
    simp only [List.nil_append, put, at?_nil]
    cases entries.lookup name with
    | some child =>
      -- what is below it is put into the entry
      exact ⟨_, rfl⟩
    | none =>
      -- the entry is a new one
      by_cases hrest : rest = [] <;> simp [hrest]
  | cons first above ih =>
    -- nothing can be put below a file
    cases node with
    | file => simp [at?, child?] at h
    | link => simp [at?, child?] at h
    | directory es =>
      -- the first name leads on
      simp only [at?, child?] at h
      cases hl : es.lookup first with
      | none => simp [hl] at h
      | some child =>
        rw [hl] at h
        simp only [List.cons_append, put, hl, at?, child?, Table.lookup_set, beq_self_eq_true,
          if_true]
        exact ih h

end Node

namespace FileSystem

section Put

variable {files : FileSystem} {above : Location} {name : Bytes}

theorem node?_put (files : FileSystem) (location : Location) (name : Bytes) (new : Node)
    (other : Location) :
    (files.put (location ++ [name]) new).node? other
      = (Node.put new files.root (location ++ [name])).at? other := by
  unfold put node? root
  cases location with
  | nil =>
    simp only [List.nil_append, Node.put]
    cases files.entries.lookup name <;> rfl
  | cons first rest =>
    simp only [List.cons_append, Node.put]
    cases files.entries.lookup first with
    | some child => rfl
    | none => simp [ofRoot]

/-- The new directory is there, and nothing is in it. -/
theorem node?_put_directory (habove : files.isDirectoryAt above = true) :
    (files.put (above ++ [name]) (.directory [])).node? (above ++ [name])
      = some (.directory []) := by
  obtain ⟨entries, hnode⟩ := kind?_eq_directory_iff.mp (isDirectoryAt_iff.mp habove)
  rw [node?_put]
  exact Node.at?_put_self _ hnode

/-- Anywhere but at the new directory and below it stands what stood there. -/
theorem kind?_put_directory (habove : files.isDirectoryAt above = true) {other : Location}
    (hother : ¬above ++ [name] <+: other) :
    (files.put (above ++ [name]) (.directory [])).kind? other = files.kind? other := by
  obtain ⟨entries, hnode⟩ := kind?_eq_directory_iff.mp (isDirectoryAt_iff.mp habove)
  by_cases hprefix : other <+: above ++ [name]
  · -- above the new directory stand directories, and they stay directories
    obtain ⟨rest, hrest⟩ := hprefix
    obtain rfl | ⟨below, last, rfl⟩ := List.eq_nil_or_concat rest
    · exact absurd ⟨[], by rw [← hrest, List.append_nil, List.append_nil]⟩ hother
    rw [List.concat_eq_append, ← List.append_assoc] at hrest
    obtain ⟨rfl, hlast⟩ := List.append_inj' hrest rfl
    cases hlast
    obtain ⟨_, hold⟩ := Node.at?_above_directory hnode
    obtain ⟨_, hnew⟩ := Node.at?_put_above (.directory []) (by simp : below ++ [name] ≠ []) hold
    rw [kind?_eq_directory_iff.mpr ⟨_, hold⟩, kind?_eq_directory_iff, node?_put, List.append_assoc]
    exact ⟨_, hnew⟩
  · rw [kind?, node?_put, Node.at?_put_of_not_prefix _ _ hother hprefix]
    rfl

/-- **Putting a directory where nothing is** grows the file system. -/
theorem grows_put (habove : files.isDirectoryAt above = true)
    (hfree : files.node? (above ++ [name]) = none) :
    files.Grows (files.put (above ++ [name]) (.directory [])) where
  kept {other kind} hold := by
    by_cases hbelow : above ++ [name] <+: other
    · -- below the new directory there was nothing to keep
      obtain ⟨rest, rfl⟩ := hbelow
      have hnone : files.kind? (above ++ [name] ++ rest) = none := by
        rw [kind?_eq_none_iff]
        exact node?_append_of_none hfree rest
      rw [hnone] at hold
      cases hold
    · rw [kind?_put_directory habove hbelow, hold]
  added {other kind} hnone hnew := by
    by_cases hbelow : above ++ [name] <+: other
    · -- there the new directory stands, and below it there is nothing yet
      obtain ⟨rest, rfl⟩ := hbelow
      rw [kind?, node?, Node.at?_append, ← node?, node?_put_directory habove] at hnew
      cases rest with
      | nil => exact (Option.some.inj hnew).symm
      | cons first rest => cases hnew
    · rw [kind?_put_directory habove hbelow, hnone] at hnew
      cases hnew

end Put

/-! ### Making one directory -/

/-- Entering a directory, and staying in it. -/
theorem walk_enter_directory {files : FileSystem} {above : Location} {name : Bytes}
    {entries : List (Bytes × Node)} (habove : files.isDirectoryAt above = true)
    (hname : name.length ≤ nameLimit)
    (hnode : files.node? (above ++ [name]) = some (.directory entries)) (links : Nat)
    (slash : Bool) :
    files.walk links (.located above) (.enter name :: if slash then [.stay] else [])
      = .ok (.located (above ++ [name])) := by
  have hinside : files.isDirectoryAtPlace (.located (above ++ [name])) = true :=
    isDirectoryAt_iff.mpr (kind?_eq_directory_iff.mpr ⟨entries, hnode⟩)
  rw [walk_cons_of_reaches (afterStep_enter habove hname hnode nofun)]
  cases slash with
  | false =>
    -- nothing stands behind the name
    exact walk_nil files links _
  | true =>
    -- a slash behind the name stays in the directory
    exact (walk_cons_of_reaches (afterStep_stay hinside) links []).trans (walk_nil _ _ _)

/-- What making a directory does: the path leads to where nothing is, in a directory, and the new
directory is put there. -/
theorem makeDirectory_eq_ok {files made : FileSystem} {here : Place} {path : Path}
    (h : files.makeDirectory here path = .ok made) :
    ∃ above name, pathError? path = none ∧ path.plainSteps.getLast? = some (.enter name) ∧
      files.walk linkLimit (startOf here path) path.plainSteps.dropLast = .ok (.located above) ∧
      files.isDirectoryAt above = true ∧ name.length ≤ nameLimit ∧
      files.node? (above ++ [name]) = none ∧
      made = files.put (above ++ [name]) (.directory []) := by
  unfold makeDirectory at h
  -- one test after the other, and only one way through all of them
  split at h
  · -- the path cannot be followed
    cases h
  · next herror =>
    split at h
    · -- there is no last step
      cases h
    · next last hlast =>
      split at h
      · -- the steps before fail
        cases h
      · next place hwalk =>
        split at h
        · next hdirectory =>
          split at h
          · cases h
          · next name above =>
            split at h
            · -- the name is too long
              cases h
            · next hname =>
              split at h
              · -- the name is taken
                cases h
              · next hfree =>
                cases h
                exact ⟨above, name, herror, hlast, hwalk, hdirectory, Nat.not_lt.mp hname, hfree,
                  rfl⟩
          · -- the last step is none that enters a name
            cases h
        · -- there is no directory to make it in
          cases h

theorem makeDirectory_grows {files made : FileSystem} {here : Place} {path : Path}
    (h : files.makeDirectory here path = .ok made) : files.Grows made := by
  obtain ⟨above, name, -, -, -, habove, -, hfree, rfl⟩ := makeDirectory_eq_ok h
  exact grows_put habove hfree

/-- The path of a directory that was made leads to the new directory, which stands where nothing
stood. -/
theorem locate_of_makeDirectory {files made : FileSystem} {here : Place} {path : Path}
    (h : files.makeDirectory here path = .ok made) :
    ∃ above name, files.isDirectoryAt above = true ∧ files.node? (above ++ [name]) = none ∧
      made = files.put (above ++ [name]) (.directory []) ∧
      made.locate here path = .ok (.located (above ++ [name])) := by
  have hgrows := makeDirectory_grows h
  obtain ⟨above, name, herror, hlast, hwalk, habove, hname, hfree, rfl⟩ := makeDirectory_eq_ok h
  have hnode : (files.put (above ++ [name]) (.directory [])).node? (above ++ [name])
      = some (.directory []) := node?_put_directory habove
  have habove' : (files.put (above ++ [name]) (.directory [])).isDirectoryAt above = true :=
    isDirectoryAt_iff.mpr (hgrows.kept (isDirectoryAt_iff.mp habove))
  -- the walk to the end of the path is the walk above it, and then the step into the new directory
  have hsteps : path.steps = path.plainSteps.dropLast
      ++ (.enter name :: if path.endsInSlash then [.stay] else []) := by
    obtain ⟨before, hplain⟩ := List.getLast?_eq_some_iff.mp hlast
    rw [Path.steps, hplain, List.dropLast_concat, List.append_assoc]
    rfl
  refine ⟨above, name, habove, hfree, rfl, ?_⟩
  rw [locate, herror, hsteps]
  exact hgrows.walk_append
    (fun n _ => walk_enter_directory habove' hname hnode n path.endsInSlash) hwalk

/-- The path of a directory that was made leads to a directory. -/
theorem find_of_makeDirectory {files made : FileSystem} {here : Place} {path : Path}
    (h : files.makeDirectory here path = .ok made) : made.find here path = .ok (.directory []) := by
  obtain ⟨above, name, habove, -, rfl, hlocate⟩ := locate_of_makeDirectory h
  rw [find, hlocate]
  dsimp only
  rw [node?_put_directory habove]

/-! ### Making all directories of a path -/

/-- Making the directories of a chain grows the file system, also when it fails. -/
theorem makeChain_grows (here : Place) (paths : List Path) (files : FileSystem) :
    files.Grows (makeChain here paths files).2 :=
  makeChain_keeps Grows .refl .trans (fun _ _ _ _ => makeDirectory_grows) files

/-- **Making directories** grows the file system, also when it fails. -/
theorem makeDirectories_grows (files : FileSystem) (here : Place) (path : Path) :
    files.Grows (files.makeDirectories here path).2 :=
  makeChain_grows here _ files

theorem afterFailure_eq_ok {files : FileSystem} {here : Place} {path : Path} {error : IoError}
    (h : makeChain.afterFailure here files path error = .ok ()) :
    ∃ entries, files.find here path = .ok (.directory entries) := by
  unfold makeChain.afterFailure at h
  split at h
  · next entries hfind => exact ⟨entries, hfind⟩
  · cases h

/-- A directory that was asked for without a failure is there, whether it was made or not. -/
theorem find_of_attempt {files after : FileSystem} {here : Place} {path : Path}
    (h : files.attempt here path = (.ok (), after)) :
    ∃ entries, after.find here path = .ok (.directory entries) := by
  unfold attempt at h
  split at h
  · next made hmade =>
    -- it was made just now
    cases h
    exact ⟨[], find_of_makeDirectory hmade⟩
  · -- it was there before
    obtain ⟨hfailure, rfl⟩ := Prod.mk.inj h
    exact afterFailure_eq_ok hfailure

/-- **Directories that were made are there**: the path leads to a directory then. For the empty path
nothing is made. -/
theorem makeDirectories_ok {files after : FileSystem} {here : Place} {path : Path}
    (h : files.makeDirectories here path = (.ok (), after)) :
    (∃ entries, after.find here path = .ok (.directory entries)) ∨
      path.isEmpty = true ∧ after = files := by
  rw [makeDirectories] at h
  obtain ⟨hempty, hchain⟩ | ⟨-, -, hchain⟩ | ⟨-, -, ⟨error, between, -, hchain⟩ |
    ⟨between, -, hchain⟩⟩ := makeChain_cons_cases here path path.parents files
  · -- nothing is made for the empty path
    rw [hchain] at h
    cases h
    exact .inr ⟨hempty, rfl⟩
  · -- the directory is made at once
    rw [hchain] at h
    exact .inl (find_of_attempt h)
  · -- a directory above could not be made
    rw [hchain] at h
    cases h
  · -- the directories above are made first
    rw [hchain] at h
    exact .inl (find_of_attempt h)

end FileSystem

end SchemaBuild
