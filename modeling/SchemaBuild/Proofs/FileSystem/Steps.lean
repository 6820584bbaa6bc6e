import SchemaBuild.FileSystem.Walk

/-!
# Single steps

What one step of a walk comes to depends on where the walk stands and on what is there, and on nothing
else: neither the steps behind it nor the number of links that may still be followed have a say. So it
is said here once, as the **landing** of the step, and what is proved of a whole walk goes by the
landings of its steps.

The same is done for a chain of directories, in which each path is one step: a directory is **asked
for**, and once more when what was missing above it was made.

* `FileSystem.afterStep` — the landing of a step: the step fails, reaches a place, or meets a link;
* `FileSystem.walkWith_cons` — a walk goes on as its first step lands;
* `FileSystem.walk_cons_of_reaches` and `FileSystem.walk_cons_of_fails` — a first step that meets no
  link, in a walk with any number of links to follow;
* `FileSystem.makeChain_cons_cases` — all that a chain can come to at its first path;
* `FileSystem.makeChain_keeps` — what is kept when one directory is made is kept by the whole chain.
-/

namespace SchemaBuild

/-- Where a step comes to. -/
inductive Landing where
  | fails (error : IoError)
  | reaches (place : Place)
  /-- A link was met: the steps of its target come next, from this place. -/
  | follows (place : Place) (target : List Step)

namespace FileSystem

variable {files : FileSystem} {place next : Place} {step : Step} {location : Location} {name : Bytes}

/-- The landing of a step. Only from a directory a step can be taken. -/
def afterStep (files : FileSystem) (place : Place) (step : Step) : Landing :=
  if files.isDirectoryAtPlace place then
    match step with
    | .stay => .reaches place
    | .up => .reaches place.up
    | .enter name =>
      match place with
      | .removed .. => .fails .notFound
      | .located location =>
        if name.length > nameLimit then .fails .nameTooLong
        else
          match files.node? (location ++ [name]) with
          | none => .fails .notFound
          | some (.link target) => .follows (startOf place target) target.steps
          | some _ => .reaches (.located (location ++ [name]))
  else .fails .notDirectory

/-! ### The first step of a walk -/

/-- **A walk goes on as its first step lands.** -/
theorem walkWith_cons (files : FileSystem) (follow : Place → List Step → Except IoError Place)
    (place : Place) (step : Step) (rest : List Step) :
    files.walkWith follow place (step :: rest) =
      match files.afterStep place step with
      | .fails error => .error error
      | .reaches next => files.walkWith follow next rest
      | .follows next target => follow next (target ++ rest) := by
  rw [walkWith.eq_def, afterStep.eq_def]
  dsimp only
  -- both make the same tests in the same order
  split
  · cases step with
    | stay =>
      -- no step is taken
      rfl
    | up =>
      -- one directory up
      rfl
    | enter name =>
      cases place with
      | removed above depth => rfl
      | located location =>
        dsimp only
        split
        · -- the name is too long
          rfl
        · cases files.node? (location ++ [name]) with
          | none => rfl
          | some node => cases node <;> rfl
  · -- there is no directory to take a step in
    rfl

@[simp] theorem walk_nil (files : FileSystem) (links : Nat) (place : Place) :
    files.walk links place [] = .ok place := by
  cases links <;> rfl

theorem walk_cons_of_reaches (h : files.afterStep place step = .reaches next) (links : Nat)
    (rest : List Step) : files.walk links place (step :: rest) = files.walk links next rest := by
  cases links with
  | zero => rw [walk, walkWith_cons, h]
  | succ links => rw [walk, walkWith_cons, h]

theorem walk_cons_of_fails {error : IoError} (h : files.afterStep place step = .fails error)
    (links : Nat) (rest : List Step) : files.walk links place (step :: rest) = .error error := by
  cases links with
  | zero => rw [walk, walkWith_cons, h]
  | succ links => rw [walk, walkWith_cons, h]

/-! ### What a step comes to -/

theorem afterStep_of_not_directory (h : ¬files.isDirectoryAtPlace place = true) :
    files.afterStep place step = .fails .notDirectory := by
  unfold afterStep
  exact if_neg h

theorem afterStep_stay (h : files.isDirectoryAtPlace place = true) :
    files.afterStep place .stay = .reaches place := by
  rw [afterStep, if_pos h]

theorem afterStep_up (h : files.isDirectoryAtPlace place = true) :
    files.afterStep place .up = .reaches place.up := by
  rw [afterStep, if_pos h]

/-- Whatever is no link can be entered, a file as well: only a step from there would fail. -/
theorem afterStep_enter {node : Node} (h : files.isDirectoryAt location = true)
    (hname : name.length ≤ nameLimit) (hnode : files.node? (location ++ [name]) = some node)
    (hlink : ∀ target, node ≠ .link target) :
    files.afterStep (.located location) (.enter name) = .reaches (.located (location ++ [name])) := by
  have hdirectory : files.isDirectoryAtPlace (.located location) = true := h
  rw [afterStep, if_pos hdirectory, if_neg (Nat.not_lt.mpr hname), hnode]
  cases node with
  | directory entries =>
    -- a directory is entered
    rfl
  | file content executable =>
    -- a file is reached as well, and it is the next step that fails there
    rfl
  | link target =>
    -- a link is excluded
    exact absurd rfl (hlink target)

theorem afterStep_enter_missing (h : files.isDirectoryAt location = true)
    (hname : name.length ≤ nameLimit) (hnone : files.node? (location ++ [name]) = none) :
    files.afterStep (.located location) (.enter name) = .fails .notFound := by
  have hdirectory : files.isDirectoryAtPlace (.located location) = true := h
  rw [afterStep, if_pos hdirectory, if_neg (Nat.not_lt.mpr hname), hnone]

/-! ### One path of a chain -/

section Chain

variable {here : Place} {path : Path} {above : List Path}

/-- What comes of asking for one directory: it is made, or it cannot be made, which is no failure if
it is there all the same. -/
def attempt (files : FileSystem) (here : Place) (path : Path) : Except IoError Unit × FileSystem :=
  match files.makeDirectory here path with
  | .ok made => (.ok (), made)
  | .error error => (makeChain.afterFailure here files path error, files)

theorem makeChain_of_isEmpty (h : path.isEmpty = true) (above : List Path) (files : FileSystem) :
    makeChain here (path :: above) files = (.ok (), files) := by
  rw [makeChain, if_pos h]

/-- If nothing is missing above the directory it is asked for once. -/
theorem makeChain_of_attempt (hpath : path.isEmpty = false)
    (h : files.makeDirectory here path ≠ .error .notFound) (above : List Path) :
    makeChain here (path :: above) files = files.attempt here path := by
  rw [makeChain, hpath, if_neg Bool.false_ne_true, attempt]
  cases hmake : files.makeDirectory here path with
  | ok made =>
    -- the directory could be made
    rfl
  | error error =>
    cases error with
    | notFound =>
      -- something is missing above it, which is excluded
      exact absurd hmake h
    | _ => rfl

/-- If something is missing above the directory, the chain above it comes first. -/
theorem makeChain_of_missing (hpath : path.isEmpty = false)
    (h : files.makeDirectory here path = .error .notFound) :
    makeChain here (path :: above) files =
      match makeChain here above files with
      | (.error error, between) => (.error error, between)
      | (.ok (), between) => between.attempt here path := by
  rw [makeChain, hpath, if_neg Bool.false_ne_true, h]
  rfl

/-- **All that a chain can come to** at its first path: there is no path, the directory is asked for
once, the chain above it fails, or it is asked for again below what was made. -/
theorem makeChain_cons_cases (here : Place) (path : Path) (above : List Path) (files : FileSystem) :
    path.isEmpty = true ∧ makeChain here (path :: above) files = (.ok (), files) ∨
    path.isEmpty = false ∧ files.makeDirectory here path ≠ .error .notFound ∧
      makeChain here (path :: above) files = files.attempt here path ∨
    path.isEmpty = false ∧ files.makeDirectory here path = .error .notFound ∧
      ((∃ error between, makeChain here above files = (.error error, between) ∧
          makeChain here (path :: above) files = (.error error, between)) ∨
        ∃ between, makeChain here above files = (.ok (), between) ∧
          makeChain here (path :: above) files = between.attempt here path) := by
  cases hpath : path.isEmpty with
  | true =>
    -- nothing is made for the empty path
    exact .inl ⟨rfl, makeChain_of_isEmpty hpath above files⟩
  | false =>
    refine .inr ?_
    by_cases hmissing : files.makeDirectory here path = .error .notFound
    · -- the paths above are made first
      refine .inr ⟨rfl, hmissing, ?_⟩
      rw [makeChain_of_missing hpath hmissing]
      obtain ⟨error | _, between⟩ := makeChain here above files
      · -- one of them cannot be made, and the path is not attempted
        exact .inl ⟨error, between, rfl, rfl⟩
      · -- all of them are there by now, and the path is attempted
        exact .inr ⟨between, rfl, rfl⟩
    · -- nothing is missing above it
      exact .inl ⟨rfl, hmissing, makeChain_of_attempt hpath hmissing above⟩

/-- **What is kept when one directory is made** is kept when a chain is made, also when that fails half
way. -/
theorem makeChain_keeps (Keeps : FileSystem → FileSystem → Prop) {paths : List Path}
    (hrefl : ∀ files, Keeps files files)
    (htrans : ∀ {first second third}, Keeps first second → Keeps second third → Keeps first third)
    (hmake : ∀ path ∈ paths, ∀ {before after}, makeDirectory before here path = .ok after →
      Keeps before after) (files : FileSystem) :
    Keeps files (makeChain here paths files).2 := by
  induction paths with
  | nil =>
    -- nothing is made
    exact hrefl files
  | cons path above ih =>
    have hattempt : ∀ between, Keeps between (between.attempt here path).2 := by
      intro between
      unfold attempt
      split
      · next made hmade =>
        -- the directory could be made
        exact hmake path List.mem_cons_self hmade
      · -- nothing was made
        exact hrefl between
    have habove := ih fun other hmem => hmake other (List.mem_cons_of_mem _ hmem)
    obtain ⟨-, hchain⟩ | ⟨-, -, hchain⟩ | ⟨-, -, ⟨error, between, hbetween, hchain⟩ |
      ⟨between, hbetween, hchain⟩⟩ := makeChain_cons_cases here path above files
    · -- the path is empty
      rw [hchain]
      exact hrefl files
    · -- the path is attempted at once
      rw [hchain]
      exact hattempt files
    · -- the paths above could not all be made
      rw [hbetween] at habove
      rw [hchain]
      exact habove
    · -- the paths above were made, and then the path was attempted
      rw [hbetween] at habove
      rw [hchain]
      exact htrans habove (hattempt between)

end Chain

end FileSystem

end SchemaBuild
