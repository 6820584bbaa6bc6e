import Mathlib.Data.List.Induction
import Mathlib.Data.List.Infix
import SchemaBuild.Proofs.FileSystem.Absolute
import SchemaBuild.Proofs.FileSystem.Named

/-!
# What is in the way of a path

All directories of a path can be made where nothing but directories is in its way. What is in the way
is told by the prefixes of the path: one that names something leads to a directory. That is enough
unless the path goes up out of something that is missing, as `a/../b` does without `a`. What is behind
that names nothing until the missing directory is made, and is in the way from then on.

* `FileSystem.walk_append_error` — a walk that fails fails in the same way with more steps behind it;
* `FileSystem.LeadsTo` — steps that lead from a place to a directory;
* `FileSystem.Unobstructed`, `FileSystem.Clear` — nothing is in the way of a path, now and while its
  directories are made;
* `FileSystem.reached_or_missing` — each prefix is there or is missing then;
* `FileSystem.Unobstructed.of_grows` — directories that are added are not in the way;
* `FileSystem.clear_of_directories` — where there are only directories nothing is in the way of a path.
-/

namespace SchemaBuild.FileSystem

variable {files grown : FileSystem} {here place goal : Place} {origin location : Location}
  {path : Path} {links : Nat} {steps target before more : List Step} {step : Step} {name : Bytes}
  {error : IoError}

/-! ### Walks that fail -/

/-- One round of a walk that fails fails in the same way with more steps behind it. -/
theorem walkWith_append_error {follow : Place → List Step → Except IoError Place}
    (hfollow : ∀ place steps, follow place steps = .error error →
      follow place (steps ++ more) = .error error)
    (h : files.walkWith follow place steps = .error error) :
    files.walkWith follow place (steps ++ more) = .error error := by
  induction steps generalizing place with
  | nil => cases h
  | cons step rest ih =>
    rw [walkWith_cons] at h
    rw [List.cons_append, walkWith_cons]
    cases hstep : files.afterStep place step with
    | fails found =>
      -- it fails within the steps
      rw [hstep] at h
      exact h
    | reaches next =>
      -- the next step fails
      rw [hstep] at h
      exact ih h
    | follows next target =>
      -- a link is followed, and the steps behind its target go on
      rw [hstep] at h
      dsimp only
      rw [← List.append_assoc]
      exact hfollow _ _ h

/-- **A walk that fails** fails in the same way with more steps behind it. -/
theorem walk_append_error (h : files.walk links place steps = .error error) :
    files.walk links place (steps ++ more) = .error error := by
  induction links generalizing place steps with
  | zero => exact walkWith_append_error (fun _ _ hfollow => hfollow) h
  | succ links ih => exact walkWith_append_error (fun _ _ hfollow => ih hfollow) h

/-! ### Steps that lead to directories -/

/-- The steps lead from the directory `origin` to the directory at a location. -/
structure LeadsTo (files : FileSystem) (origin : Location) (steps : List Step) (location : Location) :
    Prop where
  walk : files.walk linkLimit (.located origin) steps = .ok (.located location)
  directory : files.isDirectoryAt location = true

namespace LeadsTo

theorem refl (h : files.isDirectoryAt origin = true) : files.LeadsTo origin [] origin where
  walk := rfl
  directory := h

theorem of_grows (h : files.LeadsTo origin steps location) (hgrows : files.Grows grown) :
    grown.LeadsTo origin steps location where
  walk := hgrows.walk_eq_ok h.walk
  directory := isDirectoryAt_iff.mpr (hgrows.kept (isDirectoryAt_iff.mp h.directory))

/-- What further steps come to, however many links may be followed, the whole walk comes to. -/
theorem walk_append {result : Except IoError Place} (h : files.LeadsTo origin steps location)
    (hmore : ∀ links, files.walk links (.located location) more = result) :
    files.walk linkLimit (.located origin) (steps ++ more) = result :=
  (Grows.refl files).walk_append (fun links _ => hmore links) h.walk

theorem stay (h : files.LeadsTo origin steps location) :
    files.LeadsTo origin (steps ++ [.stay]) location where
  walk := h.walk_append (walk_stay h.directory)
  directory := h.directory

/-- Steps that stay lead no further. -/
theorem stays (h : files.LeadsTo origin steps location) (hstays : ∀ step ∈ more, step = .stay) :
    files.LeadsTo origin (steps ++ more) location := by
  induction more generalizing steps with
  | nil => rwa [List.append_nil]
  | cons step more ih =>
    rw [List.append_cons, hstays step List.mem_cons_self]
    exact ih h.stay fun other hmem => hstays other (List.mem_cons_of_mem _ hmem)

theorem up (h : files.LeadsTo origin steps location) :
    files.LeadsTo origin (steps ++ [.up]) location.dropLast where
  walk := by
    have hplace : files.isDirectoryAtPlace (.located location) = true := h.directory
    refine h.walk_append fun links => ?_
    rw [walk_cons_of_reaches (afterStep_up hplace), walk_nil, Place.up]
  directory := by
    obtain rfl | ⟨above, last, rfl⟩ := List.eq_nil_or_concat location
    · -- above the root is the root
      exact h.directory
    · -- above any other directory is the one that has it
      rw [List.concat_eq_append, List.dropLast_concat]
      have hdirectory := h.directory
      rw [List.concat_eq_append] at hdirectory
      obtain ⟨entries, habove⟩ := exists_directory_above hdirectory
      exact isDirectoryAt_of_node habove

theorem enter (h : files.LeadsTo origin steps location) (hname : name.length ≤ nameLimit)
    (hinside : files.isDirectoryAt (location ++ [name]) = true) :
    files.LeadsTo origin (steps ++ [.enter name]) (location ++ [name]) where
  walk := by
    obtain ⟨entries, hnode⟩ := kind?_eq_directory_iff.mp (isDirectoryAt_iff.mp hinside)
    exact h.walk_append fun links => walk_enter_directory h.directory hname hnode links false
  directory := hinside

/-- A name that is missing cannot be entered. -/
theorem enter_missing (h : files.LeadsTo origin steps location) (hname : name.length ≤ nameLimit)
    (hnone : files.node? (location ++ [name]) = none) :
    files.walk linkLimit (.located origin) (steps ++ [.enter name]) = .error .notFound :=
  h.walk_append fun links =>
    walk_cons_of_fails (afterStep_enter_missing h.directory hname hnone) links []

/-- What is new is a directory, which can be entered. -/
theorem enter_new (h : grown.LeadsTo origin steps location) (hgrows : files.Grows grown)
    (hname : name.length ≤ nameLimit) (hnone : files.node? (location ++ [name]) = none)
    (hsome : grown.node? (location ++ [name]) ≠ none) :
    grown.LeadsTo origin (steps ++ [.enter name]) (location ++ [name]) := by
  obtain ⟨kind, hkind⟩ := Option.ne_none_iff_exists'.mp (mt kind?_eq_none_iff.mp hsome)
  refine h.enter hname ?_
  rw [isDirectoryAt_iff, hkind, hgrows.added (kind?_eq_none_iff.mpr hnone) hkind]

end LeadsTo

/-! ### What is in the way -/

/-- **Nothing is in the way** of steps: where some of them, from the first one on, name something,
they lead to a directory. -/
def Unobstructed (files : FileSystem) (origin : Location) (steps : List Step) : Prop :=
  ∀ before name location, before ++ [.enter name] <+: steps →
    files.walk linkLimit (.located origin) before = .ok (.located location) →
    files.node? (location ++ [name]) ≠ none →
    ∃ goal, files.LeadsTo origin (before ++ [.enter name]) goal

/-- The steps go up somewhere where nothing is. -/
def GoesUpFromMissing (files : FileSystem) (origin : Location) (steps : List Step) : Prop :=
  ∃ before error, before ++ [.up] <+: steps ∧
    files.walk linkLimit (.located origin) before = .error error

/-- **Nothing is in the way of a path**, now and while its directories are made. -/
structure Clear (files : FileSystem) (here : Place) (origin : Location) (path : Path) : Prop where
  /-- Nothing is in the way now. -/
  now : files.Unobstructed origin path.plainSteps
  /-- If the path goes up out of something that is missing, nothing is in the way, either, when
  directories of the path are there. -/
  later : files.GoesUpFromMissing origin path.plainSteps →
    ∀ grown, files.Adds grown here (path :: path.parents) →
      grown.Unobstructed origin path.plainSteps

/-! ### Looking whether something is in the way

Both can be looked at: the prefixes of the steps are finitely many. -/

/-- Do the steps lead to a directory? -/
def leads (files : FileSystem) (origin : Location) (steps : List Step) : Bool :=
  match files.walk linkLimit (.located origin) steps with
  | .ok (.located goal) => files.isDirectoryAt goal
  | _ => false

theorem leads_iff : files.leads origin steps = true ↔ ∃ goal, files.LeadsTo origin steps goal := by
  unfold leads
  split
  · next goal hwalk =>
    -- the walk comes to a place
    constructor
    · intro hdirectory
      exact ⟨goal, hwalk, hdirectory⟩
    · rintro ⟨other, hother, hdirectory⟩
      rw [hwalk] at hother
      cases hother
      exact hdirectory
  · next hnone =>
    -- the walk fails
    refine iff_of_false Bool.false_ne_true ?_
    rintro ⟨goal, hgoal, -⟩
    exact hnone goal hgoal

/-- Is what the last of the steps enters missing, or do they lead to a directory? -/
def lastIsFree (files : FileSystem) (origin : Location) (steps : List Step) : Bool :=
  match steps.getLast? with
  | some (.enter name) =>
    match files.walk linkLimit (.located origin) steps.dropLast with
    | .ok (.located location) =>
      (files.node? (location ++ [name])).isNone || files.leads origin steps
    | _ => true
  | _ => true

theorem unobstructed_iff : files.Unobstructed origin steps ↔
    ∀ front ∈ steps.inits, files.lastIsFree origin front = true := by
  constructor
  · intro hopen front hfront
    -- only a prefix that ends in a name, behind steps that lead somewhere, can be in the way
    unfold lastIsFree
    split
    · next name hlast =>
      obtain ⟨before, rfl⟩ := List.getLast?_eq_some_iff.mp hlast
      rw [List.dropLast_concat]
      split
      · next location hwalk =>
        cases hnode : files.node? (location ++ [name]) with
        | none =>
          -- the name is not taken
          rfl
        | some node =>
          have hsome : files.node? (location ++ [name]) ≠ none := by simp [hnode]
          exact leads_iff.mpr (hopen before name location ((List.mem_inits _ _).mp hfront) hwalk hsome)
      · -- the steps in front of the name lead nowhere
        rfl
    · -- the last step is none that enters a name
      rfl
  · -- what stands in the way of a name is the end of a prefix
    intro hfree before name location hinitial hwalk hsome
    have hlast := hfree _ ((List.mem_inits _ _).mpr hinitial)
    rw [lastIsFree, List.getLast?_concat, List.dropLast_concat] at hlast
    dsimp only at hlast
    rw [hwalk] at hlast
    dsimp only at hlast
    rw [Option.isNone_eq_false_iff.mpr (Option.isSome_iff_ne_none.mpr hsome), Bool.false_or] at hlast
    exact leads_iff.mp hlast

instance : Decidable (files.Unobstructed origin steps) := decidable_of_iff' _ unobstructed_iff

/-- Do the steps go up at last, where nothing is? -/
def lastIsLost (files : FileSystem) (origin : Location) (steps : List Step) : Bool :=
  steps.getLast? == some .up && !(files.walk linkLimit (.located origin) steps.dropLast).isOk

theorem goesUpFromMissing_iff : files.GoesUpFromMissing origin steps ↔
    ∃ front ∈ steps.inits, files.lastIsLost origin front = true := by
  constructor
  · -- behind the steps that fail stands one that goes up
    rintro ⟨before, error, hinitial, hwalk⟩
    refine ⟨before ++ [.up], (List.mem_inits _ _).mpr hinitial, ?_⟩
    rw [lastIsLost, List.getLast?_concat, List.dropLast_concat, hwalk]
    rfl
  · -- a step that goes up has steps in front of it, which fail
    rintro ⟨front, hfront, hlost⟩
    obtain ⟨hlast, hwalk⟩ := Bool.and_eq_true_iff.mp hlost
    obtain ⟨before, rfl⟩ := List.getLast?_eq_some_iff.mp (eq_of_beq hlast)
    rw [List.dropLast_concat] at hwalk
    cases hresult : files.walk linkLimit (.located origin) before with
    | ok place =>
      rw [hresult] at hwalk
      cases hwalk
    | error error => exact ⟨before, error, (List.mem_inits _ _).mp hfront, hresult⟩

instance : Decidable (files.GoesUpFromMissing origin steps) :=
  decidable_of_iff' _ goesUpFromMissing_iff

/-! ### Prefixes while directories are added -/

/-- The first step that is missing enters a name that is not there. -/
theorem LeadsTo.missing_step (h : files.LeadsTo origin before location)
    (hopen : files.Unobstructed origin target) (hinitial : before ++ [step] <+: target)
    (hmissing : files.walk linkLimit (.located origin) (before ++ [step]) = .error .notFound) :
    ∃ name, step = .enter name ∧ files.node? (location ++ [name]) = none := by
  cases step with
  | stay =>
    -- a step that stays finds what was there
    rw [h.stay.walk] at hmissing
    cases hmissing
  | up =>
    -- above a directory is a directory
    rw [h.up.walk] at hmissing
    cases hmissing
  | enter name =>
    -- what is there is no obstacle, so nothing is there
    refine ⟨name, rfl, ?_⟩
    by_contra hsome
    obtain ⟨_, hnext⟩ := hopen before name location hinitial h.walk hsome
    rw [hnext.walk] at hmissing
    cases hmissing

section Steps

variable (hnames : ∀ name, Step.enter name ∈ target → name.length ≤ nameLimit)

include hnames

/-- **Each prefix is there or is missing**, if nothing is in the way. -/
theorem reached_or_missing (hdirectory : files.isDirectoryAt origin = true)
    (hopen : files.Unobstructed origin target) (hinitial : steps <+: target) :
    (∃ location, files.LeadsTo origin steps location) ∨
      files.walk linkLimit (.located origin) steps = .error .notFound := by
  -- step by step: from a directory each step leads to a directory, or finds nothing
  induction steps using List.reverseRecOn with
  | nil =>
    -- no step leads to the origin
    exact .inl ⟨origin, .refl hdirectory⟩
  | append_singleton steps step ih =>
    obtain ⟨location, hsteps⟩ | hmissing := ih ((List.prefix_append _ _).trans hinitial)
    · cases step with
      | stay => exact .inl ⟨location, hsteps.stay⟩
      | up => exact .inl ⟨location.dropLast, hsteps.up⟩
      | enter name =>
        have hname : name.length ≤ nameLimit := hnames name (hinitial.subset (by simp))
        by_cases hnone : files.node? (location ++ [name]) = none
        · -- the name is missing
          exact .inr (hsteps.enter_missing hname hnone)
        · -- there is something of that name, and it is no obstacle
          exact .inl (hopen steps name location hinitial hsteps.walk hnone)
    · -- the steps have come to nothing before
      exact .inr (walk_append_error hmissing)

/-- Where a prefix was missing it leads to something new when directories were added, unless steps go
up out of what was missing. -/
theorem new_of_missing (hdirectory : files.isDirectoryAt origin = true)
    (hopen : files.Unobstructed origin target) (hup : ¬files.GoesUpFromMissing origin target)
    (hgrows : files.Grows grown) (hinitial : steps <+: target)
    (hmissing : files.walk linkLimit (.located origin) steps = .error .notFound)
    (hwalk : grown.walk linkLimit (.located origin) steps = .ok goal) :
    ∃ location, goal = .located location ∧ files.node? location = none ∧
      grown.LeadsTo origin steps location := by
  induction steps using List.reverseRecOn generalizing goal with
  | nil =>
    -- no step finds nothing
    cases hmissing
  | append_singleton steps step ih =>
    have hshorter : steps <+: target := (List.prefix_append _ _).trans hinitial
    -- a name that is entered where it was missing is new, and so it is a directory
    have hnew : ∀ name location, step = .enter name → files.node? (location ++ [name]) = none →
        grown.LeadsTo origin steps location → ∃ location, goal = .located location ∧
          files.node? location = none ∧ grown.LeadsTo origin (steps ++ [step]) location := by
      rintro name location rfl hnone hsteps
      have hname : name.length ≤ nameLimit := hnames name (hinitial.subset (by simp))
      have hsome : grown.node? (location ++ [name]) ≠ none := by
        intro hstill
        rw [hsteps.enter_missing hname hstill] at hwalk
        cases hwalk
      have hnext := hsteps.enter_new hgrows hname hnone hsome
      rw [hnext.walk] at hwalk
      cases hwalk
      exact ⟨location ++ [name], rfl, hnone, hnext⟩
    obtain ⟨location, hsteps⟩ | hearlier := reached_or_missing hnames hdirectory hopen hshorter
    · -- the last step is the one that found nothing
      obtain ⟨name, hstep, hnone⟩ := hsteps.missing_step hopen hinitial hmissing
      exact hnew name location hstep hnone (hsteps.of_grows hgrows)
    · -- the steps before had found nothing already
      cases hbetween : grown.walk linkLimit (.located origin) steps with
      | error error =>
        rw [walk_append_error hbetween] at hwalk
        cases hwalk
      | ok middle =>
        obtain ⟨location, rfl, hnone, hsteps⟩ := ih hshorter hearlier hbetween
        cases step with
        | stay =>
          -- the new directory is where the walk stays
          rw [hsteps.stay.walk] at hwalk
          cases hwalk
          exact ⟨location, rfl, hnone, hsteps.stay⟩
        | up =>
          -- going up out of what was missing is excluded
          exact absurd ⟨steps, .notFound, hinitial, hearlier⟩ hup
        | enter name =>
          -- what is below a new directory is new as well
          exact hnew name location rfl (node?_append_of_none hnone [name]) hsteps

/-- **Directories are not in the way**: what was not in the way of steps is not in their way when
directories were added, unless they go up out of what was missing. -/
theorem Unobstructed.of_grows (hdirectory : files.isDirectoryAt origin = true)
    (hopen : files.Unobstructed origin target) (hup : ¬files.GoesUpFromMissing origin target)
    (hgrows : files.Grows grown) : grown.Unobstructed origin target := by
  intro before name location hinitial hwalk hsome
  have hname : name.length ≤ nameLimit := hnames name (hinitial.subset (by simp))
  have hshorter : before <+: target := (List.prefix_append _ _).trans hinitial
  obtain ⟨place, hbefore⟩ | hmissing := reached_or_missing hnames hdirectory hopen hshorter
  · -- the steps lead to the same directory as before
    have hlater := hbefore.of_grows hgrows
    obtain rfl : place = location := by
      have hsame := hlater.walk
      rw [hwalk] at hsame
      cases hsame
      rfl
    by_cases hnone : files.node? (place ++ [name]) = none
    · -- the name was missing before
      exact ⟨_, hlater.enter_new hgrows hname hnone hsome⟩
    · -- what was there before was no obstacle, and is none now
      obtain ⟨goal, hgoal⟩ := hopen before name place hinitial hbefore.walk hnone
      exact ⟨goal, hgoal.of_grows hgrows⟩
  · -- the steps lead to a directory that is new
    obtain ⟨place, hplace, hnone, hbefore⟩ :=
      new_of_missing hnames hdirectory hopen hup hgrows hshorter hmissing hwalk
    cases hplace
    exact ⟨_, hbefore.enter_new hgrows hname (node?_append_of_none hnone [name]) hsome⟩

end Steps

/-- A path that goes up only where something is is clear if nothing is in its way now. -/
theorem Unobstructed.clear (hopen : files.Unobstructed origin path.plainSteps)
    (hup : ¬files.GoesUpFromMissing origin path.plainSteps) : files.Clear here origin path where
  now := hopen
  later hlost := absurd hlost hup

/-- Nothing is in the way of a path that is clear while its directories are made. -/
theorem Clear.of_adds (hclear : files.Clear here origin path)
    (hnames : ∀ name, Step.enter name ∈ path.plainSteps → name.length ≤ nameLimit)
    (hdirectory : files.isDirectoryAt origin = true)
    (hadds : files.Adds grown here (path :: path.parents)) :
    grown.Unobstructed origin path.plainSteps := by
  by_cases hup : files.GoesUpFromMissing origin path.plainSteps
  · -- the path goes up out of something missing, and is clear whatever was added
    exact hclear.later hup grown hadds
  · -- what was added makes no difference to what is in the way
    exact hclear.now.of_grows hnames hdirectory hup hadds.grows

/-- Among directories nothing is in the way. -/
theorem unobstructed_of_directories
    (hnames : ∀ name, Step.enter name ∈ target → name.length ≤ nameLimit)
    (hall : ∀ location kind, files.kind? location = some kind → kind = .directory) :
    files.Unobstructed origin target := by
  intro before name location hinitial hwalk hsome
  have hname : name.length ≤ nameLimit := hnames name (hinitial.subset (by simp))
  obtain ⟨kind, hkind⟩ := Option.ne_none_iff_exists'.mp (mt kind?_eq_none_iff.mp hsome)
  have hinside : files.isDirectoryAt (location ++ [name]) = true := by
    rw [isDirectoryAt_iff, hkind, hall _ kind hkind]
  obtain ⟨entries, habove⟩ := exists_directory_above hinside
  have hbefore : files.LeadsTo origin before location := ⟨hwalk, isDirectoryAt_of_node habove⟩
  exact ⟨location ++ [name], hbefore.enter hname hinside⟩

/-- **Every path is clear among directories**, also if it goes up out of what is missing. -/
theorem clear_of_directories
    (hnames : ∀ name, Step.enter name ∈ path.plainSteps → name.length ≤ nameLimit)
    (hall : ∀ location kind, files.kind? location = some kind → kind = .directory) :
    files.Clear here origin path where
  now := unobstructed_of_directories hnames hall
  later := by
    intro _ grown hadds
    refine unobstructed_of_directories hnames fun location kind hkind => ?_
    cases hbefore : files.kind? location with
    | none =>
      -- what was added are directories
      exact hadds.grows.added hbefore hkind
    | some kind' =>
      -- what was there before is as it was
      rw [hadds.grows.kept hbefore] at hkind
      rw [← Option.some.inj hkind]
      exact hall location kind' hbefore

end SchemaBuild.FileSystem
