import SchemaBuild.Proofs.FileSystem.Obstruction
import SchemaBuild.Proofs.Path.Chains

/-!
# Making the directories of a path

Making all directories of a path goes up along the paths above it to one that is there, and down
again, and on the way down each path finds the one above it. So it succeeds if nothing but
directories is in the way of the path.

A path that ends in a `.` is the exception: above `a/b/.` comes `a`, so `b` is never made, and without
it the path leads nowhere, however often it is asked for.

* `FileSystem.makeChain_chainOf` — the chain of any stretches of a path with nothing in its way can be
  made, and their steps lead to a directory then;
* `FileSystem.makeDirectories_of_move` — so its directories can be made if its last step does not stay;
* `FileSystem.makeDirectories_of_stay` — if its last step stays, the directories of the paths above it
  are made, and the path has to be there then.
-/

namespace SchemaBuild.FileSystem

variable {files between : FileSystem} {here : Place} {origin location : Location}
  {path named : Path} {before target : List Step} {step : Step} {error : IoError}

/-! ### Paths that can be looked at -/

theorem pathError?_of_isPrefix (hfine : pathError? path = none) (hinitial : named.bytes <+: path.bytes)
    (hne : named.bytes ≠ []) : pathError? named = none := by
  obtain ⟨hnoNul, -, hlength⟩ := pathError?_eq_none_iff.mp hfine
  refine pathError?_eq_none_iff.mpr ⟨fun hzero => hnoNul (hinitial.subset hzero), hne, ?_⟩
  exact Nat.lt_of_le_of_lt hinitial.length_le hlength

theorem isEmpty_of_pathError? (hfine : pathError? path = none) : path.isEmpty = false := by
  obtain ⟨-, hne, -⟩ := pathError?_eq_none_iff.mp hfine
  simpa [Path.isEmpty] using hne

/-- A walk along the steps of a path that comes to a directory finds it, also behind a slash. -/
theorem find_of_leadsTo (hfine : pathError? named = none)
    (hstart : startOf here named = .located origin)
    (h : files.LeadsTo origin named.plainSteps location) :
    ∃ entries, files.find here named = .ok (.directory entries) := by
  obtain ⟨behind, hsteps, hbehind⟩ := named.exists_steps_eq
  have hall : files.LeadsTo origin named.steps location := by
    rw [hsteps]
    exact h.stays hbehind
  obtain ⟨entries, hnode⟩ := kind?_eq_directory_iff.mp (isDirectoryAt_iff.mp hall.directory)
  refine ⟨entries, ?_⟩
  rw [find, locate, hfine]
  dsimp only
  rw [hstart, hall.walk]
  dsimp only
  rw [hnode]

/-- A path whose steps cannot be walked leads nowhere. -/
theorem find_of_walk_error (hfine : pathError? named = none)
    (hstart : startOf here named = .located origin)
    (h : files.walk linkLimit (.located origin) named.plainSteps = .error error) :
    files.find here named = .error error := by
  rw [find, locate, hfine]
  dsimp only
  rw [hstart, Path.steps, walk_append_error h]

/-- A directory that is there is no failure, even if it could not be made. -/
theorem afterFailure_of_leadsTo (hfine : pathError? named = none)
    (hstart : startOf here named = .located origin)
    (h : files.LeadsTo origin named.plainSteps location) (error : IoError) :
    makeChain.afterFailure here files named error = .ok () := by
  obtain ⟨entries, hfind⟩ := find_of_leadsTo hfine hstart h
  rw [makeChain.afterFailure, hfind]

/-! ### One directory -/

/-- A path that can be looked at, from the directory `origin` on, with its last step. -/
structure LastStep (here : Place) (origin : Location) (named : Path) (before : List Step)
    (step : Step) : Prop where
  fine : pathError? named = none
  start : startOf here named = .located origin
  steps : named.plainSteps = before ++ [step]

namespace LastStep

variable (h : LastStep here origin named before step)

include h

/-- Nothing is made below what cannot be reached. -/
theorem makeDirectory_of_error
    (hwalk : files.walk linkLimit (.located origin) before = .error error) :
    files.makeDirectory here named = .error error := by
  rw [makeDirectory, h.fine, h.steps, List.getLast?_concat, List.dropLast_concat, h.start]
  dsimp only
  rw [hwalk]

/-- All that making a directory can come to below a directory that is there: what the last step stays
in, goes up to or enters is left alone, and what it does not find is made. -/
theorem makeDirectory_cases (hname : ∀ name, step = .enter name → name.length ≤ nameLimit)
    (habove : files.LeadsTo origin before location) :
    (step = .stay ∨ step = .up) ∧ files.makeDirectory here named = .error .alreadyExists ∨
      ∃ name, step = .enter name ∧
        (files.node? (location ++ [name]) ≠ none ∧
            files.makeDirectory here named = .error .alreadyExists ∨
          files.node? (location ++ [name]) = none ∧
            files.makeDirectory here named
              = .ok (files.put (location ++ [name]) (.directory []))) := by
  have hplace : files.isDirectoryAtPlace (.located location) = true := habove.directory
  rw [makeDirectory, h.fine, h.steps, List.getLast?_concat, List.dropLast_concat, h.start]
  dsimp only
  rw [habove.walk]
  dsimp only
  rw [if_pos hplace]
  cases step with
  | stay =>
    -- the directory is there
    exact .inl ⟨.inl rfl, rfl⟩
  | up =>
    -- the directory above is there
    exact .inl ⟨.inr rfl, rfl⟩
  | enter name =>
    refine .inr ⟨name, rfl, ?_⟩
    dsimp only
    rw [if_neg (Nat.not_lt.mpr (hname name rfl))]
    cases files.node? (location ++ [name]) with
    | some node =>
      -- something has that name
      exact .inl ⟨Option.some_ne_none node, rfl⟩
    | none =>
      -- nothing has that name, so it is made
      exact .inr ⟨rfl, rfl⟩

/-- A directory that is there already is no failure. -/
theorem attempt_of_exists {steps : List Step} {goal : Location} (hsteps : named.plainSteps = steps)
    (hmake : files.makeDirectory here named = .error .alreadyExists)
    (hgoal : files.LeadsTo origin steps goal) :
    files.makeDirectory here named ≠ .error .notFound ∧
      ∃ after goal, files.attempt here named = (.ok (), after) ∧ after.LeadsTo origin steps goal := by
  subst hsteps
  refine ⟨?_, files, goal, ?_, hgoal⟩
  · rw [hmake]
    nofun
  · rw [attempt, hmake]
    dsimp only
    rw [afterFailure_of_leadsTo h.fine h.start hgoal]

/-- **Below a directory that is there** the last step makes one, or finds one if nothing is in the
way. -/
theorem attempt_of_leadsTo
    (hname : ∀ name, step = .enter name → name.length ≤ nameLimit)
    (hinitial : before ++ [step] <+: target) (hopen : files.Unobstructed origin target)
    (habove : files.LeadsTo origin before location) :
    files.makeDirectory here named ≠ .error .notFound ∧
      ∃ after goal, files.attempt here named = (.ok (), after) ∧
        after.LeadsTo origin named.plainSteps goal := by
  rw [h.steps]
  obtain ⟨rfl | rfl, hmake⟩ | ⟨name, rfl, ⟨hsome, hmake⟩ | ⟨hnone, hmake⟩⟩ :=
    h.makeDirectory_cases hname habove
  · -- the last step stays in a directory
    exact h.attempt_of_exists h.steps hmake habove.stay
  · -- the last step goes up to a directory
    exact h.attempt_of_exists h.steps hmake habove.up
  · -- what is there is a directory, since nothing is in the way
    obtain ⟨goal, hgoal⟩ := hopen before name location hinitial habove.walk hsome
    exact h.attempt_of_exists h.steps hmake hgoal
  · -- the directory is new
    have hinside : (files.put (location ++ [name]) (.directory [])).isDirectoryAt
        (location ++ [name]) = true :=
      isDirectoryAt_of_node (node?_put_directory habove.directory)
    have hgrown := habove.of_grows (grows_put habove.directory hnone)
    refine ⟨?_, _, _, ?_, hgrown.enter (hname name rfl) hinside⟩
    · rw [hmake]
      nofun
    · rw [attempt, hmake]

/-- **One path of a chain** can be made if the paths above it can: below what is there now, or below
what is there when the others were made. -/
theorem makeChain_cons {paths : List Path}
    (hname : ∀ name, step = .enter name → name.length ≤ nameLimit)
    (hinitial : before ++ [step] <+: target) (hopen : files.Unobstructed origin target)
    (hreached : (∃ location, files.LeadsTo origin before location) ∨
      files.walk linkLimit (.located origin) before = .error .notFound)
    (hchain : makeChain here paths files = (.ok (), between))
    (hbetween : between.Unobstructed origin target)
    (habove : between.LeadsTo origin before location) :
    ∃ after goal, makeChain here (named :: paths) files = (.ok (), after) ∧
      after.LeadsTo origin named.plainSteps goal := by
  have hpath := isEmpty_of_pathError? h.fine
  -- the first attempt is made below what is there, the second one below what was made
  obtain ⟨location, hthere⟩ | hmissing := hreached
  · obtain ⟨hfound, after, goal, hattempt, hgoal⟩ := h.attempt_of_leadsTo hname hinitial hopen hthere
    refine ⟨after, goal, ?_, hgoal⟩
    rw [makeChain_of_attempt hpath hfound, hattempt]
  · obtain ⟨-, after, goal, hattempt, hgoal⟩ :=
      h.attempt_of_leadsTo hname hinitial hbetween habove
    refine ⟨after, goal, ?_, hgoal⟩
    rw [makeChain_of_missing hpath (h.makeDirectory_of_error hmissing), hchain]
    exact hattempt

end LastStep

/-! ### Chains -/

/-- Making a chain adds directories of all paths that the chain is among. -/
theorem adds_of_makeChain {paths more : List Path} {result : Except IoError Unit}
    (h : makeChain here paths files = (result, between)) (hsub : paths ⊆ more) :
    files.Adds between here more := by
  have hadds := makeChain_adds here paths files
  rw [h] at hadds
  exact hadds.mono hsub

section Chains

variable (hfine : pathError? path = none) (hstart : startOf here path = .located origin)

include hfine hstart

/-- With stretches left out at its end a path can be looked at like the path itself. -/
theorem lastStep_assemble {front : List Bytes} (hfront : front <+: path.parts.2)
    (hsteps : (Path.assemble path.parts.1 front).plainSteps = before ++ [step]) :
    LastStep here origin (Path.assemble path.parts.1 front) before step where
  fine := by
    have hinitial := Path.isPrefix_assemble_front path.parts.1 hfront
    rw [Path.assemble_parts] at hinitial
    refine pathError?_of_isPrefix hfine hinitial fun hnil => ?_
    -- the empty path takes no step
    have hnone : (Path.assemble path.parts.1 front).plainSteps = [] := by
      rw [Path.plainSteps, Path.segments, hnil]
      rfl
    rw [hnone] at hsteps
    simp at hsteps
  start := (Path.startOf_assemble here hfront).trans hstart
  steps := hsteps

variable (hdirectory : files.isDirectoryAt origin = true)
  (hnames : ∀ name, Step.enter name ∈ path.plainSteps → name.length ≤ nameLimit)
  (hclear : files.Clear here origin path)

include hdirectory hnames hclear

omit hnames in
/-- Where the path begins there is nothing to make. -/
theorem makeChain_start : ∃ after goal,
    makeChain here (Path.chainOf path.parts.1 []) files = (.ok (), after) ∧
      after.LeadsTo origin path.parts.1.steps goal := by
  have hhere := LeadsTo.refl hdirectory
  have hempty : Path.isEmpty ⟨[]⟩ = true := rfl
  have hsteps : (Path.assemble path.parts.1 []).plainSteps = path.parts.1.steps ++ Path.stepsOf [] :=
    Path.plainSteps_front List.nil_prefix
  rw [Path.stepsOf_nil, List.append_nil] at hsteps
  cases hbegin : path.parts.1 with
  | root =>
    -- the root cannot be made, but it is there
    have hroot : startOf here (Path.assemble .root []) = .located origin := by
      rw [← hbegin]
      exact (Path.startOf_assemble here List.nil_prefix).trans hstart
    refine ⟨files, origin, ?_, hhere⟩
    show makeChain here [Path.assemble .root []] files = _
    have hexists : files.makeDirectory here (Path.assemble .root []) = .error .alreadyExists := rfl
    have hfound : files.LeadsTo origin (Path.assemble .root []).plainSteps origin := hhere
    rw [makeChain_of_attempt rfl (by rw [hexists]; nofun), attempt, hexists]
    dsimp only
    rw [afterFailure_of_leadsTo rfl hroot hfound]
  | current =>
    rw [hbegin] at hsteps
    have hlast : LastStep here origin (Path.assemble .current []) [] .stay := by
      have hall : (Path.assemble path.parts.1 []).plainSteps = [] ++ [.stay] →
          LastStep here origin (Path.assemble path.parts.1 []) [] .stay :=
        lastStep_assemble hfine hstart List.nil_prefix
      rw [hbegin] at hall
      exact hall hsteps
    have hinitial : [] ++ [Step.stay] <+: path.plainSteps := by
      rw [Path.plainSteps_eq, hbegin]
      exact List.prefix_append _ _
    obtain ⟨after, goal, hchain, hgoal⟩ := hlast.makeChain_cons (by simp) hinitial hclear.now
      (.inl ⟨origin, hhere⟩) (makeChain_of_isEmpty hempty [] files) hclear.now hhere
    rw [hsteps] at hgoal
    exact ⟨after, goal, hchain, hgoal⟩
  | plain => exact ⟨files, origin, makeChain_of_isEmpty hempty [] files, hhere⟩

omit hfine hstart in
/-- **One path more**: a path along the first steps of one that is clear can be made below the chain of
those above it. -/
theorem makeChain_next {paths : List Path} (hlast : LastStep here origin named before step)
    (hinitial : before ++ [step] <+: path.plainSteps) (hsub : paths ⊆ path :: path.parents)
    (hchain : makeChain here paths files = (.ok (), between))
    (habove : between.LeadsTo origin before location) :
    ∃ after goal, makeChain here (named :: paths) files = (.ok (), after) ∧
      after.LeadsTo origin named.plainSteps goal := by
  have hlength : ∀ name, step = .enter name → name.length ≤ nameLimit := by
    rintro name rfl
    exact hnames name (hinitial.subset (by simp))
  have hreached := reached_or_missing hnames hdirectory hclear.now
    ((List.prefix_append _ _).trans hinitial)
  have hopen := hclear.of_adds hnames hdirectory (adds_of_makeChain hchain hsub)
  exact hlast.makeChain_cons hlength hinitial hclear.now hreached hchain hopen habove

/-- **The chain of stretches** of a path with nothing in its way can be made, and then the steps of
the stretches lead to a directory. -/
theorem makeChain_chainOf {reversed behind : List Bytes}
    (hsegments : path.parts.2 = reversed.reverse ++ behind)
    (hparents : Path.chainOf path.parts.1 reversed ⊆ path.parents) :
    ∃ after goal, makeChain here (Path.chainOf path.parts.1 reversed) files = (.ok (), after) ∧
      after.LeadsTo origin (path.parts.1.steps ++ Path.stepsOf reversed.reverse) goal := by
  -- from the last stretch on, with the chain of those in front of it made first
  induction reversed generalizing behind with
  | nil =>
    -- the chain is that of the beginning
    rw [List.reverse_nil, Path.stepsOf_nil, List.append_nil]
    exact makeChain_start hfine hstart hdirectory hclear
  | cons segment above ih =>
    have hsplit : path.parts.2 = above.reverse ++ (segment :: behind) := by
      rw [hsegments, List.reverse_cons, List.append_assoc]
      rfl
    rw [List.reverse_cons, Path.stepsOf_append, ← List.append_assoc]
    cases hfiller : Path.isFiller segment with
    | true =>
      -- a filler has no directory of its own
      rw [Path.chainOf_filler hfiller] at hparents ⊢
      obtain ⟨after, goal, hchain, hgoal⟩ := ih hsplit hparents
      have hstays : ∀ step ∈ Path.stepsOf [segment], step = .stay := by
        apply Path.eq_stay_of_mem_stepsOf
        simpa using hfiller
      exact ⟨after, goal, hchain, hgoal.stays hstays⟩
    | false =>
      -- a name has one, below those of the stretches in front
      rw [Path.chainOf_name hfiller] at hparents ⊢
      obtain ⟨-, hparents⟩ := List.cons_subset.mp hparents
      obtain ⟨between, location, hchain, habove⟩ := ih hsplit hparents
      have hfront : (segment :: above).reverse <+: path.parts.2 := ⟨behind, hsegments.symm⟩
      obtain ⟨hone, -⟩ := Path.stepsOf_singleton hfiller
      have hsteps := Path.plainSteps_front hfront
      rw [List.reverse_cons, Path.stepsOf_append, hone, ← List.append_assoc] at hsteps
      have hinitial := Path.isPrefix_plainSteps_front hfront
      rw [List.reverse_cons, hsteps] at hinitial
      have hlast := lastStep_assemble hfine hstart hfront (by rw [List.reverse_cons]; exact hsteps)
      obtain ⟨after, goal, hmade, hgoal⟩ := makeChain_next hdirectory hnames hclear hlast hinitial
        (List.Subset.trans hparents (List.subset_cons_self _ _)) hchain habove
      rw [List.reverse_cons, hsteps] at hgoal
      rw [hone]
      exact ⟨after, goal, hmade, hgoal⟩

/-- **The directories above a path** with nothing in its way can be made, if not all of its steps
stay, and the steps up to its last name lead to a directory then. -/
theorem makeChain_parents (hmove : ∃ step ∈ path.plainSteps, step ≠ .stay) :
    ∃ between location front last fillers,
      makeChain here path.parents files = (.ok (), between) ∧
      path.plainSteps = front ++ [last] ++ fillers ∧ last ≠ .stay ∧
      (∀ step ∈ fillers, step = .stay) ∧ between.LeadsTo origin front location := by
  obtain ⟨reversed, segment, fillers, hsegments, hsegment, hfillers, hparents⟩ :=
    Path.exists_last_name hmove
  have hsplit : path.parts.2 = reversed.reverse ++ (segment :: fillers) := by
    rw [hsegments, List.append_assoc]
    rfl
  have hsub : Path.chainOf path.parts.1 reversed ⊆ path.parents := by
    rw [hparents]
    exact List.Subset.refl _
  obtain ⟨between, location, hchain, hbetween⟩ :=
    makeChain_chainOf hfine hstart hdirectory hnames hclear hsplit hsub
  rw [← hparents] at hchain
  obtain ⟨hone, hlast⟩ := Path.stepsOf_singleton hsegment
  refine ⟨between, location, _, Step.ofSegment segment, Path.stepsOf fillers, hchain, ?_, hlast,
    Path.eq_stay_of_mem_stepsOf hfillers, hbetween⟩
  rw [Path.plainSteps_eq, hsegments, Path.stepsOf_append, Path.stepsOf_append, hone,
    ← List.append_assoc, ← List.append_assoc]

/-- **The directories of a path** with nothing in its way can be made if its last step does not
stay. -/
theorem makeDirectories_of_move (hlast : path.plainSteps = before ++ [step]) (hmove : step ≠ .stay) :
    ∃ after goal, files.makeDirectories here path = (.ok (), after) ∧
      after.LeadsTo origin path.plainSteps goal := by
  obtain ⟨between, location, front, last, fillers, hchain, hsteps, -, hstays, hbetween⟩ :=
    makeChain_parents hfine hstart hdirectory hnames hclear
      ⟨step, by rw [hlast]; simp, hmove⟩
  -- nothing stands behind the last name, as it would be the last step and stay
  have hnone : fillers = [] := by
    obtain rfl | ⟨others, other, rfl⟩ := List.eq_nil_or_concat fillers
    · rfl
    · rw [List.concat_eq_append] at hsteps hstays
      rw [hlast, ← List.append_assoc] at hsteps
      obtain ⟨-, hsame⟩ := List.append_inj' hsteps rfl
      refine absurd ?_ hmove
      rw [List.singleton_inj.mp hsame]
      exact hstays other (by simp)
  rw [hnone, List.append_nil, hlast] at hsteps
  obtain ⟨rfl, -⟩ := List.append_inj' hsteps rfl
  have hinitial : before ++ [step] <+: path.plainSteps := ⟨[], by rw [List.append_nil, hlast]⟩
  have hpath : LastStep here origin path before step := ⟨hfine, hstart, hlast⟩
  exact makeChain_next hdirectory hnames hclear hpath hinitial (List.subset_cons_self _ _) hchain
    hbetween

/-- **The directories of a path whose last step stays** and that leads nowhere: those above it are
made, and no other, and the path leads to a directory then or it is missing. -/
theorem makeDirectories_of_stay (hlast : path.plainSteps = before ++ [.stay])
    (hmissing : files.walk linkLimit (.located origin) before = .error .notFound) :
    ∃ between, makeChain here path.parents files = (.ok (), between) ∧
      ((∃ goal, between.LeadsTo origin path.plainSteps goal) ∧
          files.makeDirectories here path = (.ok (), between) ∨
        between.walk linkLimit (.located origin) path.plainSteps = .error .notFound ∧
          files.makeDirectories here path = (.error .notFound, between)) := by
  have hmove : ∃ step ∈ path.plainSteps, step ≠ .stay := by
    by_contra hnone
    -- steps that stay lead to where they begin
    have hstays : ∀ step ∈ before, step = .stay := by
      intro step hmem
      by_contra hstep
      exact hnone ⟨step, by rw [hlast]; exact List.mem_append_left _ hmem, hstep⟩
    have hhere := (LeadsTo.refl hdirectory).stays hstays
    rw [List.nil_append] at hhere
    rw [hhere.walk] at hmissing
    cases hmissing
  obtain ⟨between, -, -, -, -, hchain, -⟩ :=
    makeChain_parents hfine hstart hdirectory hnames hclear hmove
  refine ⟨between, hchain, ?_⟩
  have hadds : files.Adds between here (path :: path.parents) :=
    adds_of_makeChain hchain (List.subset_cons_self _ _)
  have hopen := hclear.of_adds hnames hdirectory hadds
  have hkept : between.isDirectoryAt origin = true :=
    isDirectoryAt_iff.mpr (hadds.grows.kept (isDirectoryAt_iff.mp hdirectory))
  have hpath : LastStep here origin path before .stay := ⟨hfine, hstart, hlast⟩
  have hinitial : before ++ [.stay] <+: path.plainSteps := ⟨[], by rw [List.append_nil, hlast]⟩
  rw [makeDirectories, makeChain_of_missing (isEmpty_of_pathError? hfine)
    (hpath.makeDirectory_of_error hmissing), hchain]
  dsimp only
  unfold attempt
  -- the steps in front of the last one lead somewhere by now, or what they enter was never asked for
  obtain ⟨location, hthere⟩ | hstill := reached_or_missing hnames hkept hopen
    ((List.prefix_append _ _).trans hinitial)
  · have hgoal : between.LeadsTo origin path.plainSteps location := by
      rw [hlast]
      exact hthere.stay
    obtain ⟨-, hfailure⟩ | ⟨name, hname, -⟩ := hpath.makeDirectory_cases (by simp) hthere
    · rw [hfailure]
      dsimp only
      rw [afterFailure_of_leadsTo hfine hstart hgoal]
      exact .inl ⟨⟨location, hgoal⟩, rfl⟩
    · cases hname
  · have hwalk : between.walk linkLimit (.located origin) path.plainSteps = .error .notFound := by
      rw [hlast]
      exact walk_append_error hstill
    rw [hpath.makeDirectory_of_error hstill]
    dsimp only
    rw [makeChain.afterFailure, find_of_walk_error hfine hstart hwalk]
    exact .inr ⟨hwalk, rfl⟩

end Chains

end SchemaBuild.FileSystem
