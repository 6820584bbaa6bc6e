import SchemaBuild.CommandLine.Commands
import SchemaBuild.Proofs.Build.InTurn

/-!
# What started programs do

A build starts programs, and what they do to the files is their own business: a behaviour may be any
function. What can be said is that nothing else happens. From one world to another **only programs
have run** if the files are those that the programs leave, one after the other, and every program is
in the list of the processes that were started.

* `World.Ran` — the relation, with `Ran.refl` and `Ran.trans`;
* `World.start_of_found`, `World.start_cases` — what starting a program comes to: it runs once, or nothing
  happens;
* `World.start_ran`, `PluginCommand.invoke_ran`, `PluginCommand.generate_ran` — starting a program and having a plugin generate
  are of this kind, whatever comes of it;
* `InTurn.ran` — so are all calls of the generator, one after the other.
-/

namespace SchemaBuild

/-- What programs that run one after the other make of a file system. -/
def Behaviour.replay (behaviour : Behaviour) (files : FileSystem)
    (invocations : List Invocation) : FileSystem :=
  invocations.foldl (fun files invocation => (behaviour invocation files).2) files

/-- Programs that do nothing, and that successfully. -/
def Behaviour.idle : Behaviour := fun _ files => (⟨.status 0, []⟩, files)

/-- **Only programs have run** between two worlds: these, the first one first. -/
structure World.Ran (before : World) (behaviour : Behaviour) (invocations : List Invocation)
    (after : World) : Prop where
  files : after.files = behaviour.replay before.files invocations
  started : after.started = before.started ++ invocations

namespace World.Ran

variable {behaviour : Behaviour} {a b c : World}

theorem refl (world : World) (behaviour : Behaviour) : world.Ran behaviour [] world where
  files := rfl
  started := (List.append_nil _).symm

theorem trans {first second : List Invocation} (hab : a.Ran behaviour first b)
    (hbc : b.Ran behaviour second c) : a.Ran behaviour (first ++ second) c where
  files := by rw [hbc.files, hab.files, Behaviour.replay, Behaviour.replay, Behaviour.replay,
    List.foldl_append]
  started := by rw [hbc.started, hab.started, List.append_assoc]

end World.Ran

variable {behaviour : Behaviour}

/-! ### Starting one program -/

/-- The world after a program has run. -/
def PluginCommand.afterRun (behaviour : Behaviour) (world : World) (invocation : Invocation) : World :=
  { world with
    files := (behaviour invocation world.files).2
    started := world.started ++ [invocation] }

namespace World

open PluginCommand (afterRun)

/-- What the program at a location is started with. -/
def invocation (world : World) (location : Location) (arguments : List Bytes)
    (added : List (Bytes × Bytes)) (input : Bytes) : Invocation where
  program := location
  arguments
  environment := added.foldl (fun environment (name, value) => environment.set name value)
    world.environment
  here := world.here
  input

theorem afterRun_ran (world : World) (behaviour : Behaviour) (invocation : Invocation) :
    world.Ran behaviour [invocation] (afterRun behaviour world invocation) :=
  ⟨rfl, rfl⟩

/-- What a program is told when it is started, apart from its input. -/
def told (program : Path) (arguments : List Bytes) (added : List (Bytes × Bytes)) : List Bytes :=
  program.bytes :: arguments ++ added.flatMap fun (name, value) => [name, value]

variable {world after : World} {program : Path} {arguments : List Bytes}
  {added : List (Bytes × Bytes)} {input : Bytes}

/-- Starting a program, in the terms above. -/
theorem start_eq (world : World) (behaviour : Behaviour) (program : Path) (arguments : List Bytes)
    (added : List (Bytes × Bytes)) (input : Bytes) :
    world.start behaviour program arguments added input =
      if (told program arguments added).any (·.contains 0) then (.error .nulInArgument, world)
      else
        match world.files.findProgram world.environment world.here program with
        | .error error => (.error error, world)
        | .ok location =>
          (.ok (behaviour (world.invocation location arguments added input) world.files).1,
            afterRun behaviour world (world.invocation location arguments added input)) :=
  rfl

/-- **A program that is found** runs once, unless a NUL is among what it is told. -/
theorem start_of_found {location : Location} (hnul : ∀ value ∈ told program arguments added, 0 ∉ value)
    (hfound : world.files.findProgram world.environment world.here program = .ok location) :
    world.start behaviour program arguments added input
      = (.ok (behaviour (world.invocation location arguments added input) world.files).1,
        afterRun behaviour world (world.invocation location arguments added input)) := by
  have hany : ¬ (told program arguments added).any (·.contains 0) = true := by simpa using hnul
  rw [start_eq, if_neg hany, hfound]

/-- **Starting a program**: either nothing happens at all, or it was found and told nothing with a NUL
in it, and has run once. -/
theorem start_cases {result : Except IoError Outcome}
    (h : world.start behaviour program arguments added input = (result, after)) :
    ((∃ error, result = .error error) ∧ after = world) ∨
      ((∀ value ∈ told program arguments added, 0 ∉ value) ∧ ∃ location,
        world.files.findProgram world.environment world.here program = .ok location ∧
        result = .ok (behaviour (world.invocation location arguments added input) world.files).1 ∧
        after = afterRun behaviour world (world.invocation location arguments added input)) := by
  rw [start_eq] at h
  split at h
  · -- a value with a NUL cannot be handed over
    cases h
    exact .inl ⟨⟨_, rfl⟩, rfl⟩
  · next hany =>
    have hnul : ∀ value ∈ told program arguments added, 0 ∉ value := by simpa using hany
    cases hfound : world.files.findProgram world.environment world.here program with
    | error error =>
      -- there is no such program
      rw [hfound] at h
      cases h
      exact .inl ⟨⟨_, rfl⟩, rfl⟩
    | ok location =>
      -- the program runs
      rw [hfound] at h
      cases h
      exact .inr ⟨hnul, location, rfl, rfl, rfl⟩

/-- Starting a program runs it, or nothing. -/
theorem start_ran {result : Except IoError Outcome}
    (h : world.start behaviour program arguments added input = (result, after)) :
    ∃ invocations, world.Ran behaviour invocations after := by
  obtain ⟨-, rfl⟩ | ⟨-, location, -, -, rfl⟩ := start_cases h
  · exact ⟨[], .refl after behaviour⟩
  · exact ⟨_, afterRun_ran world behaviour _⟩

end World

/-- What becomes of a call of the plugin is decided without a further change of the world. -/
theorem PluginCommand.invoke_ran {command : PluginCommand} {request : GenerationRequest}
    {document : Bytes} {world after : World} {result : Except PluginError Unit}
    (h : command.invoke behaviour request document world = (result, after)) :
    ∃ invocations, world.Ran behaviour invocations after := by
  unfold PluginCommand.invoke at h
  split at h
  · next hstart =>
    cases h
    exact World.start_ran hstart
  · next hstart =>
    -- the program has run, whether its end is heard of or not and whatever its exit status is
    repeat' split at h
    all_goals
      cases h
      exact World.start_ran hstart

/-- Having a plugin generate starts its program once at most, and does nothing else. -/
theorem PluginCommand.generate_ran {command : PluginCommand} {request : GenerationRequest}
    {world after : World} {result : Except PluginError Unit}
    (h : command.generate behaviour request world = (result, after)) :
    ∃ invocations, world.Ran behaviour invocations after := by
  unfold PluginCommand.generate at h
  split at h
  · -- the request cannot be written
    cases h
    exact ⟨[], .refl world behaviour⟩
  · split at h
    · -- there is no temporary file for it
      cases h
      exact ⟨[], .refl world behaviour⟩
    · exact invoke_ran h

/-- A call of the generator of the command line only runs programs. -/
theorem pluginCollaborators_generate_ran {command : PluginCommand} {extension : String}
    {compiler : SourceLookup} {options : GenerationOptions} {source : SchemaSource} {output : Path}
    {before after : Site RootSet} {result : Except Cause Unit}
    (h : (pluginCollaborators behaviour command extension).generate compiler options source output
      before = (result, after)) :
    ∃ invocations, before.world.Ran behaviour invocations after.world := by
  unfold pluginCollaborators Task.onWorld at h
  dsimp only at h
  cases hgenerate : command.generate behaviour ⟨source, options, output⟩ before.world with
  | mk answer world =>
    rw [hgenerate] at h
    cases answer <;>
    · cases h
      exact PluginCommand.generate_ran hgenerate

/-- Steps that only run programs, one after the other. -/
theorem InTurn.ran {α τ : Type} {step : α → Site τ → Site τ → Prop} {items : List α}
    {before after : Site τ}
    (hstep : ∀ item a b, step item a b → ∃ invocations, a.world.Ran behaviour invocations b.world)
    (h : InTurn step items before after) :
    ∃ invocations, before.world.Ran behaviour invocations after.world := by
  induction h with
  | nil site =>
    -- nothing has run
    exact ⟨[], .refl site.world behaviour⟩
  | cons first _ ih =>
    -- what the first step ran, and then what the others did
    obtain ⟨run, hrun⟩ := hstep _ _ _ first
    obtain ⟨later, hlater⟩ := ih
    exact ⟨run ++ later, hrun.trans hlater⟩

end SchemaBuild
