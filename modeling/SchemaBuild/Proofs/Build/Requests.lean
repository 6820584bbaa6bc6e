import SchemaBuild.Proofs.Build.InTurn
import SchemaBuild.Proofs.Build.Programs
import SchemaBuild.Proofs.Json.Documents

/-!
# What plugins are started with

A plugin gets a request on its standard input, and the output directory and the package in its
environment. When generating succeeds its program was started once for each request, in their order,
and reported success each time.

* `PluginCommand.Serves` — an invocation that hands a request to the plugin;
* `PluginCommand.Served` — a run of such invocations, in which each program sees the files that the ones
  before it left;
* `PluginCommand.generate_ok` — one step: a call of the generator that succeeds;
* `PluginCommand.served_of_generates` — the whole run.
-/

namespace SchemaBuild

namespace PluginCommand

/-- The invocation hands the request to the plugin: its program is the one that is found in the world,
and it gets the arguments of the command, the environment with the variables of the request, the working
directory, and the request as its input. -/
structure Serves (command : PluginCommand) (world : World) (request : GenerationRequest)
    (invocation : Invocation) : Prop where
  program : world.files.findProgram world.environment world.here (.ofString command.program)
    = .ok invocation.program
  arguments : invocation.arguments = command.arguments.map Bytes.ofString
  environment : invocation.environment = (requestVariables request).foldl
    (fun environment (name, value) => environment.set name value) world.environment
  here : invocation.here = world.here
  input : ∃ document, request.document = .ok document ∧ invocation.input = Bytes.ofString document

/-- **Requests are served** by invocations, one for each and in their order, all of which report
success. -/
inductive Served (command : PluginCommand) (behaviour : Behaviour) :
    World → List GenerationRequest → List Invocation → World → Prop
  | nil (world : World) : Served command behaviour world [] [] world
  | cons {world after : World} {request : GenerationRequest} {requests : List GenerationRequest}
      {invocation : Invocation} {invocations : List Invocation}
      (serves : command.Serves world request invocation)
      (succeeds : (behaviour invocation world.files).1.exit.isSuccess = true)
      (later : Served command behaviour (afterRun behaviour world invocation) requests invocations
        after) :
      Served command behaviour world (request :: requests) (invocation :: invocations) after

variable {command : PluginCommand} {behaviour : Behaviour} {world after : World}

namespace Served

variable {requests : List GenerationRequest} {invocations : List Invocation}

/-- Beside that nothing has happened. -/
theorem ran (h : command.Served behaviour world requests invocations after) :
    world.Ran behaviour invocations after := by
  induction h with
  | nil world => exact .refl world behaviour
  | @cons world _ _ _ invocation _ _ _ _ ih =>
    exact (World.afterRun_ran world behaviour invocation).trans ih

/-- Each request has an invocation of its own. -/
theorem length_eq (h : command.Served behaviour world requests invocations after) :
    invocations.length = requests.length := by
  induction h with
  | nil world => rfl
  | cons _ _ _ ih => rw [List.length_cons, List.length_cons, ih]

/-- Only requests are served that can be written, so their output directory is text. -/
theorem isText_output (h : command.Served behaviour world requests invocations after) :
    ∀ request ∈ requests, request.output.IsText := by
  induction h with
  | nil world => exact fun _ hmem => absurd hmem List.not_mem_nil
  | cons serves _ _ ih =>
    obtain ⟨document, hdocument, -⟩ := serves.input
    have houtput := (GenerationRequest.exists_document_iff.mp ⟨document, hdocument⟩).2
    exact List.forall_mem_cons.mpr ⟨houtput, ih⟩

end Served

/-- **A call of the generator that succeeds** has started the plugin's program, once, with the request,
and the program has reported success. -/
theorem generate_ok {request : GenerationRequest}
    (h : command.generate behaviour request world = (.ok (), after)) :
    ∃ invocation, command.Serves world request invocation ∧
      (behaviour invocation world.files).1.exit.isSuccess = true ∧
      after = afterRun behaviour world invocation := by
  unfold PluginCommand.generate at h
  split at h
  · -- the request has no document
    cases h
  · next document hdocument =>
    split at h
    · -- no file for the document
      cases h
    · unfold invoke at h
      split at h
      · -- the program could not be started
        cases h
      · next outcome between hstart =>
        obtain ⟨⟨_, ⟨⟩⟩, -⟩ | ⟨-, location, hprogram, houtcome, rfl⟩ := World.start_cases hstart
        obtain rfl := Except.ok.inj houtcome
        -- the program was found and run; its end and its exit status are all that is left to look at
        split at h
        · -- nothing was heard of its end
          cases h
        · split at h
          · next hsuccess =>
            cases h
            exact ⟨_, ⟨hprogram, rfl, rfl, rfl, document, hdocument, rfl⟩, hsuccess, rfl⟩
          · -- its exit status is that of a failure
            cases h

/-- **Calls of the generator that succeed**, one after the other, serve their requests. -/
theorem served_of_generates {extension : String} {lookup : SourceLookup}
    {options : GenerationOptions} {output : Path} {schemas : List (CompiledSchema SchemaSource)}
    {before ready : Site RootSet}
    (h : InTurn (Generates fun schema =>
      (pluginCollaborators behaviour command extension).generate lookup options schema output)
      schemas before ready) :
    (∃ invocations, command.Served behaviour before.world
      (schemas.map fun compiled => ⟨compiled.schema, options, output⟩) invocations ready.world) ∧
      ready.kept = before.kept := by
  -- the calls come one after the other, each in the world that the one before it left
  induction h with
  | nil site => exact ⟨⟨[], .nil site.world⟩, rfl⟩
  | @cons compiled schemas before between after first _ ih =>
    unfold Generates pluginCollaborators Task.onWorld at first
    dsimp only at first
    cases hgenerate : command.generate behaviour ⟨compiled.schema, options, output⟩ before.world with
    | mk result world =>
      rw [hgenerate] at first
      cases result with
      | error error => cases first
      | ok done =>
        obtain ⟨⟨invocations, hserved⟩, hkept⟩ := ih
        cases first
        obtain ⟨invocation, hserves, hsuccess, rfl⟩ := generate_ok hgenerate
        exact ⟨⟨invocation :: invocations, .cons hserves hsuccess hserved⟩, hkept⟩

end PluginCommand

end SchemaBuild
