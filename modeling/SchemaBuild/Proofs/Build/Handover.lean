import SchemaBuild.Proofs.Build.Requests
import SchemaBuild.Proofs.Json.Values

/-!
# Handing schemas over to plugins

A plugin is told about a schema by the words of its command, by two variables and by the document that
it can read. The document says all of the request, so the plugin can make the same request of it again.
Whatever the plugin makes of what it is told, it is judged by its exit status alone: how much it has
read and what it has written does not matter, apart from the message of a failure.

Two things are the host's to give: a temporary file for the request, before the program is started, and
word of the program's end, behind it. The host may refuse either (`World.stage`, `World.await`), and the
call then fails with the reason that the host gives.

* `PluginCommand.HandsOver` — what an invocation tells the plugin;
* `PluginCommand.Startable` — when the plugin's program can be started;
* `PluginCommand.Hosted` — the host gives what the call needs;
* `PluginCommand.JudgedBy` — what is made of the end of the program;
* `PluginCommand.generate_startable`, `PluginCommand.generate_not_staged` and
  `PluginCommand.generate_not_startable` — the ways that a call with a written request can take;
* `PluginCommand.generate_hands_over` — one call of the generator.
-/

namespace SchemaBuild.PluginCommand

/-- **The schema is handed over**: the program is the one that the first word of the command leads to,
the other words are its arguments, two variables are set and no other is touched, and what can be read
from the input is the request. -/
structure HandsOver (words : List String) (world : World) (request : GenerationRequest)
    (invocation : Invocation) : Prop where
  command : ∃ program arguments, words = program :: arguments ∧
    world.files.findProgram world.environment world.here (.ofString program)
      = .ok invocation.program ∧
    invocation.arguments = arguments.map Bytes.ofString
  output : invocation.environment.get? (Bytes.ofString "STEMGEN_OUTPUT_DIR")
    = some request.output.bytes
  package : invocation.environment.get? (Bytes.ofString "STEMGEN_PACKAGE")
    = some (Bytes.ofString request.source.package.text)
  untouched : ∀ name, name ≠ Bytes.ofString "STEMGEN_OUTPUT_DIR" →
    name ≠ Bytes.ofString "STEMGEN_PACKAGE" →
    invocation.environment.get? name = world.environment.get? name
  here : invocation.here = world.here
  input : ∃ document, invocation.input.toString? = some document ∧
    Json.readDocument GenerationRequest.read document = .ok request

/-- **The program can be started**: it is found, and there is no NUL in the words of the command and in
the output directory, since no program can be told one. -/
structure Startable (command : PluginCommand) (world : World) (output : Path) : Prop where
  found : ∃ location, world.files.findProgram world.environment world.here
    (.ofString command.program) = .ok location
  program : 0 ∉ Bytes.ofString command.program
  arguments : ∀ argument ∈ command.arguments, 0 ∉ Bytes.ofString argument
  output : 0 ∉ output.bytes

/-- **The host does its part**: the request can be put into a temporary file, and the end of a process that
is started now can be waited for. -/
structure Hosted (world : World) (request : GenerationRequest) : Prop where
  staged : ∀ document, request.document = .ok document →
    world.stage (Bytes.ofString document) = .ok ()
  awaited : ∀ invocation, world.host.await (world.started ++ [invocation]) = .ok ()

/-- **The exit status decides**, and a failure says what the program has written as its errors. -/
structure JudgedBy (command : PluginCommand) (request : GenerationRequest) (outcome : Outcome)
    (result : Except PluginError Unit) : Prop where
  success : result = .ok () ↔ outcome.exit.isSuccess = true
  failure : outcome.exit.isSuccess = false →
    result = .error (.failed command.program request.source.package outcome.exit
      (Text.trimString outcome.errors.toStringLossy))

variable {command : PluginCommand} {world : World} {request : GenerationRequest}

theorem words_of_ofWords? {words : List String} (h : ofWords? words = .ok command) :
    words = command.program :: command.arguments := by
  cases words with
  | nil =>
    -- there is no program
    cases h
  | cons program arguments =>
    -- the first word is the program
    by_cases hblank : Text.isAllBlank program = false
    · rw [ofWords?, dif_pos hblank] at h
      cases h
      rfl
    · -- a blank word is no program
      rw [ofWords?, dif_neg hblank] at h
      cases h

/-- The variables of a request are set, and no others. -/
theorem get?_requestVariables (environment : Environment) (name : Bytes) :
    ((requestVariables request).foldl (fun environment (name, value) => environment.set name value)
        environment).get? name
      = if name = packageVariable then some (Bytes.ofString request.source.package.text)
        else if name = outputVariable then some request.output.bytes
        else environment.get? name := by
  show ((environment.set outputVariable _).set packageVariable _).get? name = _
  by_cases hpackage : name = packageVariable
  · -- the variable is set last
    rw [if_pos hpackage, hpackage, Environment.get?_set_self]
  · rw [if_neg hpackage, Environment.get?_set_of_ne _ _ hpackage]
    by_cases houtput : name = outputVariable
    · -- the variable is set before the other one
      rw [if_pos houtput, houtput, Environment.get?_set_self]
    · -- the others are as they were
      rw [if_neg houtput, Environment.get?_set_of_ne _ _ houtput]

theorem outputVariable_ne_packageVariable : outputVariable ≠ packageVariable := by decide

/-- An invocation that serves a request tells the plugin all of it. -/
theorem Serves.handsOver {invocation : Invocation} (h : command.Serves world request invocation) :
    HandsOver (command.program :: command.arguments) world request invocation where
  command := ⟨command.program, command.arguments, rfl, h.program, h.arguments⟩
  output := by
    rw [h.environment]
    exact (get?_requestVariables _ outputVariable).trans
      ((if_neg outputVariable_ne_packageVariable).trans (if_pos rfl))
  package := by
    rw [h.environment]
    exact (get?_requestVariables _ packageVariable).trans (if_pos rfl)
  untouched name houtput hpackage := by
    rw [h.environment]
    exact (get?_requestVariables _ name).trans ((if_neg hpackage).trans (if_neg houtput))
  here := h.here
  input := by
    obtain ⟨document, hdocument, hinput⟩ := h.input
    exact ⟨document, Bytes.toString?_eq_some_iff.mpr hinput,
      GenerationRequest.readDocument_document hdocument⟩

/-- A program that can be started is told nothing with a NUL in it, if the package's name has none. -/
theorem Startable.not_mem_told (h : command.Startable world request.output)
    (hpackage : '\x00' ∉ request.source.package.text.toList) :
    ∀ value ∈ World.told (.ofString command.program) (command.arguments.map Bytes.ofString)
      (requestVariables request), 0 ∉ value := by
  intro value hmem
  obtain hwords | hvariable := List.mem_append.mp hmem
  · -- the program
    obtain rfl | hargument := List.mem_cons.mp hwords
    · exact h.program
    · -- one of its arguments
      obtain ⟨argument, hin, rfl⟩ := List.mem_map.mp hargument
      exact h.arguments argument hin
  · -- a variable, by its name or its value
    simp only [requestVariables, List.flatMap_cons, List.flatMap_nil, List.append_nil,
      List.cons_append, List.nil_append, List.mem_cons, List.not_mem_nil, or_false] at hvariable
    -- the names of the two variables have none, and what is left are their values
    obtain rfl | rfl | rfl | rfl := hvariable
    · decide
    · exact h.output
    · decide
    · exact Bytes.ascii_not_mem_ofString (by decide) hpackage

/-- What is told nothing with a NUL in it can be started, if it is found. -/
theorem startable_of_told {location : Location}
    (hnul : ∀ value ∈ World.told (.ofString command.program) (command.arguments.map Bytes.ofString)
      (requestVariables request), 0 ∉ value)
    (hfound : world.files.findProgram world.environment world.here (.ofString command.program)
      = .ok location) : command.Startable world request.output where
  found := ⟨location, hfound⟩
  program := hnul _ (List.mem_append_left _ List.mem_cons_self)
  arguments argument hmem := hnul _ (List.mem_append_left _
    (List.mem_cons_of_mem _ (List.mem_map.mpr ⟨argument, hmem, rfl⟩)))
  output := hnul _ (List.mem_append_right _ (by simp [requestVariables]))

/-- **A call of the generator** for a request that can be written and staged, and with a program that can
be started: the program runs once. The call comes to how it ends, or to why its end is not heard of. -/
theorem generate_startable (behaviour : Behaviour) {document : String}
    (hdocument : request.document = .ok document)
    (hstaged : world.stage (.ofString document) = .ok ())
    (h : command.Startable world request.output)
    (hpackage : '\x00' ∉ request.source.package.text.toList) :
    ∃ invocation, command.Serves world request invocation ∧
      (command.generate behaviour request world).2 = afterRun behaviour world invocation ∧
      (world.host.await (world.started ++ [invocation]) = .ok () →
        command.JudgedBy request (behaviour invocation world.files).1
          (command.generate behaviour request world).1) ∧
      ∀ error, world.host.await (world.started ++ [invocation]) = .error error →
        (command.generate behaviour request world).1 = .error (.io command.program error) := by
  obtain ⟨location, hfound⟩ := h.found
  have hstart : world.start behaviour (.ofString command.program)
      (command.arguments.map Bytes.ofString) (requestVariables request) (Bytes.ofString document) = _ :=
    World.start_of_found (h.not_mem_told hpackage) hfound
  refine ⟨world.invocation location (command.arguments.map Bytes.ofString) (requestVariables request)
    (Bytes.ofString document), ⟨hfound, rfl, rfl, rfl, document, hdocument, rfl⟩, ?_⟩
  unfold generate
  rw [hdocument]
  dsimp only
  rw [hstaged]
  dsimp only [invoke]
  rw [hstart]
  dsimp only [World.await, afterRun]
  -- the world is the same in all cases, so what the program has done stays if it has failed
  split
  · next error hawait =>
    -- its end is not heard of
    rw [hawait]
    refine ⟨rfl, nofun, fun _ hsame => ?_⟩
    cases hsame
    rfl
  · next hawait =>
    -- its end is heard of, and its exit status decides
    rw [hawait]
    split
    · next hsuccess =>
      refine ⟨rfl, fun _ => ⟨iff_of_true rfl hsuccess, ?_⟩, nofun⟩
      rw [hsuccess]
      nofun
    · next hfailure => exact ⟨rfl, fun _ => ⟨iff_of_false nofun hfailure, fun _ => rfl⟩, nofun⟩

/-- **A request that is not staged** is not handed over, and that is the failure. -/
theorem generate_not_staged (behaviour : Behaviour) {document : String}
    (hdocument : request.document = .ok document) {error : IoError}
    (hstage : world.stage (.ofString document) = .error error) :
    command.generate behaviour request world = (.error (.io command.program error), world) := by
  unfold generate
  rw [hdocument]
  dsimp only
  rw [hstage]

/-- **A program that cannot be started** is not, and that is the failure. -/
theorem generate_not_startable (behaviour : Behaviour) {document : String}
    (hdocument : request.document = .ok document)
    (hstaged : world.stage (.ofString document) = .ok ())
    (h : ¬ command.Startable world request.output) :
    ∃ error, command.generate behaviour request world
      = (.error (.spawn command.program error), world) := by
  unfold generate
  rw [hdocument]
  dsimp only
  rw [hstaged]
  dsimp only [invoke]
  split
  · next error after hstart =>
    -- the program is not started, and the world stays
    obtain ⟨-, rfl⟩ | ⟨-, _, -, hok, -⟩ := World.start_cases hstart
    · exact ⟨error, rfl⟩
    · cases hok
  · next outcome after hstart =>
    -- what has run was found and was told no NUL, so it could be started
    obtain ⟨⟨_, ⟨⟩⟩, -⟩ | ⟨hnul, location, hfound, -, -⟩ := World.start_cases hstart
    exact absurd (startable_of_told hnul hfound) h

/-- **Handing over**: if both paths of a request are text, the program can be started and the host does
its part, then the program is started once, it is told the request with nothing lost, and its exit status
decides. If one of the paths is no text, or the host has no temporary file for the request, then nothing
is started. -/
theorem generate_hands_over {words : List String} (hcommand : ofWords? words = .ok command)
    (hpackage : '\x00' ∉ request.source.package.text.toList) (behaviour : Behaviour) (world : World) :
    (request.source.origin.path.IsText → request.output.IsText →
        command.Startable world request.output → Hosted world request →
      ∃ invocation, HandsOver words world request invocation ∧
        (command.generate behaviour request world).2 = afterRun behaviour world invocation ∧
        command.JudgedBy request (behaviour invocation world.files).1
          (command.generate behaviour request world).1) ∧
    (¬ (request.source.origin.path.IsText ∧ request.output.IsText) →
      command.generate behaviour request world
        = (.error (.io command.program .pathNotText), world)) ∧
    ∀ document error, request.document = .ok document →
      world.stage (.ofString document) = .error error →
      command.generate behaviour request world = (.error (.io command.program error), world) := by
  refine ⟨?_, ?_, fun document error hdocument hstage =>
    generate_not_staged behaviour hdocument hstage⟩
  · intro horigin houtput hstartable hhosted
    obtain ⟨document, hdocument⟩ := GenerationRequest.exists_document_iff.mpr ⟨horigin, houtput⟩
    obtain ⟨invocation, hserves, hafter, hjudged, -⟩ :=
      generate_startable behaviour hdocument (hhosted.staged document hdocument) hstartable hpackage
    rw [words_of_ofWords? hcommand]
    exact ⟨invocation, hserves.handsOver, hafter, hjudged (hhosted.awaited invocation)⟩
  · -- the request is written before anything else is tried, so it does not matter what would come
    intro hnot
    unfold generate
    rw [GenerationRequest.document_of_not_isText hnot]

/-! A plugin that reads nothing of its input, writes to the files and ends with a failure. -/

/-- A world with a program in it that can be searched for, and with a directory for temporary files. -/
def toolWorld : World where
  files := ⟨[(Bytes.ofString "bin", .directory [(Bytes.ofString "tool", .file [] true)]),
    (Bytes.ofString "tmp", .directory [])]⟩
  environment := ⟨[(Bytes.ofString "PATH", Bytes.ofString "/none:/bin")]⟩
  here := .located []
  started := []

/-- The same world, in which the directory for temporary files is missing. -/
def crampedWorld : World :=
  { toolWorld with environment := toolWorld.environment.set (.ofString "TMPDIR") (.ofString "/none") }

/-- The command that has the program run. -/
def toolCommand : PluginCommand := ⟨"tool", ["--flat", ""], rfl⟩

/-- A schema whose text has all that is escaped. -/
def escapedRequest : GenerationRequest where
  source := ⟨⟨"p.\"q\"", rfl⟩, ⟨.folder, .ofString "/a\\b"⟩, "\"\\\n\t\x01é😀"⟩
  options := { getters := false }
  output := .ofString "out\n"

/-- Programs that do not read their input and fail. -/
def failingTool : Behaviour := fun _ files =>
  (⟨.status 3, Bytes.ofString " no such type\n"⟩, files.put [Bytes.ofString "log"] (.file [] false))

theorem toolCommand_startable : toolCommand.Startable toolWorld escapedRequest.output := by
  have hfound : (toolWorld.files.findProgram toolWorld.environment toolWorld.here
      (.ofString toolCommand.program)).toOption
      = some [Bytes.ofString "bin", Bytes.ofString "tool"] := by decide +kernel
  cases hprogram : toolWorld.files.findProgram toolWorld.environment toolWorld.here
      (.ofString toolCommand.program) with
  | error error =>
    rw [hprogram] at hfound
    cases hfound
  | ok location => exact ⟨⟨location, hprogram⟩, by decide, by decide, by decide⟩

/-- Every document can be staged where there is a directory for temporary files. -/
theorem toolWorld_hosted : Hosted toolWorld escapedRequest where
  staged _ _ := show Host.temporaryFile toolWorld.environment toolWorld.here toolWorld.files = .ok () by
    decide +kernel
  awaited _ := rfl

/-- The plugin is told all and its failure is taken. With another output directory it is not asked, nor
where there is no directory for temporary files. -/
theorem generate_hands_over_failing :
    (∃ invocation, HandsOver ["tool", "--flat", ""] toolWorld escapedRequest invocation ∧
      (toolCommand.generate failingTool escapedRequest toolWorld).2.started = [invocation] ∧
      (toolCommand.generate failingTool escapedRequest toolWorld).1
        = .error (.failed "tool" escapedRequest.source.package (.status 3) "no such type")) ∧
    toolCommand.generate failingTool { escapedRequest with output := ⟨[0xFF]⟩ } toolWorld
      = (.error (.io "tool" .pathNotText), toolWorld) ∧
    toolCommand.generate failingTool escapedRequest crampedWorld
      = (.error (.io "tool" .notFound), crampedWorld) := by
  have hcommand : ofWords? ["tool", "--flat", ""] = .ok toolCommand := rfl
  have herrors : Text.trimString (Bytes.ofString " no such type\n").toStringLossy = "no such type" := by
    decide +kernel
  refine ⟨?_, ?_, ?_⟩
  · obtain ⟨invocation, hover, hafter, hjudged⟩ :=
      (generate_hands_over hcommand (by decide) failingTool toolWorld).1 (Path.isText_ofString _)
        (Path.isText_ofString _) toolCommand_startable toolWorld_hosted
    refine ⟨invocation, hover, by rw [hafter]; rfl, ?_⟩
    rw [hjudged.failure rfl, ← herrors]
    rfl
  · refine (generate_hands_over hcommand (by decide) failingTool toolWorld).2.1 ?_
    decide +kernel
  · have hwritten : ∃ document, escapedRequest.document = .ok document :=
      GenerationRequest.exists_document_iff.mpr ⟨Path.isText_ofString _, Path.isText_ofString _⟩
    obtain ⟨document, hdocument⟩ := hwritten
    refine (generate_hands_over hcommand (by decide) failingTool crampedWorld).2.2 document .notFound
      hdocument ?_
    show Host.temporaryFile crampedWorld.environment crampedWorld.here crampedWorld.files = _
    decide +kernel

end SchemaBuild.PluginCommand
