import SchemaBuild.Proofs.CommandLine.Collected

/-!
# Command lines as they are written

Options behind the command may be written in any order. Each has a long name; its value stands behind an
equals sign or, for the words of a plugin, is the argument behind the name. Reading gives back what was
written, whatever the values look like: as options, as the argument that ends the options, or as a
command.

* `written` — an option with its value as arguments;
* `Row.Writes` — a row of options with values that says what is to be generated, in any order that keeps
  the order of the packages and the order of the plugin's words;
* `readScope_written` — the step: an option with its value is read as such, from every state;
* `readScope_row` — so is a row of them;
* `parse_written` — a command line that is made of a row is read as what the row says.
-/

namespace SchemaBuild.CommandLine

/-! ### Writing -/

/-- The long name of an option. -/
def Parameter.longName : Parameter → String
  | project => "project"
  | config => "config"
  | package => "package"
  | output => "output-directory"
  | plugin => "plugin"
  | resources => "resources-directory"
  | classpath => "classpath"
  | classpathFile => "classpath-file"

/-- A row of options, each with a value. -/
abbrev Row := List (Parameter × Bytes)

/-- An option with its value as arguments. -/
def written : Parameter × Bytes → List Bytes
  | (.plugin, word) => [.ofString "--plugin", word]
  | (parameter, value) => [.ofString "--" ++ .ofString parameter.longName ++ equals :: value]

/-- The values of an option in a row, in their order. -/
def Row.values (row : Row) (parameter : Parameter) : List Bytes :=
  row.filterMap fun entry => if entry.1 = parameter then some entry.2 else none

/-- The values that each option has to have, to say what is to be generated and where the project and its
configuration are. -/
def said (options : GenerateOptions) (project config : Option Path) : Parameter → List Bytes
  | .package => options.packages.map Bytes.ofString
  | .plugin => options.plugin.map Bytes.ofString
  | .output => (options.output.map Path.bytes).toList
  | .resources => (options.sources.resources.map Path.bytes).toList
  | .classpath => options.sources.classpath.toList
  | .classpathFile => (options.sources.classpathFile.map Path.bytes).toList
  | .project => (project.map Path.bytes).toList
  | .config => (config.map Path.bytes).toList

/-- **The row writes the options**: each has its values in the row, in their order. How the values of
different options are mixed is free. -/
def Row.Writes (row : Row) (options : GenerateOptions) (project config : Option Path) : Prop :=
  ∀ parameter, row.values parameter = said options project config parameter

/-! ### Arguments -/

section Reading

variable {state : State} {collected after : Collected} {parameter : Parameter} {value : Bytes}

/-- A value behind an equals sign is told from the long name before it, which has none. -/
theorem shape_assigned (parameter : Parameter) (value : Bytes) :
    Shape.of (.ofString "--" ++ .ofString parameter.longName ++ equals :: value)
      = .long (.ofString parameter.longName) (some value) := by
  cases parameter <;> rfl

/-- Behind a command that generates there are all options. -/
theorem lookup_longName (parameter : Parameter) :
    Scope.generate.longNames.lookup parameter.longName = some (.parameter parameter) := by
  cases parameter <;> rfl

/-- What can be judged waits for no value. -/
theorem awaiting?_of_settle (h : state.settle = .ok collected) : state.awaiting? = none := by
  unfold State.awaiting?
  split
  · next hpending =>
    -- an option without its value cannot be judged
    unfold State.settle at h
    rw [hpending] at h
    cases h
  · rfl

/-- An argument that looks like a long name is read as one when no value is waited for. -/
theorem step_of_long {argument name : Bytes} {value : Option Bytes} (h : state.settle = .ok collected)
    (hshape : Shape.of argument = .long name value) :
    step .generate state argument = (readLong .generate state name value).map .next := by
  unfold step
  rw [awaiting?_of_settle h]
  simp [optionStep, hshape]

/-- Reading goes on behind an argument. -/
theorem readScope_cons {scope : Scope} {argument : Bytes} {next : State}
    (h : step scope state argument = .ok (.next next)) (rest : List Bytes) :
    readScope scope (argument :: rest) state = readScope scope rest next := by
  conv_lhs => unfold readScope
  rw [h]

/-- An option with its value behind an equals sign. -/
theorem readScope_assigned (h : state.settle = .ok collected)
    (hadd : collected.add parameter value = .ok after) (rest : List Bytes) :
    readScope .generate ((.ofString "--" ++ .ofString parameter.longName ++ equals :: value) :: rest)
      state = readScope .generate rest { collected := after } := by
  have hread : readLong .generate state (.ofString parameter.longName) (some value)
      = .ok { collected := after } := by
    unfold readLong State.addValue
    rw [Bytes.toString?_ofString, Option.bind_some, lookup_longName, h]
    dsimp only
    rw [hadd]
    rfl
  refine readScope_cons ?_ rest
  rw [step_of_long h (shape_assigned parameter value), hread]
  rfl

/-- A word of the plugin's command, which may look like anything. -/
theorem readScope_word (h : state.settle = .ok collected) (word : Bytes) (rest : List Bytes) :
    readScope .generate (.ofString "--plugin" :: word :: rest) state
      = readScope .generate rest { collected, pending := some (.plugin, some word) } := by
  have hread : readLong .generate state (.ofString Parameter.plugin.longName) none
      = .ok { collected, pending := some (.plugin, none) } := by
    unfold readLong State.addSwitch State.awaitValue
    rw [Bytes.toString?_ofString, Option.bind_some, lookup_longName, h]
  have hname : step .generate state (.ofString "--plugin")
      = .ok (.next { collected, pending := some (.plugin, none) }) := by
    have hshape : Shape.of (.ofString "--plugin")
        = .long (.ofString Parameter.plugin.longName) none := rfl
    rw [step_of_long h hshape, hread]
    rfl
  -- with the name read, the next argument is taken as the word before it is looked at
  have hword : step .generate { collected, pending := some (.plugin, none) } word
      = .ok (.next { collected, pending := some (.plugin, some word) }) := rfl
  rw [readScope_cons hname, readScope_cons hword]

/-- Every option but the words of a plugin has its value behind an equals sign. -/
theorem written_of_ne (h : parameter ≠ .plugin) : written (parameter, value)
    = [Bytes.ofString "--" ++ .ofString parameter.longName ++ equals :: value] := by
  cases parameter with
  | plugin => exact absurd rfl h
  | _ => rfl

/-- **An option with its value** is read as such, and judged when the next one is met or at the end. -/
theorem readScope_written (h : state.settle = .ok collected)
    (hadd : collected.add parameter value = .ok after) :
    ∃ next, next.settle = .ok after ∧ ∀ rest,
      readScope .generate (written (parameter, value) ++ rest) state = readScope .generate rest next := by
  by_cases hplugin : parameter = .plugin
  · subst hplugin
    exact ⟨{ collected, pending := some (.plugin, some value) }, hadd, readScope_word h value⟩
  · rw [written_of_ne hplugin]
    exact ⟨{ collected := after }, rfl, readScope_assigned h hadd⟩

end Reading

/-! ### Rows of options -/

theorem Row.values_append (row row' : Row) (parameter : Parameter) :
    values (row ++ row') parameter = row.values parameter ++ row'.values parameter :=
  List.filterMap_append

theorem Row.values_cons_self (row : Row) (parameter : Parameter) (value : Bytes) :
    values ((parameter, value) :: row) parameter = value :: row.values parameter :=
  List.filterMap_cons_some (if_pos rfl)

/-- **A row of options** is read as it is written, from a state that has read another row before, if every
value is such as its option takes and no option but the repeatable ones is there twice. -/
theorem readScope_row {before row : Row} {state : State}
    (hstate : state.settle = .ok { values := before })
    (honce : ∀ parameter : Parameter, parameter.isRepeatable = false →
      (Row.values (before ++ row) parameter).length ≤ 1)
    (hjudged : ∀ entry ∈ row, entry.1.valueError? entry.2 = none) :
    ∃ next, readScope .generate (row.flatMap written) state = .ok (next, none) ∧
      next.settle = .ok { values := before ++ row } := by
  -- the options that have been read go over from the row to what is before it
  induction row generalizing before state with
  | nil => exact ⟨state, rfl, by rwa [List.append_nil]⟩
  | cons entry row ih =>
    obtain ⟨parameter, value⟩ := entry
    obtain ⟨hvalue, hrow⟩ := List.forall_mem_cons.mp hjudged
    have hsplit : before ++ (parameter, value) :: row = (before ++ [(parameter, value)]) ++ row :=
      List.append_cons _ _ _
    have hadd : Collected.add { values := before } parameter value
        = .ok { values := before ++ [(parameter, value)] } := by
      refine Collected.add_eq_ok_iff.mpr ⟨?_, hvalue, rfl⟩
      by_cases hrepeatable : parameter.isRepeatable = true
      · exact .inl hrepeatable
      · -- an option that had a value before would be there twice
        have hlength := honce parameter (Bool.not_eq_true _ ▸ hrepeatable)
        rw [Row.values_append, Row.values_cons_self, List.length_append, List.length_cons] at hlength
        exact .inr (List.length_eq_zero_iff.mp (show (Row.values before parameter).length = 0 by omega))
    obtain ⟨middle, hmiddle, hread⟩ := readScope_written hstate hadd
    rw [hsplit] at honce
    obtain ⟨next, hnext, hsettle⟩ := ih hmiddle honce hrow
    refine ⟨next, ?_, ?_⟩
    · rw [List.flatMap_cons, hread, hnext]
    · rw [hsplit, hsettle]

/-! ### Command lines -/

section CommandLines

variable {options : GenerateOptions} {project config : Option Path} {row : Row}

/-- The values of an option that takes one at most. -/
theorem length_said_le {parameter : Parameter} (h : parameter.isRepeatable = false) :
    (said options project config parameter).length ≤ 1 := by
  have hle : ∀ {α : Type} (value : Option α), value.toList.length ≤ 1 := by
    intro α value
    cases value <;> simp
  cases parameter with
  | package => cases h
  | plugin => cases h
  | _ => exact hle _

/-- The values of an option are such as it takes: words are texts, and paths are not empty. -/
theorem valueError?_of_mem_said
    (hpaths : ∀ parameter ∉ [.package, .plugin, .classpath],
      [] ∉ said options project config parameter) {parameter : Parameter} {value : Bytes}
    (hvalue : value ∈ said options project config parameter) : parameter.valueError? value = none := by
  have hword : ∀ {words : List String}, value ∈ words.map Bytes.ofString → value.toString?.isSome := by
    intro words hmem
    obtain ⟨word, -, rfl⟩ := List.mem_map.mp hmem
    rw [Bytes.toString?_ofString]
    rfl
  have hpath : parameter ∉ [.package, .plugin, .classpath] → ¬value.isEmpty = true := by
    intro hparameter hempty
    rw [List.isEmpty_iff.mp hempty] at hvalue
    exact hpaths parameter hparameter hvalue
  cases parameter with
  | package => exact if_pos (hword hvalue)
  | plugin => exact if_pos (hword hvalue)
  | classpath => rfl
  | _ => exact if_neg (hpath (by decide))

/-- Words that were written as bytes are read as they were. -/
theorem filterMap_toString?_map (words : List String) :
    (words.map Bytes.ofString).filterMap Bytes.toString? = words := by
  induction words with
  | nil => rfl
  | cons word words ih =>
    rw [List.map_cons, List.filterMap_cons_some (Bytes.toString?_ofString word), ih]

/-- The value of an option that has one at most. -/
theorem head?_toList {α : Type} (value : Option α) : value.toList.head? = value := by
  cases value with
  | none => rfl
  | some value => rfl

section Row

variable (h : row.Writes options project config)

include h

theorem path?_of_row {parameter : Parameter} {path : Option Path}
    (hvalues : said options project config parameter = (path.map Path.bytes).toList) :
    Collected.path? { values := row } parameter = path := by
  have hrow : Collected.valuesOf { values := row } parameter
      = said options project config parameter := h parameter
  rw [Collected.path?, hrow, hvalues, head?_toList, Option.map_map]
  exact congrFun Option.map_id path

theorem words_of_row {parameter : Parameter} {words : List String}
    (hvalues : said options project config parameter = words.map Bytes.ofString) :
    Collected.words { values := row } parameter = words := by
  have hrow : Collected.valuesOf { values := row } parameter
      = said options project config parameter := h parameter
  rw [Collected.words, hrow, hvalues, filterMap_toString?_map]

/-- **What is collected from a row** are the options that it writes. -/
theorem generateOptions_of_row : Collected.generateOptions { values := row } = options := by
  have hpackages : Collected.words { values := row } .package = options.packages := words_of_row h rfl
  have hplugin : Collected.words { values := row } .plugin = options.plugin := words_of_row h rfl
  have houtput : Collected.path? { values := row } .output = options.output := path?_of_row h rfl
  have hresources : Collected.path? { values := row } .resources = options.sources.resources :=
    path?_of_row h rfl
  have hfile : Collected.path? { values := row } .classpathFile = options.sources.classpathFile :=
    path?_of_row h rfl
  have hclasspath : (Collected.valuesOf { values := row } .classpath).head?
      = options.sources.classpath := by
    rw [show Collected.valuesOf { values := row } .classpath = _ from h .classpath]
    exact head?_toList _
  rw [Collected.generateOptions, Collected.sourceOptions, hpackages, hplugin, houtput, hresources,
    hclasspath, hfile]

theorem globalOptions_of_row :
    Collected.globalOptions { values := row } = { project, config } := by
  have hproject : Collected.path? { values := row } .project = project := path?_of_row h rfl
  have hconfig : Collected.path? { values := row } .config = config := path?_of_row h rfl
  rw [Collected.globalOptions, hproject, hconfig]
  rfl

end Row

/-- **Arguments survive the command line.** A command that generates, with options in any order, is read
as what the options were written for: the packages and the words of the plugin are the same lists,
whatever texts are in them, and each other option has the value that it was given, or none. -/
theorem parse_written (hwritten : row.Writes options project config)
    (hpaths : ∀ parameter ∉ [.package, .plugin, .classpath],
      [] ∉ said options project config parameter) :
    parse (.ofString "generate" :: row.flatMap written)
      = .ok ⟨.generate options, { project, config }⟩ := by
  have honce : ∀ parameter : Parameter, parameter.isRepeatable = false →
      (row.values parameter).length ≤ 1 := by
    intro parameter hparameter
    rw [hwritten parameter]
    exact length_said_le hparameter
  -- no value is refused: texts are written as texts, and no path is empty
  have hjudged : ∀ entry ∈ row, entry.1.valueError? entry.2 = none := by
    intro entry hmem
    have hvalue : entry.2 ∈ Collected.valuesOf { values := row } entry.1 :=
      Collected.mem_valuesOf.mpr hmem
    apply valueError?_of_mem_said hpaths
    rw [← hwritten entry.1]
    exact hvalue
  have hstart : State.settle {} = .ok { values := [] } := rfl
  obtain ⟨next, hread, hsettle⟩ := readScope_row hstart honce hjudged
  have hcommand : readCommand .generate (row.flatMap written) = .ok { values := row } := by
    rw [readCommand, hread]
    dsimp only [bind, Except.bind]
    rw [hsettle]
    rfl
  have htop : readScope .top (.ofString "generate" :: row.flatMap written) {}
      = .ok ({}, some (.generate, row.flatMap written)) := rfl
  have hgenerate : commandOf .generate { values := row } = .generate options :=
    congrArg Command.generate (generateOptions_of_row hwritten)
  have hglobals : joinGlobals (Collected.globalOptions {}) (Collected.globalOptions { values := row })
      = { project, config } := by
    rw [globalOptions_of_row hwritten]
    cases project <;> cases config <;> rfl
  rw [parse, htop]
  dsimp only [bind, Except.bind]
  rw [hcommand, ← hgenerate, ← hglobals]
  rfl

end CommandLines

/-- Options with words and values that look like options, like the end of the options and like a
command. -/
def disguisedOptions : GenerateOptions where
  packages := ["--help", "", "suppliers"]
  output := some (.ofString "-out")
  plugin := ["--", "generate", "--help", "", "-p"]
  sources := { classpath := some [], classpathFile := some (.ofString "--plugin=x") }

/-- The options in a row. -/
def disguisedRow : Row :=
  [(.plugin, .ofString "--"), (.package, .ofString "--help"), (.plugin, .ofString "generate"),
    (.classpathFile, .ofString "--plugin=x"), (.package, .ofString ""), (.plugin, .ofString "--help"),
    (.plugin, .ofString ""), (.project, .ofString "=p"), (.output, .ofString "-out"),
    (.package, .ofString "suppliers"), (.classpath, .ofString ""), (.plugin, .ofString "-p")]

/-- They are read as what they were written for. -/
theorem parse_written_disguisedRow :
    disguisedRow.Writes disguisedOptions (some (.ofString "=p")) none ∧
      (∀ parameter ∉ [.package, .plugin, .classpath],
        [] ∉ said disguisedOptions (some (.ofString "=p")) none parameter) ∧
      parse (["generate", "--plugin", "--", "--package=--help", "--plugin", "generate",
          "--classpath-file=--plugin=x", "--package=", "--plugin", "--help", "--plugin", "",
          "--project==p", "--output-directory=-out", "--package=suppliers", "--classpath=",
          "--plugin", "-p"].map Bytes.ofString)
        = .ok ⟨.generate disguisedOptions, { project := some (.ofString "=p") }⟩ := by
  have hwritten : disguisedRow.Writes disguisedOptions (some (.ofString "=p")) none := by
    intro parameter
    cases parameter <;> decide
  have hpaths : ∀ parameter ∉ [.package, .plugin, .classpath],
      [] ∉ said disguisedOptions (some (.ofString "=p")) none parameter := by
    intro parameter
    cases parameter <;> decide
  exact ⟨hwritten, hpaths, parse_written hwritten hpaths⟩

end SchemaBuild.CommandLine
