import SchemaBuild.CommandLine.Options
import SchemaBuild.CommandLine.Switches

/-!
# Reading a command line

Options may stand before the command, which some of them may, and behind it. A value follows its option
as an argument of its own or behind an equals sign, and behind the letter of a short name also directly.
An argument `--` ends the options; no command takes anything behind it.

A value is judged when the next option is met, or at the end. What stands behind the command is judged
before the options in front of it.
-/

namespace SchemaBuild.CommandLine

/-- The options of a scope that have been read. -/
structure Collected where
  flags : List Flag := []
  /-- The options with values, in their order. -/
  values : List (Parameter × Bytes) := []
  deriving Repr, DecidableEq

/-- The state of reading a scope. -/
structure State where
  collected : Collected := {}
  /-- The last option with a value, not yet judged; the value may still be to come. -/
  pending : Option (Parameter × Option Bytes) := none
  deriving Repr, DecidableEq

namespace Collected

/-- Add an option with its value. -/
def add (collected : Collected) (parameter : Parameter) (value : Bytes) :
    Except Refusal Collected :=
  if !parameter.isRepeatable && collected.values.any (·.1 = parameter) then .error .conflict
  else
    match parameter.valueError? value with
    | some refusal => .error refusal
    | none => .ok { collected with values := collected.values ++ [(parameter, value)] }

/-- Add an option without a value. -/
def addFlag (collected : Collected) (flag : Flag) : Except Refusal Collected :=
  if collected.flags.contains flag then .error .conflict
  else .ok { collected with flags := flag :: collected.flags }

/-- Has nothing been read? -/
def isEmpty (collected : Collected) : Bool := collected.flags.isEmpty && collected.values.isEmpty

/-- Refuse options that exclude each other. -/
def check (collected : Collected) : Except Refusal Unit :=
  if collected.flags.contains .quiet && collected.flags.contains .verbose then .error .conflict
  else .ok ()

/-- The values of an option, in their order. -/
def valuesOf (collected : Collected) (parameter : Parameter) : List Bytes :=
  collected.values.filterMap fun (other, value) => if other = parameter then some value else none

/-- The value of an option as a path. -/
def path? (collected : Collected) (parameter : Parameter) : Option Path :=
  (collected.valuesOf parameter).head?.map Path.mk

/-- The values of an option as words. -/
def words (collected : Collected) (parameter : Parameter) : List String :=
  (collected.valuesOf parameter).filterMap Bytes.toString?

/-- The options about sources. -/
def sourceOptions (collected : Collected) : SourceOptions :=
  { resources := collected.path? .resources
    classpath := (collected.valuesOf .classpath).head?
    classpathFile := collected.path? .classpathFile }

/-- The options about what is generated. -/
def generateOptions (collected : Collected) : GenerateOptions :=
  { packages := collected.words .package
    output := collected.path? .output
    plugin := collected.words .plugin
    sources := collected.sourceOptions }

/-- The options that every command has. -/
def globalOptions (collected : Collected) : GlobalOptions :=
  { quiet := collected.flags.contains .quiet
    verbose := collected.flags.contains .verbose
    project := collected.path? .project
    config := collected.path? .config }

end Collected

namespace State

/-- Judge the option that is pending. -/
def settle (state : State) : Except Refusal Collected :=
  match state.pending with
  | none => .ok state.collected
  | some (_, none) => .error .invalidValue
  | some (parameter, some value) => state.collected.add parameter value

/-- The state behind an option and its value. -/
def addValue (state : State) (parameter : Parameter) (value : Bytes) : Except Refusal State :=
  match state.settle with
  | .error refusal => .error refusal
  | .ok collected => (collected.add parameter value).map ({ collected := · })

/-- The state behind an option whose value is to come. -/
def awaitValue (state : State) (parameter : Parameter) : Except Refusal State :=
  match state.settle with
  | .error refusal => .error refusal
  | .ok collected => .ok { collected, pending := some (parameter, none) }

/-- The state behind an option that stands for itself. -/
def addSwitch (state : State) (switch : Switch) : Except Refusal State :=
  match switch with
  | .parameter parameter => state.awaitValue parameter
  | .flag flag =>
    match state.settle with
    | .error refusal => .error refusal
    | .ok collected => (collected.addFlag flag).map ({ collected := · })
  | .help =>
    match state.settle with
    | .error refusal => .error refusal
    | .ok _ => .error .help
  | .version =>
    match state.settle with
    | .error refusal => .error refusal
    | .ok _ => .error .version

/-- The option that still needs a value. -/
def awaiting? (state : State) : Option Parameter :=
  match state.pending with
  | some (parameter, none) => some parameter
  | _ => none

end State

/-! ### Arguments -/

/-- The byte of a hyphen. -/
def hyphen : UInt8 := Bytes.ascii '-'

/-- The byte of an equals sign. -/
def equals : UInt8 := Bytes.ascii '='

/-- What an argument looks like. -/
inductive Shape where
  /-- The end of the options. -/
  | escape
  /-- A long name, and a value behind an equals sign. -/
  | long (name : Bytes) (value : Option Bytes)
  /-- Short names. -/
  | short (names : Bytes)
  /-- Anything else. -/
  | plain
  deriving Repr, DecidableEq

/-- What an argument looks like. -/
def Shape.of (argument : Bytes) : Shape :=
  match argument with
  | first :: second :: rest =>
    if first ≠ hyphen then .plain
    else if second ≠ hyphen then .short (second :: rest)
    else if rest.isEmpty then .escape
    else
      let name := rest.takeWhile (· ≠ equals)
      match rest.drop name.length with
      | [] => .long name none
      | _ :: value => .long name (some value)
  | _ => .plain

/-- The state behind a long name. -/
def readLong (scope : Scope) (state : State) (name : Bytes) (value : Option Bytes) :
    Except Refusal State :=
  match name.toString?.bind fun name => scope.longNames.lookup name, value with
  | none, _ => .error .unknownArgument
  | some switch, none => state.addSwitch switch
  | some (.parameter parameter), some value => state.addValue parameter value
  | some _, some _ => .error .surplusValue

/-- The short name at the front, if there is one. -/
def shortSwitch? (scope : Scope) (name : UInt8) : Option Switch :=
  scope.shortNames.lookup (Char.ofNat name.toNat)

/-- The state behind short names. What follows the name of an option with a value is the value. -/
def readShort (scope : Scope) : State → Bytes → Except Refusal State
  | state, [] => .ok state
  | state, name :: rest =>
    match shortSwitch? scope name with
    | none => .error .unknownArgument
    | some (.parameter parameter) =>
      match rest with
      | [] => state.awaitValue parameter
      | first :: value => state.addValue parameter (if first = equals then value else rest)
    | some switch =>
      match state.addSwitch switch with
      | .error refusal => .error refusal
      | .ok state => readShort scope state rest

/-- The commands with the scopes of their options. -/
def commands : List (Bytes × Scope) :=
  [(.ofString "generate", .generate), (.ofString "suppliers", .suppliers)]

/-- The name of the command that shows help. -/
def helpName : Bytes := .ofString "help"

/-- Is this the name of a command? -/
def isCommandName (argument : Bytes) : Bool :=
  (commands.lookup argument).isSome || argument = helpName

/-- The refusal of an argument that is no option, before the options have ended or behind that. -/
def misplaced (scope : Scope) (ended : Bool) (argument : Bytes) : Refusal :=
  if scope = .top && !(ended && isCommandName argument) then .unknownCommand else .unknownArgument

/-- The answer to the command that shows help, with the arguments behind it. -/
def helpRefusal : List Bytes → Refusal
  | [] => .help
  | [name] => if isCommandName name then .help else .unknownCommand
  | _ => .unknownCommand

/-- What an argument does. -/
inductive Step where
  /-- It is an option or a value; reading goes on in the given state. -/
  | next (state : State)
  /-- It ends the options. -/
  | ended
  /-- It is a command, with options of the given scope. -/
  | command (scope : Scope)
  /-- It is the command that shows help. -/
  | help
  deriving Repr, DecidableEq

/-- The step of an argument that may be an option. One that does not look like an option does `plain`. -/
def optionStep (scope : Scope) (state : State) (argument : Bytes) (plain : Except Refusal Step) :
    Except Refusal Step :=
  match Shape.of argument with
  | .escape => .ok .ended
  | .long name value => (readLong scope state name value).map .next
  | .short names => (readShort scope state names).map .next
  | .plain => plain

/-- The step of an argument. -/
def step (scope : Scope) (state : State) (argument : Bytes) : Except Refusal Step :=
  match state.awaiting? with
  | some parameter =>
    let value : Except Refusal Step :=
      .ok (.next { state with pending := some (parameter, some argument) })
    if parameter.takesAnything then value else optionStep scope state argument value
  | none =>
    if scope = .top && argument = helpName then .ok .help
    else
      match (if scope = .top then commands.lookup argument else none) with
      | some command => .ok (.command command)
      | none => optionStep scope state argument (.error (misplaced scope false argument))

/-- Read the options of a scope, up to a command if the scope has commands: the state then, and the
scope of the command's options with the arguments behind it. -/
def readScope (scope : Scope) : List Bytes → State → Except Refusal (State × Option (Scope × List Bytes))
  | [], state => .ok (state, none)
  | argument :: rest, state =>
    match step scope state argument with
    | .error refusal => .error refusal
    | .ok (.next state) => readScope scope rest state
    | .ok (.command command) => .ok (state, some (command, rest))
    | .ok .help => .error (helpRefusal rest)
    | .ok .ended =>
      match rest with
      | [] => .ok (state, none)
      | next :: _ => .error (misplaced scope true next)

/-- Read the options behind a command. -/
def readCommand (scope : Scope) (arguments : List Bytes) : Except Refusal Collected := do
  let (state, _) ← readScope scope arguments {}
  let collected ← state.settle
  collected.check
  return collected

/-- The options behind the command and those before it together; the former win. -/
def joinGlobals (before behind : GlobalOptions) : GlobalOptions :=
  { quiet := before.quiet || behind.quiet
    verbose := before.verbose || behind.verbose
    project := behind.project <|> before.project
    config := behind.config <|> before.config }

/-- The command that the options of a scope are for. -/
def commandOf (scope : Scope) (collected : Collected) : Command :=
  if scope = .generate then .generate collected.generateOptions
  else .suppliers collected.sourceOptions

/-- The command line that arguments make. -/
def parse (arguments : List Bytes) : Except Refusal CommandLine := do
  let (state, found) ← readScope .top arguments {}
  match found with
  | none =>
    let collected ← state.settle
    throw (if collected.isEmpty then .noArguments else .missingCommand)
  | some (scope, rest) =>
    let behind ← readCommand scope rest
    let before ← state.settle
    before.check
    return { command := commandOf scope behind
             globals := joinGlobals before.globalOptions behind.globalOptions }

end SchemaBuild.CommandLine
