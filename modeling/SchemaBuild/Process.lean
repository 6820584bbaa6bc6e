import SchemaBuild.Environment
import SchemaBuild.FileSystem.Walk

/-!
# Starting programs

What a program is started with and what it leaves behind. A program's **behaviour** is any function
from these to an outcome and a changed file system, so whatever is said of a run holds whatever its
programs do.
-/

namespace SchemaBuild

/-- What a program is started with. -/
structure Invocation where
  /-- Where the program's file stands. -/
  program : Location
  arguments : List Bytes
  environment : Environment
  here : Place
  /-- What it can read from its standard input. -/
  input : Bytes
  deriving Repr, DecidableEq

/-- How a process ended. -/
inductive Exit where
  | status (code : Nat)
  | signal (number : Nat)
  deriving Repr, DecidableEq

namespace Exit

/-- Did the process report success? -/
def isSuccess : Exit → Bool
  | status code => code == 0
  | signal _ => false

/-- The names of the signals from 1 on. -/
def signalNames : List String :=
  ["SIGHUP", "SIGINT", "SIGQUIT", "SIGILL", "SIGTRAP", "SIGABRT", "SIGBUS", "SIGFPE", "SIGKILL",
    "SIGUSR1", "SIGSEGV", "SIGUSR2", "SIGPIPE", "SIGALRM", "SIGTERM", "SIGSTKFLT", "SIGCHLD",
    "SIGCONT", "SIGSTOP", "SIGTSTP", "SIGTTIN", "SIGTTOU", "SIGURG", "SIGXCPU", "SIGXFSZ",
    "SIGVTALRM", "SIGPROF", "SIGWINCH", "SIGIO", "SIGPWR", "SIGSYS"]

/-- The end of a process as text: the status, or the signal with its name if it has one. -/
def message : Exit → String
  | status code => s!"exit status: {code}"
  | signal 0 => "signal: 0"
  | signal (n + 1) =>
    match signalNames[n]? with
    | some name => s!"signal: {n + 1} ({name})"
    | none => s!"signal: {n + 1}"

end Exit

/-- What a process leaves behind besides changed files. -/
structure Outcome where
  exit : Exit
  /-- What it wrote to standard error. -/
  errors : Bytes
  deriving Repr, DecidableEq

/-- What programs do. -/
abbrev Behaviour := Invocation → FileSystem → Outcome × FileSystem

namespace FileSystem

/-- The program file at a place, if one may be run there. -/
def programAt (files : FileSystem) (here : Place) (path : Path) : Except IoError Location :=
  match files.locate here path with
  | .error error => .error error
  | .ok (.removed ..) => .error .permissionDenied
  | .ok (.located location) =>
    match files.node? location with
    | some (.file _ true) => .ok location
    | some _ => .error .permissionDenied
    | none => .error .notFound

/-- The first directory's program of a search path. A program that may not be run is reported only if
none further on can be, and missing ones are passed over. -/
def searchProgram (files : FileSystem) (here : Place) (name : Path) (denied : Bool) :
    List Bytes → Except IoError Location
  | [] => .error (if denied then .permissionDenied else .notFound)
  | directory :: rest =>
    let candidate := if directory.isEmpty then name else Path.join ⟨directory⟩ name
    match files.programAt here candidate with
    | .ok location => .ok location
    | .error .permissionDenied => searchProgram files here name true rest
    | .error .notFound => searchProgram files here name denied rest
    | .error .notDirectory => searchProgram files here name denied rest
    | .error error => .error error

/-- The search path where the environment names none. -/
def defaultSearchPath : Bytes := Bytes.ofString "/bin:/usr/bin"

/-- The program that a command names: a name with a slash is a path, and any other is searched for. -/
def findProgram (files : FileSystem) (environment : Environment) (here : Place) (program : Path) :
    Except IoError Location :=
  if program.isEmpty then .error .notFound
  else if program.bytes.contains Path.slash then files.programAt here program
  else
    let directories := (environment.get? (Bytes.ofString "PATH")).getD defaultSearchPath
    files.searchProgram here program false (directories.split (Bytes.ascii ':'))

end FileSystem

end SchemaBuild
