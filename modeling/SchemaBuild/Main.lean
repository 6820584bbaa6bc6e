import SchemaBuild.CommandLine.Program
import SchemaBuild.CommandLine.Reach

/-!
# Running the program

The command line is carried out on a world that holds what it can come to look at. That is gathered
from the surroundings of the process before the run, and the directories that the run made are made
afterwards. Other programs are not started from here: a build ends where its plugin would start, with
the failure of a program that cannot be run.
-/

namespace SchemaBuild.Surroundings

/-- What a path was opened to: a file with its contents, or a directory, which has none. -/
def readHandle (handle : IO.FS.Handle) : IO Node :=
  tryCatch (do return .file (← handle.readBinToEnd).toList false) fun _ => return .directory []

/-- What stands at a path, links being followed. -/
def read? (path : String) : IO (Option Node) :=
  tryCatch (do return some (← readHandle (← IO.FS.Handle.mk path .read))) fun _ => return none

/-- The world with what really stands at a path. -/
def gather (world : World) (path : Path) : IO World := do
  let path := world.absolute path
  match path.toString? with
  | none => return world
  | some text =>
    match ← read? text with
    | none => return world
    | some (.file content _) =>
      let world := (world.makeDirectories (path.parent?.getD path)).2
      match world.files.write world.here path content with
      | .ok files => return { world with files }
      | .error _ => return world
    | some _ => return (world.makeDirectories path).2

/-- The world with what really stands at paths. -/
def gatherAll (world : World) (paths : List Path) : IO World := paths.foldlM gather world

/-- The variables of a block of `name=value` texts with NULs behind them. -/
def variablesOf (block : Bytes) : List (Bytes × Bytes) :=
  (block.split 0).filterMap fun entry =>
    let name := entry.takeWhile (· ≠ Bytes.ascii '=')
    if name.isEmpty then none else some (name, entry.drop (name.length + 1))

/-- The home directory of the user with a number, in a table of users with a line for each. -/
def homeOnRecord? (users : Bytes) (number : Bytes) : Option Path :=
  (users.split (Bytes.ascii '\n')).findSome? fun line =>
    match line.split (Bytes.ascii ':') with
    | [_, _, user, _, _, home, _] => if user = number then some ⟨home⟩ else none
    | _ => none

/-- The number of the user that the process belongs to, in a table of what the process is. -/
def userNumber? (status : Bytes) : Option Bytes :=
  (status.split (Bytes.ascii '\n')).findSome? fun line =>
    match line.split (Bytes.ascii '\t') with
    | field :: number :: _ => if field = Bytes.ofString "Uid:" then some number else none
    | _ => none

/-- The host that the process runs on. -/
def host : IO Host := do
  match ← read? "/proc/self/status", ← read? "/etc/passwd" with
  | some (.file status _), some (.file users _) =>
    return { home? := (userNumber? status).bind (homeOnRecord? users) }
  | _, _ => return {}

/-- The working directory, the environment and the host of the process, and no files. -/
def start : IO World := do
  let here ← IO.currentDir
  let block ← IO.FS.readBinFile "/proc/self/environ"
  let location := ((Path.ofString here.toString).segments.filter (!·.isEmpty))
  let world : World :=
    { files := .empty, environment := ⟨variablesOf block.toList⟩, here := .root, started := [] }
  let world := (world.makeDirectories (.ofString here.toString)).2
  return { world with here := .located location, host := ← host }

/-- The world that a command line is carried out on. -/
def forLine (line : CommandLine) : IO World := do
  let world ← start
  let world ← gather world (Reach.project line.globals world)
  let world ← gatherAll world (Reach.dotenvFiles line.globals world)
  let world ← gatherAll world (Reach.configFiles line.globals world)
  match line.globals.begin line.command.overrides world with
  | (.error _, _) => return world
  | (.ok (_, config), begun) =>
    let world ← gatherAll world (Reach.stagingDirectories begun)
    let world ← gatherAll world (Reach.configPaths config)
    let world ← gatherAll world (Reach.classpathPaths config world)
    gatherAll world (Reach.sourceFiles config world)

/-- The directories of an object, each by its location below it. -/
def directories : Node → List Location
  | .directory entries => [] :: inside entries
  | _ => []
where
  /-- The directories of entries. -/
  inside : List (Bytes × Node) → List Location
    | [] => []
    | (name, node) :: rest => (directories node).map (name :: ·) ++ inside rest

/-- Make the directories that are in one world and not in another. -/
def makeMissing (before after : World) : IO Unit := do
  for location in directories after.files.root do
    if !before.files.isDirectoryAt location then
      match (World.pathOf location).toString? with
      | some text => IO.FS.createDirAll text
      | none => pure ()

/-- What is taken for the end of every program: a failure, since none is started from here. -/
def noProgram : Behaviour := fun _ files =>
  (⟨.status 127, Bytes.ofString "programs are not started from here"⟩, files)

end SchemaBuild.Surroundings

open SchemaBuild in
def main (arguments : List String) : IO UInt32 := do
  let arguments := arguments.map Bytes.ofString
  let world ←
    match CommandLine.parse arguments with
    | .error _ => Surroundings.start
    | .ok line => Surroundings.forLine line
  let (result, after) := Program.run Surroundings.noProgram arguments world
  Surroundings.makeMissing world after
  IO.print result.output
  match result.errorLine with
  | some line => IO.eprint line
  | none => pure ()
  return result.exitCode.toUInt32
