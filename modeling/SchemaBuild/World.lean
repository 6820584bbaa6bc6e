import SchemaBuild.Host

/-!
# Worlds

All that a run can see and change: the file system, the environment and the working directory, the
list of the processes started so far, and the host. `World.has`, `World.readText` and the like look at
it; nothing but `World.makeDirectories`, `World.setVariable` and `World.start` changes it. A temporary
file is gone when it is closed, so `World.stage` changes nothing.
-/

namespace SchemaBuild

/-- The surroundings of a run. -/
structure World where
  files : FileSystem
  environment : Environment
  /-- The working directory. -/
  here : Place
  /-- The processes that were started, the first one first. -/
  started : List Invocation
  /-- The system that the run is on. -/
  host : Host := {}

namespace World

/-- What a path leads to. -/
def find (world : World) (path : Path) : Except IoError Node := world.files.find world.here path

/-- Does the path lead to anything? -/
def has (world : World) (path : Path) : Bool := (world.find path).isOk

/-- Does the path lead to a directory? -/
def isDirectory (world : World) (path : Path) : Bool :=
  match world.find path with
  | .ok node => node.isDirectory
  | .error _ => false

/-- Does the path lead to a file? -/
def isFile (world : World) (path : Path) : Bool :=
  match world.find path with
  | .ok node => node.isFile
  | .error _ => false

/-- The contents of the file that a path leads to. -/
def read (world : World) (path : Path) : Except IoError Bytes :=
  match world.find path with
  | .error error => .error error
  | .ok (.file content _) => .ok content
  | .ok _ => .error .isDirectory

/-- The text of the file that a path leads to. -/
def readText (world : World) (path : Path) : Except IoError String :=
  match world.read path with
  | .error error => .error error
  | .ok content =>
    match content.toString? with
    | some text => .ok text
    | none => .error .notText

/-- The spelling of a location from the root. -/
def pathOf (location : Location) : Path :=
  if location.isEmpty then ⟨[Path.slash]⟩ else ⟨location.flatMap (Path.slash :: ·)⟩

/-- The path of the working directory, if it still exists. -/
def currentDirectory (world : World) : Except IoError Path :=
  match world.here with
  | .located location => .ok (pathOf location)
  | .removed .. => .error .notFound

/-- The absolute form of a path. There is none of the empty path, and none of a relative path if the
working directory is gone. -/
def absolute? (world : World) (path : Path) : Except IoError Path :=
  if path.isEmpty then .error (.other "cannot make an empty path absolute")
  else if path.isAbsolute then .ok (Path.absoluteFrom ⟨[]⟩ path)
  else world.currentDirectory.map (Path.absoluteFrom · path)

/-- The absolute form of a path, or the path as it is if there is none. -/
def absolute (world : World) (path : Path) : Path :=
  match world.absolute? path with
  | .ok absolute => absolute
  | .error _ => path

/-- The home directory: the one that the environment names, or else the one on record. An empty name is
as good as none. -/
def homeDirectory? (world : World) : Option Path :=
  let named := (world.environment.get? (.ofString "HOME")).map Path.mk
  match named.filter (!·.isEmpty) with
  | some home => some home
  | none => world.host.home?.filter (!·.isEmpty)

/-- Make a directory and all that is missing above it. -/
def makeDirectories (world : World) (path : Path) : Except IoError Unit × World :=
  let (result, files) := world.files.makeDirectories world.here path
  (result, { world with files })

/-- Set an environment variable. -/
def setVariable (world : World) (name value : Bytes) : World :=
  { world with environment := world.environment.set name value }

/-- Put content into a temporary file, to be read from its start. -/
def stage (world : World) (content : Bytes) : Except IoError Unit :=
  world.host.stage world.environment world.here world.files world.started content

/-- Start a program with further environment variables and let it run to its end. -/
def start (world : World) (behaviour : Behaviour) (program : Path) (arguments : List Bytes)
    (added : List (Bytes × Bytes)) (input : Bytes) : Except IoError Outcome × World :=
  let values := program.bytes :: arguments ++ added.flatMap fun (name, value) => [name, value]
  if values.any (·.contains 0) then (.error .nulInArgument, world)
  else
    match world.files.findProgram world.environment world.here program with
    | .error error => (.error error, world)
    | .ok location =>
      let environment := added.foldl (fun env (name, value) => env.set name value) world.environment
      let invocation : Invocation :=
        { program := location, arguments, environment, here := world.here, input }
      let (outcome, files) := behaviour invocation world.files
      (.ok outcome, { world with files, started := world.started ++ [invocation] })

/-- Wait for the end of the process that was started last. -/
def await (world : World) : Except IoError Unit := world.host.await world.started

end World

end SchemaBuild
