import SchemaBuild.FileSystem

/-!
# Following paths through a file system

A path leads somewhere step by step: stay in the directory, go up, or enter what has a name. Entering
a symbolic link goes on with the steps of its target in place of the name. A walk that would follow
more than forty links fails, so every walk ends.

A walk starts at the root or in a working directory. A working directory may have been removed since;
then nothing can be entered from it, and going up leads out of it.
-/

namespace SchemaBuild

/-- Where a walk stands. -/
inductive Place where
  /-- At an object of the file system. -/
  | located (location : Location)
  /-- In a removed directory: `above` is the nearest directory over it that is left, `depth + 1`
  levels up. -/
  | removed (above : Location) (depth : Nat)
  deriving Repr, DecidableEq, Inhabited

/-- One step of a walk. -/
inductive Step where
  | stay
  | up
  | enter (name : Bytes)
  deriving Repr, DecidableEq

namespace Place

/-- The root directory. -/
def root : Place := .located []

/-- The directory above. The one above the root is the root. -/
def up : Place → Place
  | located location => located location.dropLast
  | removed above 0 => located above
  | removed above (depth + 1) => removed above depth

end Place

/-- The step that a stretch between slashes stands for. -/
def Step.ofSegment (segment : Bytes) : Step :=
  if segment = Path.dot then .stay else if segment = Path.dotDot then .up else .enter segment

/-- The steps of a path, slashes at the end aside. -/
def Path.plainSteps (path : Path) : List Step :=
  (path.segments.filter (!·.isEmpty)).map Step.ofSegment

/-- The steps of a path. A slash at the end asks for a directory, as a last `.` does. -/
def Path.steps (path : Path) : List Step :=
  path.plainSteps ++ if path.endsInSlash then [.stay] else []

/-- The greatest length of a name. -/
def nameLimit : Nat := 255

/-- The least length of a path that is too long. -/
def pathLimit : Nat := 4096

/-- The greatest number of symbolic links that one walk follows. -/
def linkLimit : Nat := 40

namespace FileSystem

/-- Is there a directory at this place? -/
def isDirectoryAtPlace (files : FileSystem) : Place → Bool
  | .located location => files.isDirectoryAt location
  | .removed .. => true

/-- Where a walk along `path` begins when the working directory is `here`. -/
def startOf (here : Place) (path : Path) : Place := if path.isAbsolute then .root else here

/-- Take steps from a place; `follow` says how a walk goes on that has met a symbolic link. -/
def walkWith (files : FileSystem) (follow : Place → List Step → Except IoError Place) :
    Place → List Step → Except IoError Place
  | place, [] => .ok place
  | place, step :: rest =>
    if files.isDirectoryAtPlace place then
      match step with
      | .stay => walkWith files follow place rest
      | .up => walkWith files follow place.up rest
      | .enter name =>
        match place with
        | .removed .. => .error .notFound
        | .located location =>
          if name.length > nameLimit then .error .nameTooLong
          else
            match files.node? (location ++ [name]) with
            | none => .error .notFound
            | some (.link target) => follow (startOf place target) (target.steps ++ rest)
            | some _ => walkWith files follow (.located (location ++ [name])) rest
    else .error .notDirectory

/-- Take steps from a place, following at most `links` symbolic links. -/
def walk (files : FileSystem) : (links : Nat) → Place → List Step → Except IoError Place
  | 0 => walkWith files fun _ _ => .error .tooManyLinks
  | links + 1 => walkWith files (walk files links)

/-- Why a path cannot be looked at, whatever the file system holds. -/
def pathError? (path : Path) : Option IoError :=
  if path.bytes.contains 0 then some .nulInPath
  else if path.isEmpty then some .notFound
  else if path.bytes.length ≥ pathLimit then some .nameTooLong
  else none

/-- Where a path leads, seen from the working directory `here`. -/
def locate (files : FileSystem) (here : Place) (path : Path) : Except IoError Place :=
  match pathError? path with
  | some error => .error error
  | none => files.walk linkLimit (startOf here path) path.steps

/-- What a path leads to. A removed directory is a directory with nothing in it. -/
def find (files : FileSystem) (here : Place) (path : Path) : Except IoError Node :=
  match files.locate here path with
  | .error error => .error error
  | .ok (.removed ..) => .ok (.directory [])
  | .ok (.located location) =>
    match files.node? location with
    | some node => .ok node
    | none => .error .notFound

/-! ### Creating -/

/-- Make a directory where a path leads. What stands there already, a symbolic link included, is left
alone and is an error. -/
def makeDirectory (files : FileSystem) (here : Place) (path : Path) : Except IoError FileSystem :=
  match pathError? path with
  | some error => .error error
  | none =>
    match path.plainSteps.getLast? with
    | none => .error .alreadyExists
    | some last =>
      match files.walk linkLimit (startOf here path) path.plainSteps.dropLast with
      | .error error => .error error
      | .ok place =>
        if files.isDirectoryAtPlace place then
          match last, place with
          | .enter _, .removed .. => .error .notFound
          | .enter name, .located location =>
            if name.length > nameLimit then .error .nameTooLong
            else
              match files.node? (location ++ [name]) with
              | some _ => .error .alreadyExists
              | none => .ok (files.put (location ++ [name]) (.directory []))
          | _, _ => .error .alreadyExists
        else .error .notDirectory

/-- Make the first of the given directories, where each further one is the directory above the one
before it and is made first if it is missing. Directories made before a failure stay. -/
def makeChain (here : Place) : List Path → FileSystem → Except IoError Unit × FileSystem
  | [], files => (.error .noAncestor, files)
  | path :: above, files =>
    if path.isEmpty then (.ok (), files)
    else
      match files.makeDirectory here path with
      | .ok made => (.ok (), made)
      | .error .notFound =>
        match makeChain here above files with
        | (.error error, files) => (.error error, files)
        | (.ok (), files) =>
          match files.makeDirectory here path with
          | .ok made => (.ok (), made)
          | .error error => (afterFailure files path error, files)
      | .error error => (afterFailure files path error, files)
where
  /-- A directory that could not be made is there all the same if it was there before. -/
  afterFailure (files : FileSystem) (path : Path) (error : IoError) : Except IoError Unit :=
    match files.find here path with
    | .ok (.directory _) => .ok ()
    | _ => .error error

/-- Make a directory and all that is missing above it. -/
def makeDirectories (files : FileSystem) (here : Place) (path : Path) :
    Except IoError Unit × FileSystem :=
  makeChain here (path :: path.parents) files

/-- Where a file that is written along these steps stands. A symbolic link at the end is followed,
also to where nothing is yet. -/
def writeLocation (files : FileSystem) : (links : Nat) → Place → List Step → Except IoError Location
  | links, place, steps =>
    match steps.getLast? with
    | some (.enter name) =>
      match files.walk links place steps.dropLast with
      | .error error => .error error
      | .ok reached =>
        if files.isDirectoryAtPlace reached then
          match reached with
          | .removed .. => .error .notFound
          | .located location =>
            if name.length > nameLimit then .error .nameTooLong
            else
              match files.node? (location ++ [name]), links with
              | some (.link _), 0 => .error .tooManyLinks
              | some (.link target), links + 1 =>
                if target.endsInSlash then .error .isDirectory
                else writeLocation files links (startOf reached target) target.plainSteps
              | some (.directory _), _ => .error .isDirectory
              | _, _ => .ok (location ++ [name])
        else .error .notDirectory
    | _ =>
      match files.walk links place steps with
      | .error error => .error error
      | .ok _ => .error .isDirectory

/-- Write a file where a path leads, in place of what it held. -/
def write (files : FileSystem) (here : Place) (path : Path) (content : Bytes) :
    Except IoError FileSystem :=
  match pathError? path with
  | some error => .error error
  | none =>
    if path.endsInSlash then .error .isDirectory
    else
      match files.writeLocation linkLimit (startOf here path) path.plainSteps with
      | .error error => .error error
      | .ok location =>
        let executable :=
          match files.node? location with
          | some (.file _ executable) => executable
          | _ => false
        .ok (files.put location (.file content executable))

end FileSystem

end SchemaBuild
