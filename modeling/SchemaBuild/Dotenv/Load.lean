import SchemaBuild.Dotenv.Assignment
import SchemaBuild.Dotenv.Lines
import SchemaBuild.World

/-!
# Loading a dotenv file

A dotenv file sets environment variables that are not there yet. Its assignments are carried out one by
one, so those before a bad line are done when the line is found. A value may refer to the environment
and, where that has no text for a name, to the assignments before it.

No variable can hold a NUL. Setting one to a value with a NUL in it is not a failure that is passed on: the
process ends there and then. Here it is told as the last failure of the load, so nothing is set by it
and nothing is done behind it.
-/

namespace SchemaBuild.Dotenv

/-- Why a dotenv file cannot be loaded to its end. -/
inductive LoadError where
  | io (error : IoError)
  | line (bad : BadLine)
  /-- There is a NUL in the value for the variable. -/
  | nul (name : String)
  deriving Repr, DecidableEq

/-- The failure in words. -/
def LoadError.message : LoadError → String
  | io error => error.message
  | line bad => s!"Error parsing line: '{bad.text}', error at line index: {bad.position}"
  | nul name => s!"failed to set environment variable {name}: {IoError.nulInPath.message}"

/-- The lines of a file, each with its line end. -/
def fileLines (content : Bytes) : List Bytes :=
  match content with
  | [] => []
  | b :: rest =>
    if b = Bytes.ascii '\n' then [b] :: fileLines rest
    else
      match fileLines rest with
      | [] => [[b]]
      | line :: lines => (b :: line) :: lines

/-- The content without a mark of the byte order at its front. -/
def withoutMark : Bytes → Bytes
  | 0xEF :: 0xBB :: 0xBF :: rest => rest
  | content => content

/-- What a name in a value stands for: the variable of the environment if it is text, or else what the
last assignment to it was. -/
def valueOf (environment : Environment) (earlier : List Assignment) (name : String) : String :=
  match environment.getText? (.ofString name) with
  | some value => value
  | none => ((earlier.find? (·.name = name)).bind (·.value)).getD ""

/-- The value that an assignment gives; without one it gives the empty text. -/
def Assignment.given (assignment : Assignment) : Bytes := .ofString (assignment.value.getD "")

/-- Carry an assignment out: set the variable unless there is text in it. -/
def assign (world : World) (assignment : Assignment) : World :=
  let name := Bytes.ofString assignment.name
  match world.environment.getText? name with
  | some _ => world
  | none => world.setVariable name assignment.given

/-- The assignment cannot be carried out: the variable is to be set, and there is a NUL in the value. -/
def impossible (environment : Environment) (assignment : Assignment) : Bool :=
  (environment.getText? (.ofString assignment.name)).isNone && assignment.given.contains 0

/-- Carry out the assignments of lines of a file; `earlier` are those before, the last one first. -/
def loadLines : List Bytes → Pending → (earlier : List Assignment) → World →
    Except LoadError Unit × World
  | [], pending, _, world =>
    if pending.state = .complete then (.ok (), world)
    else
      (.error (.line ⟨String.ofList pending.text, (Utf8.encode pending.text).length⟩), world)
  | line :: lines, pending, earlier, world =>
    match Utf8.decode? line with
    | none => (.error (.io .notText), world)
    | some line =>
      match pending.add line with
      | .inr pending => loadLines lines pending earlier world
      | .inl text =>
        match Assignment.ofLine (valueOf world.environment earlier) text with
        | .error bad => (.error (.line bad), world)
        | .ok none => loadLines lines .empty earlier world
        | .ok (some assignment) =>
          if impossible world.environment assignment then (.error (.nul assignment.name), world)
          else loadLines lines .empty (assignment :: earlier) (assign world assignment)

/-- Load the file that a path leads to. -/
def load (path : Path) (world : World) : Except LoadError Unit × World :=
  match world.read path with
  | .error error => (.error (.io error), world)
  | .ok content => loadLines (fileLines (withoutMark content)) .empty [] world

end SchemaBuild.Dotenv
