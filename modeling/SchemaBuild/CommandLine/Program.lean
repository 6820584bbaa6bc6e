import SchemaBuild.CommandLine.Commands
import SchemaBuild.CommandLine.Parse

/-!
# The program

A run of the program as a whole: from its arguments to its exit status and what it prints. A refused
command line ends with the status that belongs to the refusal, a command that fails with 1 and its
chain of causes on one line.
-/

namespace SchemaBuild

/-- What a run of the program comes to. -/
structure ProgramResult where
  exitCode : Nat
  /-- What is printed as the result. -/
  output : String
  /-- The line about a failure, with its line end. -/
  errorLine : Option String
  deriving Repr, DecidableEq

namespace Program

/-- The name and version of the program. -/
def versionLine : String := "stemgen 0.1.0\n"

/-- What a refused command line prints. -/
def refusalOutput : CommandLine.Refusal → String
  | .version => versionLine
  | _ => ""

/-- Run the program. -/
def run (behaviour : Behaviour) (arguments : List Bytes) (world : World) : ProgramResult × World :=
  match CommandLine.parse arguments with
  | .error refusal => (⟨refusal.exitCode, refusalOutput refusal, none⟩, world)
  | .ok line =>
    match line.run behaviour world with
    | (.ok output, world) => (⟨0, output, none⟩, world)
    | (.error cause, world) => (⟨1, "", some s!"stemgen error: {cause.line}\n"⟩, world)

end Program

end SchemaBuild
