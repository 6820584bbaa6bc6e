import SchemaBuild.Process

/-!
# Hosts

What a run needs from the system it runs on beside files, variables and programs: temporary files,
word of the end of a process, and the home directory that is on record. The system may refuse the first
two at any time, and for reasons that the files do not show (a full disk, a limit, a signal that was
switched off). A **host** is therefore any function from what has happened so far to what is refused, and
what is said of a run holds on every host that is not named.

`Host.temporaryFile` is the usual host's answer: a temporary file can be made if there is a directory for
it.
-/

namespace SchemaBuild

/-- The directory for temporary files: the one that the environment names, or else the usual one. An
empty name stands for the working directory. -/
def Environment.temporaryDirectory (environment : Environment) : Path :=
  match environment.get? (.ofString "TMPDIR") with
  | none => .ofString "/tmp"
  | some [] => .ofString "."
  | some name => ⟨name⟩

/-- A temporary file needs a directory, and no more. -/
def Host.temporaryFile (environment : Environment) (here : Place) (files : FileSystem) :
    Except IoError Unit :=
  match files.find here environment.temporaryDirectory with
  | .error error => .error error
  | .ok node => if node.isDirectory then .ok () else .error .notDirectory

/-- What the system does for a run beside files, variables and programs. -/
structure Host where
  /-- Why content cannot be put into a temporary file that is then read from its start. It may depend on
  the surroundings, on the processes that were started before, and on the content. -/
  stage : Environment → Place → FileSystem → List Invocation → Bytes → Except IoError Unit :=
    fun environment here files _ _ => Host.temporaryFile environment here files
  /-- Why the end of a process cannot be waited for, the last one of those that were started. -/
  await : List Invocation → Except IoError Unit := fun _ => .ok ()
  /-- The home directory that is on record for the user. -/
  home? : Option Path := none

end SchemaBuild
