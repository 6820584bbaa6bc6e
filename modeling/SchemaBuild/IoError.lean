import SchemaBuild.Bytes

/-!
# Failures of the operating system

Why an operation on files, streams or processes failed, and the text that says so.
-/

namespace SchemaBuild

/-- Why reading, writing, creating or starting something failed. -/
inductive IoError where
  /-- Nothing is there. -/
  | notFound
  /-- The program may not be run. -/
  | permissionDenied
  /-- Something is there already. -/
  | alreadyExists
  /-- A directory is needed, and something else is there. -/
  | notDirectory
  /-- A directory is there, and something with contents is needed. -/
  | isDirectory
  /-- A name or a whole path is too long. -/
  | nameTooLong
  /-- Too many symbolic links have to be followed. -/
  | tooManyLinks
  /-- The contents are not UTF-8. -/
  | notText
  /-- A path holds a NUL byte. -/
  | nulInPath
  /-- An argument or an environment value holds a NUL byte. -/
  | nulInArgument
  /-- A writer took less than it was given. -/
  | incompleteWrite
  /-- No directory on the way to a path can be created. -/
  | noAncestor
  /-- A path that has to be written as text is not UTF-8. -/
  | pathNotText
  /-- A reason given by somebody else. -/
  | other (reason : String)
  deriving Repr, DecidableEq

/-- The text of a failure. Those that the operating system reports carry its number. -/
def IoError.message : IoError → String
  | notFound => "No such file or directory (os error 2)"
  | permissionDenied => "Permission denied (os error 13)"
  | alreadyExists => "File exists (os error 17)"
  | notDirectory => "Not a directory (os error 20)"
  | isDirectory => "Is a directory (os error 21)"
  | nameTooLong => "File name too long (os error 36)"
  | tooManyLinks => "Too many levels of symbolic links (os error 40)"
  | notText => "stream did not contain valid UTF-8"
  | nulInPath => "file name contained an unexpected NUL byte"
  | nulInArgument => "nul byte found in provided data"
  | incompleteWrite => "failed to write whole buffer"
  | noAncestor => "failed to create whole tree"
  | pathNotText => "path contains invalid UTF-8 characters"
  | other reason => reason

end SchemaBuild
