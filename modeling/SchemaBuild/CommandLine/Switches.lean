import SchemaBuild.Bytes
import SchemaBuild.Text.Utf8

/-!
# The switches of a command line

Which options there are, how they are written before the command and behind each command, and what
values they take.
-/

namespace SchemaBuild.CommandLine

/-- Where on the command line options stand. -/
inductive Scope where
  /-- Before the command. -/
  | top
  | generate
  | suppliers
  deriving Repr, DecidableEq

/-- An option without a value. -/
inductive Flag where
  | quiet
  | verbose
  deriving Repr, DecidableEq

/-- An option with a value. -/
inductive Parameter where
  | project
  | config
  | package
  | output
  | plugin
  | resources
  | classpath
  | classpathFile
  deriving Repr, DecidableEq

/-- What an option asks for. -/
inductive Switch where
  | flag (flag : Flag)
  | parameter (parameter : Parameter)
  | help
  | version
  deriving Repr, DecidableEq

/-- Why a command line is not carried out. -/
inductive Refusal where
  /-- There is no such option, or no place for such an argument. -/
  | unknownArgument
  /-- There is no such command. -/
  | unknownCommand
  /-- A value is missing, or empty where it may not be. -/
  | invalidValue
  /-- A value is not text. -/
  | notText
  /-- An option is given twice, or beside one that excludes it. -/
  | conflict
  /-- There are options and no command. -/
  | missingCommand
  /-- There is nothing at all. -/
  | noArguments
  /-- A value is given to an option that takes none. -/
  | surplusValue
  /-- The help text is asked for. -/
  | help
  /-- The version is asked for. -/
  | version
  deriving Repr, DecidableEq

/-- The exit status for a refused command line: asking for help or the version is no mistake. -/
def Refusal.exitCode : Refusal → Nat
  | help => 0
  | version => 0
  | _ => 2

/-- The long names that options have everywhere. -/
def commonNames : List (String × Switch) :=
  [("quiet", .flag .quiet), ("verbose", .flag .verbose), ("project", .parameter .project),
    ("config", .parameter .config), ("help", .help)]

/-- The long names of the options about sources. -/
def sourceNames : List (String × Switch) :=
  [("resources-directory", .parameter .resources), ("classpath", .parameter .classpath),
    ("classpath-file", .parameter .classpathFile)]

/-- The long names of the options in a scope. -/
def Scope.longNames : Scope → List (String × Switch)
  | top => commonNames ++ [("version", .version)]
  | suppliers => commonNames ++ sourceNames
  | generate =>
    commonNames ++ sourceNames ++ [("package", .parameter .package),
      ("output-directory", .parameter .output), ("plugin", .parameter .plugin)]

/-- The short names of the options in a scope. -/
def Scope.shortNames (scope : Scope) : List (Char × Switch) :=
  [('q', .flag .quiet), ('v', .flag .verbose), ('p', .parameter .project),
    ('c', .parameter .config), ('h', .help)] ++ if scope = top then [('V', .version)] else []

namespace Parameter

/-- May the option be given several times? -/
def isRepeatable : Parameter → Bool
  | package => true
  | plugin => true
  | _ => false

/-- Does the option take any argument that follows it for its value, also one that looks like an
option? -/
def takesAnything : Parameter → Bool
  | plugin => true
  | _ => false

/-- What is wrong with a value of the option. Words have to be text, and paths may not be empty. -/
def valueError? (parameter : Parameter) (value : Bytes) : Option Refusal :=
  match parameter with
  | package => if value.toString?.isSome then none else some .notText
  | plugin => if value.toString?.isSome then none else some .notText
  | classpath => none
  | _ => if value.isEmpty then some .invalidValue else none

end Parameter

end SchemaBuild.CommandLine
