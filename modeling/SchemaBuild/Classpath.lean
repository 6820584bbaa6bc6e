import SchemaBuild.Cause
import SchemaBuild.Text.Blank
import SchemaBuild.Text.Quoted
import SchemaBuild.World

/-!
# Classpaths

Where the entries of a project's classpath come from: a fixed list, a listing file, an environment
variable, or several of these one after the other. A classpath that is not there at all is empty; one
that is there and cannot be read is an error.

`Classpath.entries` enumerates a classpath in its order, and `Classpath.leaves` are its sources from
left to right.
-/

namespace SchemaBuild

/-- A source of classpath entries. -/
inductive Classpath where
  | fixed (entries : List Path)
  /-- A listing file: one entry per line. -/
  | listing (file : Path)
  /-- An environment variable that holds a path list. -/
  | environment (name : Bytes)
  /-- A source of another kind, given by what it yields. -/
  | custom (yield : World → Except Cause (List Path))
  /-- Several sources, one after the other. -/
  | chain (sources : List Classpath)

namespace Classpath

/-! ### Listing files -/

/-- The lines of a text, each read up to `\n` or `\r\n`; `current` is the line so far, in reverse. -/
def linesFrom (current : List Char) : List Char → List (List Char)
  | [] => if current.isEmpty then [] else [current.reverse]
  | '\n' :: rest =>
    let line :=
      match current with
      | '\r' :: shorter => shorter
      | line => line
    line.reverse :: linesFrom [] rest
  | c :: rest => linesFrom (c :: current) rest

/-- The lines of a text. A line end at the end of the text begins no further line. -/
def lines (text : List Char) : List (List Char) := linesFrom [] text

/-- The entry on a line, without the blanks around it. Blank lines and lines that start with `#`
have none. -/
def entryOn? (line : List Char) : Option (List Char) :=
  match Text.trim line with
  | [] => none
  | '#' :: _ => none
  | entry => some entry

/-- The entries of a listing file with the given text; relative ones are meant from `base`. -/
def listed (base : Path) (text : String) : List Path :=
  (lines text.toList).filterMap fun line =>
    (entryOn? line).map fun entry => base.join ⟨Utf8.encode entry⟩

/-- The directory that the entries of a listing file are meant from. -/
def listingBase (file : Path) : Path := file.parent?.getD ⟨[]⟩

/-- The entries of the listing file `file`. -/
def listingEntries (world : World) (file : Path) : Except Cause (List Path) :=
  match world.readText file with
  | .ok text => .ok (listed (listingBase file) text)
  | .error error =>
    .error ((Cause.ofIo error).inContext s!"failed to read classpath file {file.display}")

/-! ### Variables -/

/-- The entries of a path list in the environment variable `name`. -/
def variableEntries (world : World) (name : Bytes) : Except Cause (List Path) :=
  match world.environment.get? name with
  | none => .ok []
  | some value =>
    match value.toString? with
    | some _ => .ok (Path.splitList value)
    | none =>
      let found := Cause.ofMessage s!"environment variable was not valid unicode: {Text.quoteBytes value}"
      .error (found.inContext s!"classpath variable {name.toStringLossy} is not valid unicode")

/-! ### Enumerating -/

mutual

/-- The entries of a classpath, in order. -/
def entries (world : World) : Classpath → Except Cause (List Path)
  | fixed entries => .ok entries
  | listing file => listingEntries world file
  | environment name => variableEntries world name
  | custom yield => yield world
  | chain sources => chainEntries world sources

/-- The entries of several classpaths, one after the other, up to the first that fails. -/
def chainEntries (world : World) : List Classpath → Except Cause (List Path)
  | [] => .ok []
  | source :: sources =>
    match source.entries world with
    | .error cause => .error cause
    | .ok found =>
      match chainEntries world sources with
      | .error cause => .error cause
      | .ok more => .ok (found ++ more)

end

mutual

/-- The sources of a classpath that are no chains, from left to right. -/
def leaves : Classpath → List Classpath
  | chain sources => chainLeaves sources
  | source => [source]

/-- The sources of several classpaths that are no chains, from left to right. -/
def chainLeaves : List Classpath → List Classpath
  | [] => []
  | source :: sources => source.leaves ++ chainLeaves sources

end

/-- How many classpaths a chain has; any other source is one. -/
def length : Classpath → Nat
  | chain sources => sources.length
  | _ => 1

end Classpath

end SchemaBuild
