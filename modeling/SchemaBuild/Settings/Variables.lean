import SchemaBuild.Environment
import SchemaBuild.Settings.Inline

/-!
# Settings in the environment

An environment variable whose name begins with `STEMGEN_`, in any letter case, is a setting. The rest
of its name leads to it: two underscores, or a dot, stand between the name of a table and a name in it.
Later variables are merged over earlier ones.
-/

namespace SchemaBuild.Variables

/-- What the names of these variables begin with, in lower case. -/
def mark : List Char := "stemgen_".toList

/-- The text with two underscores in a row replaced by a dot. -/
def dotted : List Char → List Char
  | '_' :: '_' :: rest => '.' :: dotted rest
  | c :: rest => c :: dotted rest
  | [] => []

/-- The names on the way to the setting that a variable of the given name is. There is none if the
name does not begin with the mark, or if one of the names would be empty. -/
def path? (variableName : Bytes) : Option (List String) :=
  let chars := Text.trim (Utf8.decodeLossy variableName)
  if (chars.take mark.length).map Char.toLower = mark then
    let names := Text.split '.' (Text.trim (dotted (chars.drop mark.length)))
    if names.any (·.isEmpty) then none
    else some (names.map fun name => String.ofList (name.map Char.toLower))
  else none

/-- The settings that a variable is, if it is one. -/
def entries? (setting : Bytes × Bytes) : Option Setting.Entries :=
  match path? setting.1 with
  | some (name :: path) =>
    some [(name, .nested .environment (Inline.read setting.2.toStringLossy) path)]
  | _ => none

/-- The layer of settings that the environment is. -/
def layer (environment : Environment) : Setting.Entries :=
  (environment.entries.filterMap entries?).foldl Setting.mergeEntries []

end SchemaBuild.Variables
