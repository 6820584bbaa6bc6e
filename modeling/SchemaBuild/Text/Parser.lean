/-!
# Parsers of text

A **parser** takes something off the front of a text and gives it with the rest. It gives nothing if
the text does not begin with such a thing; then nothing is taken.
-/

namespace SchemaBuild.Text

/-- Takes something off the front of a text and gives it with the rest; `none` if the text does not
begin with such a thing. -/
abbrev Parser (α : Type) := List Char → Option (α × List Char)

/-- The text behind a word at its front. -/
def after? (word : String) (text : List Char) : Option (List Char) :=
  if word.toList.isPrefixOf text then some (text.drop word.length) else none

/-- The text behind a character at its front. -/
def afterChar? (c : Char) : List Char → Option (List Char)
  | first :: rest => if first = c then some rest else none
  | [] => none

/-- The stretches between the occurrences of `separator`, in order. There is always at least one, and
they may be empty. -/
def split (separator : Char) : List Char → List (List Char)
  | [] => [[]]
  | c :: rest =>
    if c = separator then [] :: split separator rest
    else
      match split separator rest with
      | [] => [[c]]
      | piece :: pieces => (c :: piece) :: pieces

end SchemaBuild.Text
