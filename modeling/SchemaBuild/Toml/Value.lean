import SchemaBuild.Decimal.Shortest
import SchemaBuild.Text.Parser

/-!
# Values of a configuration document

What a configuration document says: texts, numbers, truth values, points in time, lists and tables.
-/

namespace SchemaBuild.Toml

/-- A value of a document. -/
inductive Value where
  | text (value : String)
  | integer (value : Int)
  | float (value : Binary64)
  | boolean (value : Bool)
  /-- A date, a time, or both, as it is written. -/
  | time (written : String)
  | list (items : List Value)
  | table (fields : List (String × Value))
  deriving Repr, Inhabited

/-- Is this a blank within a line? -/
def isBlank (c : Char) : Bool := c = ' ' || c = '\t'

/-- The text from its first character that is no blank. -/
def skipBlanks (text : List Char) : List Char := text.dropWhile isBlank

/-- May the character stand in a comment or in a text without escapes, apart from quotes? All
characters may but control characters other than the tab. -/
def isPlain (c : Char) : Bool := c = '\t' || (c.toNat ≥ 0x20 && c.toNat ≠ 0x7F)

/-- The text behind a line end. -/
def afterLineEnd? : List Char → Option (List Char)
  | '\n' :: rest => some rest
  | '\r' :: '\n' :: rest => some rest
  | _ => none

/-- The text behind a comment, if there is one; the line end stays. `none` if a character stands in
the comment that may not. -/
def skipComment? : List Char → Option (List Char)
  | '#' :: rest =>
    match rest.dropWhile isPlain with
    | [] => some []
    | '\n' :: rest => some ('\n' :: rest)
    | '\r' :: '\n' :: rest => some ('\r' :: '\n' :: rest)
    | _ => none
  | text => some text

/-- The text behind blanks, comments and line ends, which may all stand between the items of a list;
each takes a character, so `fuel` may be the length of the text. -/
def skipLines? : (fuel : Nat) → List Char → Option (List Char)
  | 0, text => some text
  | fuel + 1, text =>
    match skipBlanks text with
    | '#' :: rest => (skipComment? ('#' :: rest)).bind (skipLines? fuel)
    | text =>
      match afterLineEnd? text with
      | some rest => skipLines? fuel rest
      | none => some text

end SchemaBuild.Toml
