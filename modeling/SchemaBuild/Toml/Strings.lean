import SchemaBuild.Json.Reader
import SchemaBuild.Toml.Value

/-!
# Texts of a configuration document

Texts stand between double quotes, with escapes, or between single quotes, without. Three quotes at
once begin and end a text over several lines; a line end right behind the first three does not count,
and of the quotes at the end up to two belong to the text.
-/

namespace SchemaBuild.Toml

open Text (Parser)

/-- The number that hexadecimal digits write, of which there are `count` at the front of a text. -/
def hexNumber (count : Nat) : Parser Nat := fun text =>
  let digits := text.take count
  if digits.length = count then
    (digits.foldlM (fun n c => (Json.hexValue? c).map (16 * n + ·)) 0).map (·, text.drop count)
  else none

/-- The character with a number, if there is one. -/
def charOf? (n : Nat) : Option Char := if n.isValidChar then some (Char.ofNat n) else none

/-- The character that an escape stands for, behind its backslash. -/
def escape : Parser Char
  | 'b' :: rest => some ('\x08', rest)
  | 't' :: rest => some ('\t', rest)
  | 'n' :: rest => some ('\n', rest)
  | 'f' :: rest => some ('\x0c', rest)
  | 'r' :: rest => some ('\r', rest)
  | '"' :: rest => some ('"', rest)
  | '\\' :: rest => some ('\\', rest)
  | 'u' :: rest => (hexNumber 4 rest).bind fun (n, rest) => (charOf? n).map (·, rest)
  | 'U' :: rest => (hexNumber 8 rest).bind fun (n, rest) => (charOf? n).map (·, rest)
  | _ => none

/-- The rest of a text between double quotes. -/
def basicFrom : (fuel : Nat) → (done : List Char) → Parser String
  | 0, _, _ => none
  | _, _, [] => none
  | _, done, '"' :: rest => some (String.ofList done.reverse, rest)
  | fuel + 1, done, '\\' :: rest =>
    match escape rest with
    | some (c, rest) => basicFrom fuel (c :: done) rest
    | none => none
  | fuel + 1, done, c :: rest => if isPlain c then basicFrom fuel (c :: done) rest else none

/-- The rest of a text between single quotes. -/
def literalFrom (done : List Char) : Parser String
  | [] => none
  | '\'' :: rest => some (String.ofList done.reverse, rest)
  | c :: rest => if isPlain c then literalFrom (c :: done) rest else none

/-- The text behind a backslash at the end of a line: blanks and line ends are left out, of which there
is a line end at least. -/
def afterContinuation? (text : List Char) : Option (List Char) :=
  (afterLineEnd? (skipBlanks text)).bind fun rest => some (skipEmpty rest.length rest)
where
  /-- The text behind blanks and line ends. -/
  skipEmpty : (fuel : Nat) → List Char → List Char
    | 0, text => text
    | fuel + 1, text =>
      let text := skipBlanks text
      match afterLineEnd? text with
      | some rest => skipEmpty fuel rest
      | none => text

/-- The end of a text over several lines, at `quote`s: three end it, and up to two before them belong
to it. `none` if there are fewer than three. -/
def closing? (quote : Char) (text : List Char) : Option (Nat × List Char) :=
  let quotes := (text.takeWhile (· = quote)).length
  if quotes < 3 then none
  else
    let kept := min (quotes - 3) 2
    some (kept, text.drop (kept + 3))

/-- The rest of a text over several lines between double quotes. -/
def longBasicFrom : (fuel : Nat) → (done : List Char) → Parser String
  | 0, _, _ => none
  | _, _, [] => none
  | fuel + 1, done, '"' :: rest =>
    match closing? '"' ('"' :: rest) with
    | some (kept, rest) => some (String.ofList (done.reverse ++ List.replicate kept '"'), rest)
    | none => longBasicFrom fuel ('"' :: done) rest
  | fuel + 1, done, '\\' :: rest =>
    match afterContinuation? rest with
    | some rest => longBasicFrom fuel done rest
    | none =>
      match escape rest with
      | some (c, rest) => longBasicFrom fuel (c :: done) rest
      | none => none
  | fuel + 1, done, c :: rest =>
    match afterLineEnd? (c :: rest) with
    | some rest => longBasicFrom fuel ('\n' :: done) rest
    | none => if isPlain c then longBasicFrom fuel (c :: done) rest else none

/-- The rest of a text over several lines between single quotes. -/
def longLiteralFrom : (fuel : Nat) → (done : List Char) → Parser String
  | 0, _, _ => none
  | _, _, [] => none
  | fuel + 1, done, '\'' :: rest =>
    match closing? '\'' ('\'' :: rest) with
    | some (kept, rest) => some (String.ofList (done.reverse ++ List.replicate kept '\''), rest)
    | none => longLiteralFrom fuel ('\'' :: done) rest
  | fuel + 1, done, c :: rest =>
    match afterLineEnd? (c :: rest) with
    | some rest => longLiteralFrom fuel ('\n' :: done) rest
    | none => if isPlain c then longLiteralFrom fuel (c :: done) rest else none

/-- A text on one line, as keys are. -/
def shortString : Parser String
  | '"' :: rest => basicFrom (rest.length + 1) [] rest
  | '\'' :: rest => literalFrom [] rest
  | _ => none

/-- A text. -/
def string : Parser String
  | '"' :: '"' :: '"' :: rest =>
    let rest := (afterLineEnd? rest).getD rest
    longBasicFrom (rest.length + 1) [] rest
  | '\'' :: '\'' :: '\'' :: rest =>
    let rest := (afterLineEnd? rest).getD rest
    longLiteralFrom (rest.length + 1) [] rest
  | text => shortString text

end SchemaBuild.Toml
