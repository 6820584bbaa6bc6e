import SchemaBuild.Settings.Setting
import SchemaBuild.Text.Blank
import SchemaBuild.Toml.Strings

/-!
# Settings in one line

An environment variable holds a setting in a short form: `true` and `false`, numbers, texts with or
without quotes, `[a,b]` for a list and `{name=value}` for a table. Blanks around values do not count,
and an item of a list with nothing in it is an empty text. What cannot be read in this way is a text as
it stands, so every value is some setting.
-/

namespace SchemaBuild.Inline

open Text (Parser after? afterChar?)

/-- Where these settings come from. -/
def source : SettingSource := .environment

/-- Is this one of the five blanks that may stand around a value? -/
def isBlank (c : Char) : Bool := c = ' ' || c = '\t' || c = '\n' || c = '\x0c' || c = '\r'

/-- The text from its first character that is no blank. -/
def skipBlanks (text : List Char) : List Char := text.dropWhile isBlank

/-- May the character not stand in a text without quotes? -/
def isSeparator (c : Char) : Bool :=
  c = ',' || c = '\x7b' || c = '\x7d' || c = '[' || c = ']'

/-- May the character stand in a name without quotes? -/
def isNameChar (c : Char) : Bool := c.isAlphanum || c = '_' || c = '-'

/-! ### Single values -/

/-- A sign at the front of a text: whether it is a minus. -/
def sign (text : List Char) : Bool × List Char :=
  match text with
  | '-' :: rest => (true, rest)
  | '+' :: rest => (false, rest)
  | text => (false, text)

/-- The number that decimal digits write, of which there is one at least. -/
def digits? (text : List Char) : Option Nat :=
  if text.isEmpty || !text.all Char.isDigit then none
  else some (text.foldl (fun n c => 10 * n + (c.toNat - 48)) 0)

/-- The power of ten that the end of a number writes: nothing at all, or an exponent. -/
def exponent? : List Char → Option Int
  | [] => some 0
  | c :: rest =>
    if c = 'e' || c = 'E' then
      let (negative, rest) := sign rest
      (digits? rest).map fun n => if negative then -(n : Int) else n
    else none

/-- The floating-point number that a text is, if there is a point in it. -/
def float? (text : List Char) : Option Binary64 :=
  let (negative, rest) := sign text
  let whole := rest.takeWhile Char.isDigit
  match rest.dropWhile Char.isDigit with
  | '.' :: rest =>
    let fraction := rest.takeWhile Char.isDigit
    match digits? (whole ++ fraction), exponent? (rest.dropWhile Char.isDigit) with
    | some n, some power => some (.ofDecimal negative n (power - (fraction.length : Int)))
    | _, _ => none
  | _ => none

/-- The integer without a sign that a text is. -/
def unsigned? (text : List Char) : Option Nat :=
  let text :=
    match text with
    | '+' :: rest => rest
    | text => text
  (digits? text).filter (· < 0x10000000000000000)

/-- The integer with a minus that a text is. -/
def negative? : List Char → Option Int
  | '-' :: rest => ((digits? rest).filter (· ≤ 0x8000000000000000)).map fun n => -(n : Int)
  | _ => none

/-- The setting that a text without quotes is. -/
def plain (text : List Char) : Setting :=
  match float? text with
  | some number => .float source number
  | none =>
    match unsigned? text with
    | some n => .unsigned source n
    | none =>
      match negative? text with
      | some n => .signed source n
      | none => .text source (String.ofList text)

/-- A text up to its closing quote, the characters so far standing in reverse order in `done`; each
takes a character at least, so `fuel` may be the length of the text. -/
def quotedFrom : (fuel : Nat) → (done : List Char) → Parser String
  | 0, _, _ => none
  | _, _, [] => none
  | _, done, '"' :: rest => some (String.ofList done.reverse, rest)
  | fuel + 1, done, '\\' :: rest => do
    let (c, rest) ← Toml.escape rest
    quotedFrom fuel (c :: done) rest
  | fuel + 1, done, c :: rest => if Toml.isPlain c then quotedFrom fuel (c :: done) rest else none

/-- A text in quotes, behind the first one. -/
def quoted : Parser String := fun text => quotedFrom (text.length + 1) [] text

/-! ### Lists and tables -/

/-- Items with commas behind them up to `close`, before which the comma may be missing. Each takes a
character at least, so `fuel` may be the length of the text. -/
def items {α : Type} (close : Char) (item : Parser α) : (fuel : Nat) → (done : List α) → Parser (List α)
  | 0, _, _ => none
  | fuel + 1, done, text =>
    match afterChar? close text with
    | some rest => some (done.reverse, rest)
    | none =>
      match item text with
      | none => none
      | some (found, rest) =>
        match afterChar? ',' rest with
        | some rest => items close item fuel (found :: done) rest
        | none => (afterChar? close rest).map fun rest => ((found :: done).reverse, rest)

/-- A name of a table. -/
def name : Parser String := fun text =>
  match text with
  | '"' :: rest => quoted rest
  | text =>
    let found := text.takeWhile isNameChar
    if found.isEmpty then none else some (String.ofList found, text.drop found.length)

/-- A name of a table with its value. -/
def entry (value : Parser Setting) : Parser (String × Setting) := fun text => do
  let (found, text) ← name (skipBlanks text)
  let text ← afterChar? '=' (skipBlanks text)
  let (setting, text) ← value text
  return ((found, setting), skipBlanks text)

/-- The table of entries, a later one replacing an earlier one of its name. -/
def tableOf (entries : List (String × Setting)) : Setting :=
  .table source (entries.foldl (fun done entry => Table.set done entry.1 entry.2) [])

/-- A value with blanks around it: a truth value, or what another parser takes. -/
def around (other : Parser Setting) : Parser Setting := fun text =>
  let text := skipBlanks text
  let found : Option (Setting × List Char) :=
    match after? "true" text, after? "false" text with
    | some rest, _ => some (.flag source true, rest)
    | _, some rest => some (.flag source false, rest)
    | none, none => other text
  found.map fun (setting, rest) => (setting, skipBlanks rest)

/-- A value that is no truth value, with fewer than `depth` levels of lists and tables. -/
def unnamed : (depth : Nat) → Parser Setting
  | depth + 1, '\x7b' :: rest =>
    (items '\x7d' (entry (around (unnamed depth))) (rest.length + 1) [] rest).map
      fun (entries, rest) => (tableOf entries, rest)
  | depth + 1, '[' :: rest =>
    (items ']' (around (unnamed depth)) (rest.length + 1) [] rest).map
      fun (items, rest) => (.list source items, rest)
  | _ + 1, '"' :: rest => (quoted rest).map fun (text, rest) => (.text source text, rest)
  | _ + 1, '\'' :: rest =>
    match rest with
    | c :: '\'' :: rest => some (.text source c.toString, rest)
    | _ => none
  | _ + 1, text =>
    let found := text.takeWhile (!isSeparator ·)
    some (plain (Text.trim found), text.drop found.length)
  | 0, _ => none

/-- The setting that the value of an environment variable is. -/
def read (text : String) : Setting :=
  let chars := text.toList
  match around (unnamed (chars.length + 1)) chars with
  | some (setting, []) => setting
  | _ => .text source text

end SchemaBuild.Inline
