/-!
# JSON documents

The values that are written as JSON and the two ways of writing them: on one line without blanks, and
over several lines with an indentation of two blanks for each level. Fields are written in the order
in which they are given.
-/

namespace SchemaBuild

/-- A value to be written as JSON. -/
inductive Json where
  | null
  | bool (value : Bool)
  | string (text : String)
  | array (items : List Json)
  | object (fields : List (String × Json))
  deriving Repr, Inhabited

namespace Json

/-- A digit of a number below 16, in lower case. -/
def hexDigit (n : Nat) : Char := if n < 10 then Char.ofNat (48 + n) else Char.ofNat (87 + n)

/-- A character as it stands in a string: quotes, backslashes and control characters are written
with a backslash. -/
def escapeChar (c : Char) : List Char :=
  if c = '"' then ['\\', '"']
  else if c = '\\' then ['\\', '\\']
  else if c.toNat ≥ 0x20 then [c]
  else if c.toNat = 0x08 then ['\\', 'b']
  else if c.toNat = 0x0C then ['\\', 'f']
  else if c = '\n' then ['\\', 'n']
  else if c = '\r' then ['\\', 'r']
  else if c = '\t' then ['\\', 't']
  else ['\\', 'u', '0', '0', hexDigit (c.toNat / 16), hexDigit (c.toNat % 16)]

/-- A string with its quotes. -/
def quoted (text : String) : List Char := '"' :: (text.toList.flatMap escapeChar ++ ['"'])

/-- The word for a truth value. -/
def boolWord (value : Bool) : List Char := if value then "true".toList else "false".toList

mutual

/-- The value on one line. -/
def compactChars : Json → List Char
  | .null => "null".toList
  | .bool value => boolWord value
  | .string text => quoted text
  | .array items => '[' :: (compactItems items ++ [']'])
  | .object fields => '\x7b' :: (compactFields fields ++ ['\x7d'])

/-- Items with commas between them. -/
def compactItems : List Json → List Char
  | [] => []
  | [item] => compactChars item
  | item :: items => compactChars item ++ ',' :: compactItems items

/-- Fields with commas between them. -/
def compactFields : List (String × Json) → List Char
  | [] => []
  | [(name, value)] => quoted name ++ ':' :: compactChars value
  | (name, value) :: fields =>
    quoted name ++ ':' :: (compactChars value ++ ',' :: compactFields fields)

end

/-- The beginning of a line that is indented by `level` levels. -/
def newLine (level : Nat) : List Char := '\n' :: List.replicate (2 * level) ' '

mutual

/-- The value over several lines, the lines inside indented by one level more than `level`. -/
def prettyChars (level : Nat) : Json → List Char
  | .null => "null".toList
  | .bool value => boolWord value
  | .string text => quoted text
  | .array [] => ['[', ']']
  | .array items => '[' :: (prettyItems (level + 1) items ++ newLine level ++ [']'])
  | .object [] => ['\x7b', '\x7d']
  | .object fields => '\x7b' :: (prettyFields (level + 1) fields ++ newLine level ++ ['\x7d'])

/-- Items on lines of their own. -/
def prettyItems (level : Nat) : List Json → List Char
  | [] => []
  | [item] => newLine level ++ prettyChars level item
  | item :: items => newLine level ++ prettyChars level item ++ ',' :: prettyItems level items

/-- Fields on lines of their own. -/
def prettyFields (level : Nat) : List (String × Json) → List Char
  | [] => []
  | [(name, value)] => newLine level ++ quoted name ++ [':', ' '] ++ prettyChars level value
  | (name, value) :: fields =>
    newLine level ++ quoted name ++ [':', ' '] ++ prettyChars level value
      ++ ',' :: prettyFields level fields

end

/-- The document on one line. -/
def compact (json : Json) : String := String.ofList json.compactChars

/-- The document over several lines. -/
def pretty (json : Json) : String := String.ofList (json.prettyChars 0)

end Json

end SchemaBuild
