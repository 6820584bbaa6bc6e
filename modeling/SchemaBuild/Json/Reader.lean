import SchemaBuild.Decimal.Shortest
import SchemaBuild.Text.Quoted

/-!
# Reading JSON of a known shape

A reader takes a value of a known shape off the front of a text, going from left to right and
stopping at the first thing that is wrong. So a field of a wrong type is reported even if the text
breaks off further on, and a text that is broken before the field is reported as broken.

Two things can be wrong. The text is **malformed** if it is no JSON there. It is a **mismatch** if it is
JSON of another shape; then a message says what was found and what was expected. Records may be
written as objects, with their fields in any order and unknown fields passed over, or as arrays, with
the fields in their order.
-/

namespace SchemaBuild.Json

/-- What is wrong with a text. -/
inductive ReadError where
  | malformed
  | mismatch (message : String)
  deriving Repr, DecidableEq

/-- Takes a value off the front of a text and gives it with the rest. -/
abbrev Reader (α : Type) := List Char → Except ReadError (α × List Char)

/-- Is this one of the four blanks of JSON? -/
def isBlank (c : Char) : Bool := c = ' ' || c = '\n' || c = '\t' || c = '\r'

/-- The text from its first character that is not blank. -/
def skipBlanks (text : List Char) : List Char := text.dropWhile isBlank

/-- The text behind a word at its front. -/
def afterWord (word : String) : Reader Unit := fun text =>
  if word.toList.isPrefixOf text then .ok ((), text.drop word.length) else .error .malformed

/-! ### Strings -/

/-- The value of a hexadecimal digit. -/
def hexValue? (c : Char) : Option Nat :=
  if '0' ≤ c ∧ c ≤ '9' then some (c.toNat - 48)
  else if 'a' ≤ c ∧ c ≤ 'f' then some (c.toNat - 87)
  else if 'A' ≤ c ∧ c ≤ 'F' then some (c.toNat - 55)
  else none

/-- The number that four hexadecimal digits write. -/
def hexWord? (a b c d : Char) : Option Nat :=
  match hexValue? a, hexValue? b, hexValue? c, hexValue? d with
  | some a, some b, some c, some d => some (((a * 16 + b) * 16 + c) * 16 + d)
  | _, _, _, _ => none

/-- The character that a backslash and one more character stand for. -/
def simpleEscape? : Char → Option Char
  | '"' => some '"'
  | '\\' => some '\\'
  | '/' => some '/'
  | 'b' => some '\x08'
  | 'f' => some '\x0c'
  | 'n' => some '\n'
  | 'r' => some '\r'
  | 't' => some '\t'
  | _ => none

/-- Is this half of a surrogate pair? -/
def isSurrogate (n : Nat) : Bool := 0xD800 ≤ n && n ≤ 0xDFFF

/-- The rest of a string up to its closing quote, the characters so far standing in reverse order in
`done`. A surrogate has to be the first of a pair. -/
def readStringFrom (done : List Char) : Reader String
  | [] => .error .malformed
  | '"' :: rest => .ok (String.ofList done.reverse, rest)
  | '\\' :: 'u' :: a :: b :: c :: d :: '\\' :: 'u' :: e :: f :: g :: h :: rest =>
    match hexWord? a b c d with
    | none => .error .malformed
    | some high =>
      if isSurrogate high then
        match hexWord? e f g h with
        | none => .error .malformed
        | some low =>
          if high < 0xDC00 && 0xDC00 ≤ low && low ≤ 0xDFFF then
            let char := Char.ofNat (0x10000 + (high - 0xD800) * 0x400 + (low - 0xDC00))
            readStringFrom (char :: done) rest
          else .error .malformed
      else readStringFrom (Char.ofNat high :: done) ('\\' :: 'u' :: e :: f :: g :: h :: rest)
  | '\\' :: 'u' :: a :: b :: c :: d :: rest =>
    match hexWord? a b c d with
    | none => .error .malformed
    | some n => if isSurrogate n then .error .malformed else readStringFrom (Char.ofNat n :: done) rest
  | '\\' :: c :: rest =>
    match simpleEscape? c with
    | none => .error .malformed
    | some char => readStringFrom (char :: done) rest
  | c :: rest => if c.toNat < 0x20 || c = '\\' then .error .malformed else readStringFrom (c :: done) rest

/-- Pass over the rest of a string. Halves of surrogate pairs are let through. -/
def skipString : Reader Unit
  | [] => .error .malformed
  | '"' :: rest => .ok ((), rest)
  | '\\' :: 'u' :: a :: b :: c :: d :: rest =>
    if (hexWord? a b c d).isSome then skipString rest else .error .malformed
  | '\\' :: c :: rest => if (simpleEscape? c).isSome then skipString rest else .error .malformed
  | c :: rest => if c.toNat < 0x20 || c = '\\' then .error .malformed else skipString rest

/-! ### Numbers -/

/-- A number of a document. -/
inductive Number where
  | natural (n : Nat)
  /-- A negative integer. -/
  | negative (n : Nat)
  | float (value : Binary64)
  deriving Repr, DecidableEq

/-- The value of a row of digits. -/
def digitsValue (digits : List Char) : Nat := digits.foldl (fun n c => n * 10 + (c.toNat - 48)) 0

/-- Take digits off the front of a text. -/
def takeDigits (text : List Char) : List Char × List Char := text.span Char.isDigit

/-- Take the digits of a whole part, which starts with zero only if it is zero. -/
def readWhole : Reader (List Char)
  | '0' :: c :: rest => if c.isDigit then .error .malformed else .ok (['0'], c :: rest)
  | text =>
    match takeDigits text with
    | ([], _) => .error .malformed
    | found => .ok found

/-- Take a fraction off the front of a text, if there is one: its digits. -/
def readFraction : Reader (Option (List Char))
  | '.' :: rest =>
    match takeDigits rest with
    | ([], _) => .error .malformed
    | (digits, rest) => .ok (some digits, rest)
  | text => .ok (none, text)

/-- Take an exponent off the front of a text, if there is one. -/
def readExponent : Reader (Option Int)
  | c :: rest =>
    if c = 'e' || c = 'E' then
      let (negative, rest) :=
        match rest with
        | '-' :: rest => (true, rest)
        | '+' :: rest => (false, rest)
        | rest => (false, rest)
      match takeDigits rest with
      | ([], _) => .error .malformed
      | (digits, rest) =>
        let n : Int := digitsValue digits
        .ok (some (if negative then -n else n), rest)
    else .ok (none, c :: rest)
  | [] => .ok (none, [])

/-- A number without its sign. A number beyond all floating-point numbers is none. -/
def readUnsigned (negative : Bool) : Reader Number := fun text => do
  let (whole, text) ← readWhole text
  let (fraction, text) ← readFraction text
  let (exponent, text) ← readExponent text
  let n := digitsValue whole
  if fraction.isNone && exponent.isNone && !negative && n < 0x10000000000000000 then return (.natural n, text)
  if fraction.isNone && exponent.isNone && negative && 0 < n && n ≤ 0x8000000000000000 then
    return (.negative n, text)
  let digits := whole ++ fraction.getD []
  let power := exponent.getD 0 - ((fraction.getD []).length : Int)
  match Binary64.ofDecimal negative (digitsValue digits) power with
  | .finite negative mantissa exponent => return (.float (.finite negative mantissa exponent), text)
  | _ => throw .malformed

/-- A number at the front of a text. -/
def readNumber : Reader Number
  | '-' :: rest => readUnsigned true rest
  | text => readUnsigned false text

/-- A number in a message. -/
def Number.describe : Number → String
  | natural n => s!"integer `{n}`"
  | negative n => s!"integer `-{n}`"
  | float value => s!"floating point `{value.toPointedText}`"

/-! ### What was found -/

/-- The value at the front of a text in words. -/
def describe (text : List Char) : Except ReadError String :=
  match text with
  | 'n' :: _ => do
    let _ ← afterWord "null" text
    return "null"
  | 't' :: _ => do
    let _ ← afterWord "true" text
    return "boolean `true`"
  | 'f' :: _ => do
    let _ ← afterWord "false" text
    return "boolean `false`"
  | '"' :: rest => do
    let (found, _) ← readStringFrom [] rest
    return "string " ++ Text.quote found
  | '[' :: _ => return "sequence"
  | '\x7b' :: _ => return "map"
  | c :: _ =>
    if c = '-' || c.isDigit then do
      let (number, _) ← readNumber text
      return number.describe
    else throw .malformed
  | [] => throw .malformed

/-- The failure of finding something else than what was expected. -/
def unexpected {α : Type} (expected : String) (text : List Char) : Except ReadError α := do
  let found ← describe text
  throw (.mismatch s!"invalid type: {found}, expected {expected}")

/-! ### Readers -/

/-- A string, called `expected` in messages. -/
def readString (expected : String) : Reader String := fun text =>
  match skipBlanks text with
  | '"' :: rest => readStringFrom [] rest
  | text => unexpected expected text

/-- A truth value. -/
def readBool : Reader Bool := fun text =>
  match skipBlanks text with
  | 't' :: rest => do
    let (_, rest) ← afterWord "rue" rest
    return (true, rest)
  | 'f' :: rest => do
    let (_, rest) ← afterWord "alse" rest
    return (false, rest)
  | text => unexpected "a boolean" text

/-- The value `null`. -/
def readNull : Reader Unit := fun text =>
  match skipBlanks text with
  | 'n' :: rest => afterWord "ull" rest
  | text => unexpected "unit" text

/-- A value or `null`. -/
def readOption {α : Type} (reader : Reader α) : Reader (Option α) := fun text =>
  match skipBlanks text with
  | 'n' :: rest => do
    let (_, rest) ← afterWord "ull" rest
    return (none, rest)
  | text => do
    let (value, rest) ← reader text
    return (some value, rest)

/-- Is there another item? A text of items goes on behind a comma, or right away before the first
item; `close` ends it and is left in place. -/
def nextItem (close : Char) (first : Bool) (text : List Char) : Except ReadError (Option (List Char)) :=
  match skipBlanks text with
  | [] => .error .malformed
  | c :: rest =>
    if c = close then .ok none
    else if first then .ok (some (c :: rest))
    else if c = ',' then
      match skipBlanks rest with
      | [] => .error .malformed
      | c :: rest => if c = close then .error .malformed else .ok (some (c :: rest))
    else .error .malformed

/-- The rest of a text behind `close`. -/
def afterClose (close : Char) : Reader Unit := fun text =>
  match skipBlanks text with
  | c :: rest => if c = close then .ok ((), rest) else .error .malformed
  | [] => .error .malformed

/-- Items up to the end of an array; every item takes a character at least, so `fuel` may be the
length of the text. -/
def readItems {α : Type} (reader : Reader α) : (fuel : Nat) → (done : List α) → Reader (List α)
  | 0, _, _ => .error .malformed
  | fuel + 1, done, text => do
    match ← nextItem ']' done.isEmpty text with
    | none =>
      let (_, rest) ← afterClose ']' text
      return (done.reverse, rest)
    | some text =>
      let (item, rest) ← reader text
      readItems reader fuel (item :: done) rest

/-- An array of items. -/
def readList {α : Type} (reader : Reader α) : Reader (List α) := fun text =>
  match skipBlanks text with
  | '[' :: rest => readItems reader (rest.length + 1) [] rest
  | text => unexpected "a sequence" text

/-! ### Passing over values -/

/-- Pass over a value; `open` are the closing brackets that are still to come, the innermost first,
and a value is to come. Every step takes a character, so `fuel` may be the length of the text. -/
def skipValues : (fuel : Nat) → (closing : List Char) → Reader Unit
  | 0, _, _ => .error .malformed
  | fuel + 1, closing, text =>
    match skipBlanks text with
    | '"' :: rest => do
      let (_, rest) ← skipString rest
      afterValue fuel closing rest
    | '[' :: rest =>
      match skipBlanks rest with
      | ']' :: rest => afterValue fuel closing rest
      | rest => skipValues fuel (']' :: closing) rest
    | '\x7b' :: rest =>
      match skipBlanks rest with
      | '\x7d' :: rest => afterValue fuel closing rest
      | rest => skipKey fuel ('\x7d' :: closing) rest
    | text@('n' :: _) => do
      let (_, rest) ← afterWord "null" text
      afterValue fuel closing rest
    | text@('t' :: _) => do
      let (_, rest) ← afterWord "true" text
      afterValue fuel closing rest
    | text@('f' :: _) => do
      let (_, rest) ← afterWord "false" text
      afterValue fuel closing rest
    | text => do
      let (_, rest) ← skipNumber text
      afterValue fuel closing rest
where
  /-- Pass over a number, however great. -/
  skipNumber : Reader Unit := fun text => do
    let text :=
      match text with
      | '-' :: rest => rest
      | text => text
    let (_, text) ← readWhole text
    let (_, text) ← readFraction text
    let (_, text) ← readExponent text
    return ((), text)
  /-- Go on behind a value: with a further one, or by closing a bracket. -/
  afterValue : (fuel : Nat) → (closing : List Char) → Reader Unit
    | 0, _, _ => .error .malformed
    | _ + 1, [], text => .ok ((), text)
    | fuel + 1, close :: closing, text =>
      match skipBlanks text with
      | ',' :: rest =>
        if close = ']' then skipValues fuel (close :: closing) rest
        else skipKey fuel (close :: closing) (skipBlanks rest)
      | c :: rest => if c = close then afterValue fuel closing rest else .error .malformed
      | [] => .error .malformed
  /-- Pass over a field from its name on. -/
  skipKey : (fuel : Nat) → (closing : List Char) → Reader Unit
    | 0, _, _ => .error .malformed
    | fuel + 1, closing, text =>
      match text with
      | '"' :: rest => do
        let (_, rest) ← skipString rest
        let (_, rest) ← afterClose ':' rest
        skipValues fuel closing rest
      | _ => .error .malformed

/-- Pass over a value. -/
def skipValue : Reader Unit := fun text => skipValues (3 * text.length + 3) [] text

/-! ### Records -/

/-- A field of a record that is being read into a `σ`. -/
structure Field (σ : Type) where
  name : String
  /-- Has the field been read? -/
  isSet : σ → Bool
  /-- Read the field's value. -/
  read : σ → Reader σ
  /-- May the field be missing? -/
  optional : Bool

/-- The field that is kept as an optional part of the record. -/
def field {σ α : Type} (name : String) (optional : Bool) (part : σ → Option α)
    (put : σ → α → σ) (reader : Reader α) : Field σ where
  name
  optional
  isSet record := (part record).isSome
  read record text := do
    let (value, rest) ← reader text
    return (put record value, rest)

/-- The fields of an object, in any order. -/
def readFields {σ : Type} (fields : List (Field σ)) :
    (fuel : Nat) → (first : Bool) → σ → Reader σ
  | 0, _, _, _ => .error .malformed
  | fuel + 1, first, record, text => do
    match ← nextItem '\x7d' first text with
    | none =>
      match fields.find? fun field => !field.optional && !field.isSet record with
      | some field => throw (.mismatch s!"missing field `{field.name}`")
      | none =>
        let (_, rest) ← afterClose '\x7d' text
        return (record, rest)
    | some ('"' :: text) =>
      let (name, text) ← readStringFrom [] text
      match fields.find? (·.name = name) with
      | none =>
        let (_, text) ← afterClose ':' text
        let (_, text) ← skipValue text
        readFields fields fuel false record text
      | some field =>
        if field.isSet record then throw (.mismatch s!"duplicate field `{name}`")
        let (_, text) ← afterClose ':' text
        let (record, text) ← field.read record text
        readFields fields fuel false record text
    | some _ => throw .malformed

/-- The fields of an array, in their order; `index` of `count` have been read. -/
def readPositions {σ : Type} (expected : String) (count : Nat) :
    List (Field σ) → (index : Nat) → σ → Reader σ
  | [], _, record, text => do
    let (_, rest) ← afterClose ']' text
    return (record, rest)
  | field :: fields, index, record, text => do
    match ← nextItem ']' (index == 0) text with
    | some text =>
      let (record, text) ← field.read record text
      readPositions expected count fields (index + 1) record text
    | none =>
      if field.optional then
        let (_, rest) ← afterClose ']' text
        return (record, rest)
      else throw (.mismatch s!"invalid length {index}, expected struct {expected} with {count} elements")

/-- A record, called `expected` in messages. -/
def readRecord {σ : Type} (expected : String) (fields : List (Field σ)) (empty : σ) : Reader σ :=
  fun text =>
    match skipBlanks text with
    | '[' :: rest => readPositions expected fields.length fields 0 empty rest
    | '\x7b' :: rest => readFields fields (rest.length + 1) true empty rest
    | text => unexpected ("struct " ++ expected) text

/-- One of several words, written as a string or as the only name of an object with the value
`null`. -/
def readWord {α : Type} (words : List (String × α)) : Reader α := fun text =>
  match skipBlanks text with
  | '"' :: rest => named rest
  | '\x7b' :: rest => do
    let (value, rest) ←
      match skipBlanks rest with
      | '"' :: rest => named rest
      | rest => unexpected "variant identifier" rest
    let (_, rest) ← afterClose ':' rest
    let (_, rest) ← readNull rest
    let (_, rest) ← afterClose '\x7d' rest
    return (value, rest)
  | _ => .error .malformed
where
  /-- The value that a name stands for. -/
  named : Reader α := fun text => do
    let (name, rest) ← readStringFrom [] text
    match words.lookup name with
    | some value => return (value, rest)
    | none =>
      let known := " or ".intercalate (words.map fun word => s!"`{word.1}`")
      throw (.mismatch s!"unknown variant `{name}`, expected {known}")

/-- A whole document: a value and nothing but blanks behind it. -/
def readDocument {α : Type} (reader : Reader α) (text : String) : Except ReadError α := do
  let (value, rest) ← reader text.toList
  if (skipBlanks rest).isEmpty then return value else throw .malformed

end SchemaBuild.Json
