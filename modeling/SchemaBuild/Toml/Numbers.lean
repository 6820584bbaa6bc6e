import SchemaBuild.Json.Reader
import SchemaBuild.Toml.Value

/-!
# Numbers and times of a configuration document

Integers of 64 bits, in four bases; floating-point numbers; dates and times. Underscores may stand
between digits.
-/

namespace SchemaBuild.Toml

open Text (Parser after? afterChar?)

/-- Digits of which `isDigit` says what they are, with single underscores between them, at the front
of a text: the digits alone. -/
def digitsFrom (isDigit : Char → Bool) (done : List Char) : Parser (List Char)
  | '_' :: c :: rest =>
    if !done.isEmpty && isDigit c then digitsFrom isDigit (c :: done) rest else none
  | c :: rest =>
    if isDigit c then digitsFrom isDigit (c :: done) rest
    else if c = '_' || done.isEmpty then none
    else some (done.reverse, c :: rest)
  | [] => if done.isEmpty then none else some (done.reverse, [])

/-- Decimal digits. -/
def decimalDigits : Parser (List Char) := digitsFrom Char.isDigit []

/-- Decimal digits that do not start with a zero, unless there is only that. -/
def wholeDigits : Parser (List Char) := fun text =>
  match decimalDigits text with
  | some ('0' :: _ :: _, _) => none
  | found => found

/-- Is the number one of the signed numbers of 64 bits? -/
def inRange (n : Int) : Bool := -0x8000000000000000 ≤ n && n < 0x8000000000000000

/-- The number in a base from its digits. -/
def ofDigits (base : Nat) (digits : List Char) : Nat :=
  digits.foldl (fun n c => base * n + (Json.hexValue? c).getD 0) 0

/-- Is this a digit of the base? -/
def isDigitOf (base : Nat) (c : Char) : Bool :=
  match Json.hexValue? c with
  | some value => value < base
  | none => false

/-- A sign at the front of a text: whether it is a minus. -/
def sign (text : List Char) : Bool × List Char :=
  match text with
  | '-' :: rest => (true, rest)
  | '+' :: rest => (false, rest)
  | text => (false, text)

/-- An integer in another base than ten, behind the letter that says which. -/
def basedInteger (base : Nat) : Parser Value := fun text =>
  match digitsFrom (isDigitOf base) [] text with
  | none => none
  | some (digits, rest) =>
    let n : Int := ofDigits base digits
    if inRange n then some (.integer n, rest) else none

/-- A fraction at the front of a text: its digits. -/
def fraction : Parser (List Char)
  | '.' :: rest => decimalDigits rest
  | _ => none

/-- An exponent at the front of a text. -/
def exponent : Parser Int
  | c :: rest =>
    if c = 'e' || c = 'E' then
      let (negative, rest) := sign rest
      match decimalDigits rest with
      | none => none
      | some (digits, rest) =>
        let n : Int := ofDigits 10 digits
        some (if negative then -n else n, rest)
    else none
  | [] => none

/-- A number without its sign. A fraction or an exponent makes it a floating-point number, which may
not be above all of them. -/
def unsignedNumber (negative : Bool) : Parser Value := fun text =>
  match wholeDigits text with
  | none => none
  | some (whole, rest) =>
    let withFraction : Option (Option (List Char) × List Char) :=
      match rest with
      | '.' :: _ => (fraction rest).map fun (digits, rest) => (some digits, rest)
      | _ => some (none, rest)
    match withFraction with
    | none => none
    | some (fractionDigits, rest) =>
      let withExponent : Option (Option Int × List Char) :=
        match rest with
        | c :: _ =>
          if c = 'e' || c = 'E' then (exponent rest).map fun (n, rest) => (some n, rest)
          else some (none, rest)
        | [] => some (none, [])
      match withExponent with
      | none => none
      | some (power, rest) =>
        if fractionDigits.isNone && power.isNone then
          let n : Int := ofDigits 10 whole
          let n := if negative then -n else n
          if inRange n then some (.integer n, rest) else none
        else
          let digits := fractionDigits.getD []
          let value := Binary64.ofDecimal negative (ofDigits 10 (whole ++ digits))
            (power.getD 0 - (digits.length : Int))
          if value = Binary64.infinite false then none else some (.float value, rest)

/-- A number. -/
def number : Parser Value := fun text =>
  match text with
  | '0' :: 'x' :: rest => basedInteger 16 rest
  | '0' :: 'o' :: rest => basedInteger 8 rest
  | '0' :: 'b' :: rest => basedInteger 2 rest
  | _ =>
    let (negative, rest) := sign text
    match rest with
    | 'i' :: _ => (after? "inf" rest).map fun rest => (.float (.infinite negative), rest)
    | 'n' :: _ => (after? "nan" rest).map fun rest => (.float .notANumber, rest)
    | _ => unsignedNumber negative rest

/-! ### Times -/

/-- Exactly `count` digits at the front of a text, as a number between two bounds. -/
def fixedNumber (count low high : Nat) : Parser Nat := fun text =>
  let digits := text.take count
  let n := ofDigits 10 digits
  if digits.length = count && digits.all Char.isDigit && low ≤ n && n ≤ high then
    some (n, text.drop count)
  else none

/-- Does the year have a 29th of February? -/
def isLeapYear (year : Nat) : Bool := year % 4 = 0 && (year % 100 ≠ 0 || year % 400 = 0)

/-- The number of days of a month. -/
def daysOf (year month : Nat) : Nat :=
  if month = 2 then if isLeapYear year then 29 else 28
  else if month = 4 || month = 6 || month = 9 || month = 11 then 30
  else 31

/-- The text behind a date. -/
def afterDate? (text : List Char) : Option (List Char) := do
  let (year, text) ← fixedNumber 4 0 9999 text
  let text ← afterChar? '-' text
  let (month, text) ← fixedNumber 2 1 12 text
  let text ← afterChar? '-' text
  let (_, text) ← fixedNumber 2 1 (daysOf year month) text
  return text

/-- The text behind a time of day. -/
def afterClock? (text : List Char) : Option (List Char) := do
  let (_, text) ← fixedNumber 2 0 23 text
  let text ← afterChar? ':' text
  let (_, text) ← fixedNumber 2 0 59 text
  let text ← afterChar? ':' text
  let (_, text) ← fixedNumber 2 0 60 text
  match text with
  | '.' :: rest =>
    let digits := rest.takeWhile Char.isDigit
    if digits.isEmpty then none else return rest.drop digits.length
  | _ => return text

/-- The text behind a distance from universal time. -/
def afterOffset? (text : List Char) : Option (List Char) :=
  match text with
  | 'Z' :: rest => some rest
  | 'z' :: rest => some rest
  | c :: rest =>
    if c = '+' || c = '-' then do
      let (_, rest) ← fixedNumber 2 0 23 rest
      let rest ← afterChar? ':' rest
      let (_, rest) ← fixedNumber 2 0 59 rest
      return rest
    else none
  | [] => none

/-- The text behind a point in time: a date, a time of day, or both, then perhaps with a distance from
universal time. -/
def afterTime? (text : List Char) : Option (List Char) :=
  match afterDate? text with
  | none => afterClock? text
  | some rest =>
    match rest with
    | c :: more =>
      if c = 'T' || c = 't' || c = ' ' then
        match afterClock? more with
        | some rest => some ((afterOffset? rest).getD rest)
        | none => some rest
      else some rest
    | [] => some rest

/-- A point in time. -/
def time : Parser Value := fun text =>
  (afterTime? text).map fun rest =>
    (.time (String.ofList (text.take (text.length - rest.length))), rest)

end SchemaBuild.Toml
