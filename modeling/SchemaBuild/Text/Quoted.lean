import SchemaBuild.Text.Hidden
import SchemaBuild.Text.Utf8

/-!
# Quoted text in messages

Messages show a text that was found somewhere between double quotes, so that it can be told from the
words around it. Quotes, backslashes and the usual control characters are written with a backslash,
and characters that would not be seen by their number. Where bytes are shown that may not be text, the
bytes that are none are written in hexadecimal.
-/

namespace SchemaBuild.Text

/-- The digits of a number in hexadecimal, in lower case. -/
def hexDigits (n : Nat) : List Char := Nat.toDigits 16 n

/-- A character as it stands between quotes. A single quote is written with a backslash only if
`both` quotes are. -/
def quoteChar (both : Bool) (c : Char) : List Char :=
  if c = '\x00' then ['\\', '0']
  else if c = '\t' then ['\\', 't']
  else if c = '\r' then ['\\', 'r']
  else if c = '\n' then ['\\', 'n']
  else if c = '\\' || c = '"' || (both && c = '\'') then ['\\', c]
  else if isHidden c then '\\' :: 'u' :: '\x7b' :: hexDigits c.toNat ++ ['\x7d']
  else [c]

/-- A text between quotes. -/
def quote (text : String) : String :=
  String.ofList ('"' :: text.toList.flatMap (quoteChar false) ++ ['"'])

/-- A byte that is no text, as it stands between quotes. -/
def quoteByte (b : UInt8) : List Char :=
  let digits := (hexDigits b.toNat).map Char.toUpper
  '\\' :: 'x' :: (List.replicate (2 - digits.length) '0' ++ digits)

/-- The pieces of bytes that may not be text, each as it stands between quotes. -/
def quotePieces : (fuel : Nat) → Bytes → List Char
  | 0, _ => []
  | _, [] => []
  | fuel + 1, b :: rest =>
    match Utf8.next b rest with
    | .char c rest => quoteChar true c ++ quotePieces fuel rest
    | .ill after => ((b :: rest).take (rest.length + 1 - after.length)).flatMap quoteByte
        ++ quotePieces fuel after

/-- Bytes that may not be text between quotes. -/
def quoteBytes (bytes : Bytes) : String :=
  String.ofList ('"' :: quotePieces bytes.length bytes ++ ['"'])

end SchemaBuild.Text
