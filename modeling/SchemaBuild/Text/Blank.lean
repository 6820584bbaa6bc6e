/-!
# Blank characters

The characters that Unicode calls white space, and trimming by them. Package names may not hold one;
listing files, program names and the messages of plugins are trimmed of them.
-/

namespace SchemaBuild.Text

/-- The white space of Unicode, as ranges of code points. -/
def blankRanges : List (Nat × Nat) :=
  [(0x09, 0x0D), (0x20, 0x20), (0x85, 0x85), (0xA0, 0xA0), (0x1680, 0x1680), (0x2000, 0x200A),
    (0x2028, 0x2029), (0x202F, 0x202F), (0x205F, 0x205F), (0x3000, 0x3000)]

/-- Is this character white space? -/
def isBlank (c : Char) : Bool :=
  blankRanges.any fun (low, high) => low ≤ c.toNat && c.toNat ≤ high

/-- The text from its first character that is not blank. -/
def trimStart (chars : List Char) : List Char := chars.dropWhile isBlank

/-- The text up to its last character that is not blank. -/
def trimEnd (chars : List Char) : List Char := (chars.reverse.dropWhile isBlank).reverse

/-- The text without the blanks around it. -/
def trim (chars : List Char) : List Char := trimEnd (trimStart chars)

/-- The string without the blanks around it. -/
def trimString (text : String) : String := String.ofList (trim text.toList)

/-- Is there nothing but blanks? -/
def isAllBlank (text : String) : Bool := text.toList.all isBlank

theorem trimStart_eq_self {c : Char} {chars : List Char} (h : isBlank c = false) :
    trimStart (c :: chars) = c :: chars := by
  simp [trimStart, h]

end SchemaBuild.Text
