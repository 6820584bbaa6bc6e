/-!
# Byte strings

File contents, file names, paths, arguments and environment values are strings of bytes. They are
lists, so that a reader of such a string is a recursion on the list and a statement about it is an
induction.

`Bytes.split` cuts a byte string at every occurrence of a separator. Its main statements are
`join_split`, which says that nothing but the separators is lost, and `not_mem_of_mem_split`, which
says that no piece holds one.
-/

namespace SchemaBuild

/-- A string of bytes. -/
abbrev Bytes := List UInt8

namespace Bytes

/-- The byte of an ASCII character. -/
def ascii (c : Char) : UInt8 := c.toUInt8

/-- Put a byte in front of the first piece of a list of pieces. -/
def consHead (b : UInt8) : List Bytes → List Bytes
  | [] => [[b]]
  | piece :: pieces => (b :: piece) :: pieces

/-- The pieces between the occurrences of `separator`, in order. There is always at least one, and
pieces may be empty. -/
def split (separator : UInt8) : Bytes → List Bytes
  | [] => [[]]
  | b :: rest => if b = separator then [] :: split separator rest else consHead b (split separator rest)

/-- The pieces with one `separator` between each two. -/
def join (separator : UInt8) : List Bytes → Bytes
  | [] => []
  | [piece] => piece
  | piece :: pieces => piece ++ separator :: join separator pieces

/-- The lower-case form of an ASCII letter; every other byte stays as it is. -/
def lowerByte (b : UInt8) : UInt8 := if 65 ≤ b ∧ b ≤ 90 then b + 32 else b

/-- The string with ASCII letters in lower case. -/
def lower (bytes : Bytes) : Bytes := bytes.map lowerByte

/-- The bytes before the first NUL, or all of them. -/
def beforeNul (bytes : Bytes) : Bytes := bytes.takeWhile (· ≠ 0)

/-! ### Laws of splitting -/

theorem split_ne_nil (separator : UInt8) (bytes : Bytes) : split separator bytes ≠ [] := by
  cases bytes with
  | nil => simp [split]
  | cons b rest =>
    simp only [split]
    split
    · simp
    · cases split separator rest <;> simp [consHead]

theorem join_consHead (separator b : UInt8) {pieces : List Bytes} (h : pieces ≠ []) :
    join separator (consHead b pieces) = b :: join separator pieces := by
  match pieces, h with
  | [piece], _ => rfl
  | piece :: next :: pieces, _ => simp [consHead, join]

/-- Joining the pieces with the separator gives the string back. -/
theorem join_split (separator : UInt8) (bytes : Bytes) :
    join separator (split separator bytes) = bytes := by
  induction bytes with
  | nil => rfl
  | cons b rest ih =>
    simp only [split]
    split
    · next h =>
      cases hs : split separator rest with
      | nil => exact absurd hs (split_ne_nil separator rest)
      | cons piece pieces =>
        rw [hs] at ih
        simp [join, ih, h]
    · rw [join_consHead separator b (split_ne_nil separator rest), ih]

/-- No piece holds the separator. -/
theorem not_mem_of_mem_split {separator : UInt8} {bytes piece : Bytes}
    (h : piece ∈ split separator bytes) : separator ∉ piece := by
  induction bytes generalizing piece with
  | nil =>
    have : piece = [] := by simpa [split] using h
    simp [this]
  | cons b rest ih =>
    simp only [split] at h
    split at h
    · rcases List.mem_cons.1 h with rfl | h
      · simp
      · exact ih h
    · next hb =>
      cases hs : split separator rest with
      | nil => exact absurd hs (split_ne_nil separator rest)
      | cons first pieces =>
        -- the byte goes to the front of the first piece
        rw [hs] at h
        rcases List.mem_cons.1 h with rfl | h
        · have hf : separator ∉ first := ih (by rw [hs]; simp)
          intro hm
          rcases List.mem_cons.1 hm with rfl | hm
          · exact hb rfl
          · exact hf hm
        · exact ih (by rw [hs]; simp [h])

/-- A string without the separator is its own only piece. -/
theorem split_of_not_mem {separator : UInt8} {bytes : Bytes} (h : separator ∉ bytes) :
    split separator bytes = [bytes] := by
  induction bytes with
  | nil => rfl
  | cons b rest ih =>
    have hb : b ≠ separator := fun e => h (by simp [e])
    have hr : separator ∉ rest := fun e => h (by simp [e])
    simp [split, hb, ih hr, consHead]

end Bytes

end SchemaBuild
