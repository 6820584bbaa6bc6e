import Mathlib.Algebra.Ring.Nat
import Mathlib.Data.List.Induction
import Mathlib.Data.List.TakeWhile
import SchemaBuild.Archive.Tar
import SchemaBuild.Proofs.Text.Trim
import SchemaBuild.Proofs.Text.Utf8

/-!
# Headers of ordinary files

What a header of an ordinary file is in the standard layout, field by field and without a word about
how it is read: `Tar.IsFileHeader`. Numbers are written with octal digits (`Tar.IsOctal`). The reader
finds in such a header what stands in it: `Tar.octal?_eq_some` for numbers, and
`Tar.IsFileHeader.isSound`, `size?_eq`, `name_eq` and `layout_eq` for the header. Every name and size
that fit in their fields have such a header: `Tar.headerOf_isFileHeader`.
-/

namespace SchemaBuild.Tar

/-! ### Octal numbers -/

/-- The number that octal digits write. -/
def octalValue (digits : Bytes) : Nat := digits.foldl (fun n b => 8 * n + (b.toNat - 48)) 0

/-- The field holds the number: octal digits, with blanks before them and blanks or NULs behind. -/
def IsOctal (field : Bytes) (n : Nat) : Prop :=
  ∃ before digits after : Bytes, field = before ++ digits ++ after ∧ (∀ b ∈ before, b = 32) ∧
    digits ≠ [] ∧ (∀ b ∈ digits, 48 ≤ b.toNat ∧ b.toNat ≤ 55) ∧ (∀ b ∈ after, b = 0 ∨ b = 32) ∧
    n = octalValue digits

/-- The character of a byte below 128. -/
def asciiChar (b : UInt8) : Char := Char.ofNat b.toNat

/-- Bytes below 128 are read as one character each. -/
theorem decode?_ascii {bytes : Bytes} (h : ∀ b ∈ bytes, b.toNat < 0x80) :
    Utf8.decode? bytes = some (bytes.map asciiChar) := by
  have hencode : Utf8.encode (bytes.map asciiChar) = bytes := by
    induction bytes with
    | nil => rfl
    | cons b bytes ih =>
      obtain ⟨hfirst, hrest⟩ := List.forall_mem_cons.mp h
      rw [List.map_cons, Utf8.encode, List.flatMap_cons, asciiChar, Utf8.encodeChar_one hfirst]
      exact congrArg (b :: ·) (ih hrest)
  rw [← Utf8.decode?_encode (bytes.map asciiChar), hencode]

section Digits

variable {b : UInt8} (h : 48 ≤ b.toNat ∧ b.toNat ≤ 55)

include h

theorem toNat_asciiChar_digit : (asciiChar b).toNat = b.toNat := Utf8.toNat_charOfNat (by omega)

theorem octalDigit?_asciiChar : octalDigit? (asciiChar b) = some (b.toNat - 48) := by
  have hnat := toNat_asciiChar_digit h
  have hle : '0' ≤ asciiChar b ∧ asciiChar b ≤ '7' := by
    rw [Char.le_def, Char.le_def, UInt32.le_iff_toNat_le, UInt32.le_iff_toNat_le]
    show 48 ≤ (asciiChar b).toNat ∧ (asciiChar b).toNat ≤ 55
    omega
  rw [octalDigit?, if_pos hle, hnat]

theorem not_isBlank_digit : Text.isBlank (asciiChar b) = false := by
  have hnat := toNat_asciiChar_digit h
  simp only [Text.isBlank, Text.blankRanges, hnat, List.any_cons, List.any_nil]
  simp
  omega

theorem asciiChar_digit_ne_plus : asciiChar b ≠ '+' := by
  intro hplus
  have hnat := toNat_asciiChar_digit h
  rw [hplus] at hnat
  have hvalue : '+'.toNat = 43 := rfl
  omega

end Digits

/-- Further digits make a number no less. -/
theorem le_octalFold (digits : Bytes) (n : Nat) :
    n ≤ digits.foldl (fun n b => 8 * n + (b.toNat - 48)) n := by
  induction digits generalizing n with
  | nil => exact Nat.le_refl n
  | cons b digits ih =>
    calc n ≤ 8 * n + (b.toNat - 48) := by omega
      _ ≤ _ := ih _

/-- The digits of a number below the bound are read as the number. -/
theorem ofOctalDigits?_eq_some {digits : Bytes} (hne : digits ≠ [])
    (hdigits : ∀ b ∈ digits, 48 ≤ b.toNat ∧ b.toNat ≤ 55) (hlimit : octalValue digits < numberLimit) :
    ofOctalDigits? (digits.map asciiChar) = some (octalValue digits) := by
  have hmap : (digits.map asciiChar).isEmpty = false := by simpa using hne
  rw [ofOctalDigits?, hmap, octalValue]
  rw [octalValue] at hlimit
  simp only [Bool.false_eq_true, if_false]
  -- from any number, since the rest goes on with what the digits so far write
  generalize 0 = n at hlimit ⊢
  clear hne hmap
  induction digits generalizing n with
  | nil => rfl
  | cons b digits ih =>
    obtain ⟨hfirst, hrest⟩ := List.forall_mem_cons.mp hdigits
    have hless : 8 * n + (b.toNat - 48) < numberLimit :=
      Nat.lt_of_le_of_lt (le_octalFold digits _) hlimit
    rw [List.map_cons, List.foldl_cons]
    simp only [octalDigit?_asciiChar hfirst, if_pos hless]
    exact ih hrest _ hlimit

/-- One digit more at the end. -/
theorem octalValue_concat (digits : Bytes) (b : UInt8) :
    octalValue (digits ++ [b]) = 8 * octalValue digits + (b.toNat - 48) := by
  rw [octalValue, List.foldl_append, List.foldl_cons, List.foldl_nil, octalValue]

/-- The value of digits is bounded by their number. -/
theorem octalValue_lt {digits : Bytes} (hdigits : ∀ b ∈ digits, 48 ≤ b.toNat ∧ b.toNat ≤ 55) :
    octalValue digits < 8 ^ digits.length := by
  induction digits using List.reverseRecOn with
  | nil => decide
  | append_singleton digits b ih =>
    have hlast := hdigits b (by simp)
    have hvalue := ih fun b hmem => hdigits b (List.mem_append_left _ hmem)
    rw [octalValue_concat, List.length_append, List.length_singleton, Nat.pow_succ]
    omega

/-! ### Reading a number -/

section Number

variable {before digits after blanks : Bytes}

theorem digit_ne_zero {b : UInt8} (h : 48 ≤ b.toNat ∧ b.toNat ≤ 55) : b ≠ 0 := by
  rintro rfl
  exact absurd h.1 (by decide)

/-- Up to the first NUL there are the digits and blanks. -/
theorem beforeNul_digits (hbefore : ∀ b ∈ before, b = 32)
    (hdigits : ∀ b ∈ digits, 48 ≤ b.toNat ∧ b.toNat ≤ 55) :
    Bytes.beforeNul (before ++ digits ++ after) = before ++ digits ++ after.takeWhile (· ≠ 0) := by
  rw [Bytes.beforeNul, List.takeWhile_append_of_pos]
  intro b hmem
  obtain hblank | hdigit := List.mem_append.mp hmem
  · -- a blank ends nothing
    rw [hbefore b hblank]
    decide
  · -- a digit is no end either
    simpa using digit_ne_zero (hdigits b hdigit)

/-- Behind the digits there are blanks up to the first NUL. -/
theorem blanks_beforeNul (hafter : ∀ b ∈ after, b = 0 ∨ b = 32) :
    ∀ b ∈ after.takeWhile (· ≠ 0), b = 32 := by
  intro b hmem
  have hnonzero : b ≠ 0 := by simpa using List.mem_takeWhile_imp hmem
  exact (hafter b (List.takeWhile_subset _ hmem)).resolve_left hnonzero

theorem isBlank_of_blanks (hblanks : ∀ b ∈ blanks, b = 32) :
    ∀ c ∈ blanks.map asciiChar, Text.isBlank c = true := by
  intro c hmem
  obtain ⟨b, hb, rfl⟩ := List.mem_map.mp hmem
  rw [hblanks b hb]
  decide

theorem ascii_digits (hbefore : ∀ b ∈ before, b = 32)
    (hdigits : ∀ b ∈ digits, 48 ≤ b.toNat ∧ b.toNat ≤ 55) (hblanks : ∀ b ∈ blanks, b = 32) :
    ∀ b ∈ before ++ digits ++ blanks, b.toNat < 0x80 := by
  intro b hmem
  simp only [List.mem_append] at hmem
  obtain (hblank | hdigit) | hblank := hmem
  · -- a blank in front
    rw [hbefore b hblank]
    decide
  · -- a digit
    have hrange := hdigits b hdigit
    omega
  · -- a blank behind
    rw [hblanks b hblank]
    decide

/-- Digits among blanks are trimmed to the digits. -/
theorem trim_digits (hbefore : ∀ b ∈ before, b = 32)
    (hdigits : ∀ b ∈ digits, 48 ≤ b.toNat ∧ b.toNat ≤ 55) (hblanks : ∀ b ∈ blanks, b = 32) :
    Text.trim ((before ++ digits ++ blanks).map asciiChar) = digits.map asciiChar := by
  rw [List.map_append, List.map_append]
  refine Text.trim_append (isBlank_of_blanks hbefore) (isBlank_of_blanks hblanks)
    (Text.isTrimmed_of_forall ?_)
  intro c hmem
  obtain ⟨b, hb, rfl⟩ := List.mem_map.mp hmem
  exact not_isBlank_digit (hdigits b hb)

/-- **A number in octal digits** is read, if it is below the bound. -/
theorem octal?_eq_some {field : Bytes} {n : Nat} (h : IsOctal field n) (hn : n < numberLimit) :
    octal? field = some n := by
  obtain ⟨before, digits, after, rfl, hbefore, hne, hdigits, hafter, rfl⟩ := h
  have hblanks := blanks_beforeNul hafter
  rw [octal?, beforeNul_digits hbefore hdigits, decode?_ascii (ascii_digits hbefore hdigits hblanks)]
  dsimp only
  rw [trim_digits hbefore hdigits hblanks]
  split
  · next digits' hplus =>
    -- digits do not begin with a plus
    obtain ⟨first, rest, rfl⟩ := List.exists_cons_of_ne_nil hne
    have hfirst := List.cons.inj hplus
    exact absurd hfirst.1 (asciiChar_digit_ne_plus (hdigits first List.mem_cons_self))
  · exact ofOctalDigits?_eq_some hne hdigits hn

end Number

/-! ### Headers -/

/-- The sum of the bytes of a header block, the eight bytes of the sum itself counted as blanks. -/
def checksum (block : Bytes) : Nat :=
  ((block.take 148 ++ List.replicate 8 32 ++ block.drop 156).map UInt8.toNat).sum

/-- The field holds the text: up to its first NUL, or as a whole if it has none. -/
def IsText (field text : Bytes) : Prop := field.takeWhile (· ≠ 0) = text

/-- The block holds the path: in the field for names, or with its front in a field of its own. -/
def HoldsPath (block path : Bytes) : Prop :=
  ∃ front name, IsText ((block.drop 345).take 155) front ∧ IsText (block.take 100) name ∧
    path = if front = [] then name else front ++ Path.slash :: name

/-- **The header of an ordinary file** in the standard layout: a block with the path and the size of
the file. What the fields hold that are not mentioned does not matter. -/
structure IsFileHeader (block path : Bytes) (size : Nat) : Prop where
  length : block.length = 512
  path : HoldsPath block path
  size : IsOctal ((block.drop 124).take 12) size
  checksum : IsOctal ((block.drop 148).take 8) (checksum block)
  kind : block[156]? = some 48 ∨ block[156]? = some 0
  mark : (block.drop 257).take 8 = Bytes.ofString "ustar" ++ [0] ++ Bytes.ofString "00"

theorem foldl_toNat (bytes : Bytes) (n : Nat) :
    bytes.foldl (fun n b => n + b.toNat) n = n + (bytes.map UInt8.toNat).sum := by
  induction bytes generalizing n with
  | nil => rfl
  | cons b bytes ih => rw [List.foldl_cons, ih, List.map_cons, List.sum_cons, Nat.add_assoc]

theorem sum_eq_checksum (block : Bytes) : Header.sum ⟨block⟩ = checksum block := by
  have hblanks : ((List.replicate 8 (32 : UInt8)).map UInt8.toNat).sum = 8 * 32 := rfl
  rw [Header.sum, checksum, foldl_toNat, foldl_toNat, List.map_append, List.map_append,
    List.sum_append, List.sum_append, hblanks]
  dsimp only
  omega

/-- The sum of a block fits in six digits. -/
theorem checksum_lt {block : Bytes} (h : block.length = 512) : checksum block < 8 ^ 6 := by
  have hbound : ∀ bytes : Bytes, (bytes.map UInt8.toNat).sum ≤ 255 * bytes.length := by
    intro bytes
    induction bytes with
    | nil => exact Nat.le_refl 0
    | cons b bytes ih =>
      have hb := b.toNat_lt
      rw [List.map_cons, List.sum_cons, List.length_cons]
      omega
  have hle := hbound (block.take 148 ++ List.replicate 8 32 ++ block.drop 156)
  simp only [List.length_append, List.length_take, List.length_replicate, List.length_drop, h] at hle
  rw [checksum]
  omega

/-- A block that holds its sum in octal digits is sound. -/
theorem isSound_of_isOctal {block : Bytes} (hlength : block.length = 512)
    (hsum : IsOctal ((block.drop 148).take 8) (checksum block)) :
    Header.isSound ⟨block⟩ = true := by
  have hlt := checksum_lt hlength
  have hread : octal? (Header.field ⟨block⟩ 148 8) = some (checksum block) :=
    octal?_eq_some hsum (Nat.lt_trans hlt (by decide))
  have hmod : checksum block % 0x100000000 = checksum block :=
    Nat.mod_eq_of_lt (Nat.lt_trans hlt (by decide))
  rw [Header.isSound, hread, sum_eq_checksum]
  simpa using hmod

namespace IsFileHeader

variable {block path : Bytes} {size : Nat} (h : IsFileHeader block path size)

include h

theorem isSound : Header.isSound ⟨block⟩ = true := isSound_of_isOctal h.length h.checksum

/-- The size is far below the bound for numbers, since twelve digits hold it. -/
theorem size_lt : size < 8 ^ 12 := by
  obtain ⟨before, digits, after, hfield, -, -, hdigits, -, rfl⟩ := h.size
  have hlength : digits.length ≤ 12 := by
    have hle : ((block.drop 124).take 12).length ≤ 12 := List.length_take_le _ _
    rw [hfield, List.length_append, List.length_append] at hle
    omega
  calc octalValue digits < 8 ^ digits.length := octalValue_lt hdigits
    _ ≤ 8 ^ 12 := Nat.pow_le_pow_right (by decide) hlength

theorem size?_eq : Header.size? ⟨block⟩ = some size := by
  have hread : octal? (Header.field ⟨block⟩ 124 12) = some size :=
    octal?_eq_some h.size (Nat.lt_trans h.size_lt (by decide))
  obtain ⟨before, digits, after, hfield, hbefore, hne, hdigits, -, -⟩ := h.size
  -- the first byte is a blank or a digit, and not the mark of a binary number
  obtain ⟨first, rest, hcons, hfirst⟩ : ∃ first rest,
      Header.field ⟨block⟩ 124 12 = first :: rest ∧ first.toNat < 0x80 := by
    rw [show Header.field ⟨block⟩ 124 12 = _ from hfield]
    cases before with
    | cons first rest =>
      refine ⟨first, _, rfl, ?_⟩
      rw [hbefore first List.mem_cons_self]
      decide
    | nil =>
      obtain ⟨first, rest, rfl⟩ := List.exists_cons_of_ne_nil hne
      have hdigit := hdigits first List.mem_cons_self
      exact ⟨first, _, rfl, by omega⟩
  have hbinary : ¬ 0x80 ≤ first := by
    rw [UInt8.le_iff_toNat_le]
    exact Nat.not_le_of_lt hfirst
  rw [Header.size?, hcons, number?, if_neg hbinary, ← hcons]
  exact hread

theorem layout_eq : Header.layout ⟨block⟩ = .ustar := by
  rw [Header.layout, Header.field, h.mark]
  rfl

theorem name_eq : Header.name ⟨block⟩ = path := by
  obtain ⟨front, name, hfront, hname, rfl⟩ := h.path
  have hfirst : (Header.field ⟨block⟩ 345 155).beforeNul = front := hfront
  have hlast : (Header.field ⟨block⟩ 0 100).beforeNul = name := hname
  rw [Header.name, hfirst, hlast, h.layout_eq]
  by_cases hempty : front = []
  · -- without a front the name stands alone
    rw [hempty]
    rfl
  · -- the front stands before the name, with a slash between them
    have hnonempty : (decide (Layout.ustar = Layout.ustar) && !front.isEmpty) = true := by
      simpa using hempty
    rw [if_neg hempty, if_pos hnonempty]

/-- An ordinary file, and none of the kinds that mean something else. -/
theorem kind_eq : Header.kind ⟨block⟩ = Bytes.ascii '0' ∨ Header.kind ⟨block⟩ = 0 := by
  have hkind : Header.kind ⟨block⟩ = block[156]?.getD 0 := by
    rw [Header.kind, Header.field, List.headD_eq_head?_getD, List.head?_take, List.head?_drop]
    rfl
  rw [hkind]
  obtain hzero | hzero := h.kind
  · -- the kind of a file
    exact .inl (by rw [hzero]; rfl)
  · -- the kind of a file in older headers
    exact .inr (by rw [hzero]; rfl)

/-- A header is no block of zeros, since it has its mark. -/
theorem not_all_zero : block.all (· = 0) = false := by
  have hmark : Bytes.ascii 'u' ∈ (block.drop 257).take 8 := by
    rw [h.mark]
    decide
  have hmem : Bytes.ascii 'u' ∈ block := List.mem_of_mem_drop (List.mem_of_mem_take hmark)
  rw [List.all_eq_false]
  exact ⟨_, hmem, by decide⟩

end IsFileHeader

/-! ### Writing a header -/

/-- The last octal digits of a number. -/
def octalDigits : (count n : Nat) → Bytes
  | 0, _ => []
  | count + 1, n => octalDigits count (n / 8) ++ [UInt8.ofNat (48 + n % 8)]

@[simp] theorem octalDigits_length (count n : Nat) : (octalDigits count n).length = count := by
  induction count generalizing n with
  | zero => rfl
  | succ count ih => rw [octalDigits, List.length_append, ih, List.length_singleton]

theorem toNat_octalDigit (n : Nat) : (UInt8.ofNat (48 + n % 8)).toNat = 48 + n % 8 :=
  Utf8.toNat_ofNat_lt (by omega)

theorem octalDigits_mem {count n : Nat} {b : UInt8} (h : b ∈ octalDigits count n) :
    48 ≤ b.toNat ∧ b.toNat ≤ 55 := by
  induction count generalizing n with
  | zero => cases h
  | succ count ih =>
    obtain hold | hlast := List.mem_append.mp h
    · -- it is one of the digits before the last
      exact ih hold
    · -- it is the last digit
      rw [List.mem_singleton.mp hlast, toNat_octalDigit]
      omega

/-- Enough digits write the number. -/
theorem octalValue_octalDigits {count n : Nat} (h : n < 8 ^ count) :
    octalValue (octalDigits count n) = n := by
  induction count generalizing n with
  | zero =>
    obtain rfl : n = 0 := by omega
    rfl
  | succ count ih =>
    rw [Nat.pow_succ] at h
    rw [octalDigits, octalValue_concat, ih (by omega), toNat_octalDigit]
    omega

/-- Digits with nothing before them. -/
theorem isOctal_octalDigits {count n : Nat} (hcount : count ≠ 0) (h : n < 8 ^ count) {after : Bytes}
    (hafter : ∀ b ∈ after, b = 0 ∨ b = 32) : IsOctal (octalDigits count n ++ after) n := by
  refine ⟨[], octalDigits count n, after, rfl, by simp, ?_, fun b => octalDigits_mem, hafter,
    (octalValue_octalDigits h).symm⟩
  intro hnil
  have hlength := octalDigits_length count n
  rw [hnil] at hlength
  exact hcount hlength.symm

/-- What stands in a header before its sum. -/
def headerFront (name : Bytes) (size : Nat) : Bytes :=
  name ++ (List.replicate (124 - name.length) 0 ++ (octalDigits 11 size ++ List.replicate 13 0))

/-- What stands in a header behind its sum. -/
def headerBack : Bytes :=
  48 :: (List.replicate 100 0 ++ (Bytes.ofString "ustar" ++ [0] ++ Bytes.ofString "00"
    ++ List.replicate 247 0))

/-- The sum of a header, whatever is written in its field. -/
def headerSum (name : Bytes) (size : Nat) : Nat :=
  checksum (headerFront name size ++ (List.replicate 8 0 ++ headerBack))

/-- The sum as it is written. -/
def sumField (sum : Nat) : Bytes := octalDigits 6 sum ++ [0, 32]

/-- A header of a file with all that matters in it. -/
def headerOf (name : Bytes) (size : Nat) : Bytes :=
  headerFront name size ++ (sumField (headerSum name size) ++ headerBack)

theorem sumField_length (sum : Nat) : (sumField sum).length = 8 := by
  rw [sumField, List.length_append, octalDigits_length]
  rfl

theorem headerBack_length : headerBack.length = 356 := by
  simp only [headerBack, List.length_cons, List.length_append, List.length_replicate]
  rfl

/-- The sum does not depend on what stands in its field. -/
theorem checksum_append {front field back : Bytes} (hfront : front.length = 148)
    (hfield : field.length = 8) : checksum (front ++ (field ++ back))
      = ((front ++ List.replicate 8 32 ++ back).map UInt8.toNat).sum := by
  have hback : (front ++ (field ++ back)).drop 156 = back := by
    rw [← List.append_assoc]
    exact List.drop_left' (by rw [List.length_append, hfront, hfield])
  rw [checksum, List.take_left' hfront, hback]

/-- A block with its sum in octal digits, between what stands before the sum and behind it. -/
def summed (front back : Bytes) : Bytes :=
  front ++ (sumField (checksum (front ++ (List.replicate 8 0 ++ back))) ++ back)

section Summed

variable {front back : Bytes} (hfront : front.length = 148)

include hfront

theorem checksum_summed :
    checksum (summed front back) = checksum (front ++ (List.replicate 8 0 ++ back)) := by
  rw [summed, checksum_append hfront (sumField_length _),
    checksum_append hfront List.length_replicate]

theorem drop_summed (n : Nat) : (summed front back).drop (156 + n) = back.drop n := by
  have hlength : (front ++ sumField (checksum (front ++ (List.replicate 8 0 ++ back)))).length
      = 156 := by
    rw [List.length_append, hfront, sumField_length]
  rw [summed, ← List.append_assoc, ← List.drop_drop, List.drop_left' hlength]

theorem summed_length (hback : back.length = 356) : (summed front back).length = 512 := by
  rw [summed, List.length_append, List.length_append, hfront, sumField_length, hback]

/-- The sum stands in its field. -/
theorem isOctal_summed (hback : back.length = 356) :
    IsOctal (((summed front back).drop 148).take 8) (checksum (summed front back)) := by
  have hlt := checksum_lt (summed_length hfront hback)
  have hfield : ((summed front back).drop 148).take 8 = sumField (checksum (summed front back)) := by
    rw [checksum_summed hfront, summed, List.drop_left' hfront, List.take_left' (sumField_length _)]
  rw [hfield]
  exact isOctal_octalDigits (by decide) hlt (by simp)

end Summed

/-- A text with NULs behind it. -/
theorem isText_append_zeros {text : Bytes} (h : 0 ∉ text) (count : Nat) :
    IsText (text ++ List.replicate count 0) text := by
  have htext : ∀ b ∈ text, decide (b ≠ 0) = true := by
    intro b hmem
    have hne : b ≠ 0 := by
      rintro rfl
      exact h hmem
    simpa using hne
  have hzeros : (List.replicate count (0 : UInt8)).takeWhile (· ≠ 0) = [] := by
    cases count with
    | zero => rfl
    | succ count => rfl
  rw [IsText, List.takeWhile_append_of_pos htext, hzeros, List.append_nil]

section Writing

variable {name : Bytes} {size : Nat} (hname : name.length ≤ 100)

include hname

theorem headerFront_length : (headerFront name size).length = 148 := by
  simp only [headerFront, List.length_append, List.length_replicate, octalDigits_length]
  omega

theorem headerOf_length : (headerOf name size).length = 512 :=
  summed_length (headerFront_length hname) headerBack_length

theorem drop_headerOf (n : Nat) : (headerOf name size).drop (156 + n) = headerBack.drop n :=
  drop_summed (headerFront_length hname) n

/-- The name, and NULs up to the end of its field. -/
theorem take_headerOf :
    (headerOf name size).take 100 = name ++ List.replicate (100 - name.length) 0 := by
  have hzeros : 100 - name.length ≤ (List.replicate (124 - name.length) (0 : UInt8)).length := by
    rw [List.length_replicate]
    omega
  have hfront : 100 ≤ (headerFront name size).length := by
    rw [headerFront_length hname]
    decide
  rw [headerOf, List.take_append_of_le_length hfront, headerFront, List.take_append,
    List.take_of_length_le hname, List.take_append_of_le_length hzeros, List.take_replicate,
    Nat.min_eq_left (by omega)]

/-- The digits of the size, and one NUL behind them. -/
theorem sizeField_headerOf :
    ((headerOf name size).drop 124).take 12 = octalDigits 11 size ++ [0] := by
  have hzeros : List.replicate 13 (0 : UInt8) = [0] ++ List.replicate 12 0 := rfl
  have hbefore : (name ++ List.replicate (124 - name.length) (0 : UInt8)).length = 124 := by
    rw [List.length_append, List.length_replicate]
    omega
  have hdigits : (octalDigits 11 size ++ [0]).length = 12 := by
    rw [List.length_append, octalDigits_length]
    rfl
  rw [headerOf, headerFront, hzeros, ← List.append_assoc name, List.append_assoc (name ++ _),
    List.drop_left' hbefore, ← List.append_assoc (octalDigits 11 size), List.append_assoc,
    List.take_left' hdigits]

/-- **A header can be written** for every name and size that fit in their fields. -/
theorem headerOf_isFileHeader (hnul : 0 ∉ name) (hsize : size < 8 ^ 11) :
    IsFileHeader (headerOf name size) name size where
  length := headerOf_length hname
  path := by
    refine ⟨[], name, ?_, ?_, rfl⟩
    · -- nothing stands in the field of the front
      rw [drop_headerOf hname 189]
      rfl
    · -- the name fills its field up with zeros
      rw [take_headerOf hname]
      exact isText_append_zeros hnul _
  size := by
    rw [sizeField_headerOf hname]
    exact isOctal_octalDigits (by decide) hsize (by simp)
  checksum := isOctal_summed (headerFront_length hname) headerBack_length
  kind := by
    have hkind : (headerOf name size)[156]? = headerBack[0]? := by
      rw [← List.head?_drop, drop_headerOf hname 0, List.drop_zero, List.head?_eq_getElem?]
    exact .inl hkind
  mark := by
    rw [drop_headerOf hname 101]
    rfl

end Writing

end SchemaBuild.Tar
