import Mathlib.Tactic.Ring
import SchemaBuild.Archive.Inflate

/-!
# What compressed data stand for

The format of compressed data, as it is written and without a word about how it is read. The data are
a string of bits, the lowest bit of each byte first, and they are cut into blocks. A block is stored,
or it is a row of literals and repetitions in a prefix code. All is said by relations, since one
content can be compressed in many ways.

* `Deflate.IsWord` — the words of the prefix code that is given by the lengths of its words, where
  words of one length are consecutive numbers and shorter words come first;
* `Deflate.Symbols` — a row of literals and repetitions, and what it writes;
* `Deflate.Blocks` — a row of blocks, and what it writes;
* `Deflate.IsDeflated` — the compressed forms of a content.

The words of a code fit in their bits: `Deflate.IsCode.word_le`.
-/

namespace SchemaBuild.Deflate

open Inflate (lengthTable distanceTable fixedLengths lengthOrder)

/-! ### Bits -/

/-- The lowest bits of a number, the lowest one first. -/
def lowFirst : (width value : Nat) → List Bool
  | 0, _ => []
  | width + 1, value => value.testBit 0 :: lowFirst width (value / 2)

/-- The lowest bits of a number, the highest one first. -/
def highFirst : (width value : Nat) → List Bool
  | 0, _ => []
  | width + 1, value => value.testBit width :: highFirst width value

/-- The bits of a byte string. -/
def bitsOf (bytes : Bytes) : List Bool := bytes.flatMap fun b => lowFirst 8 b.toNat

/-- The lowest bytes of a number, the lowest one first. -/
def lowBytes : (count value : Nat) → Bytes
  | 0, _ => []
  | count + 1, value => UInt8.ofNat value :: lowBytes count (value / 256)

@[simp] theorem lowFirst_length (width value : Nat) : (lowFirst width value).length = width := by
  induction width generalizing value with
  | zero => rfl
  | succ width ih => rw [lowFirst, List.length_cons, ih]

@[simp] theorem highFirst_length (width value : Nat) : (highFirst width value).length = width := by
  induction width with
  | zero => rfl
  | succ width ih => rw [highFirst, List.length_cons, ih]

@[simp] theorem lowBytes_length (count value : Nat) : (lowBytes count value).length = count := by
  induction count generalizing value with
  | zero => rfl
  | succ count ih => rw [lowBytes, List.length_cons, ih]

@[simp] theorem bitsOf_nil : bitsOf [] = [] := rfl

@[simp] theorem bitsOf_cons (b : UInt8) (bytes : Bytes) :
    bitsOf (b :: bytes) = lowFirst 8 b.toNat ++ bitsOf bytes := List.flatMap_cons

@[simp] theorem bitsOf_append (a b : Bytes) : bitsOf (a ++ b) = bitsOf a ++ bitsOf b :=
  List.flatMap_append

@[simp] theorem bitsOf_length (bytes : Bytes) : (bitsOf bytes).length = 8 * bytes.length := by
  induction bytes with
  | nil => rfl
  | cons b bytes ih =>
    rw [bitsOf_cons, List.length_append, lowFirst_length, ih, List.length_cons]
    omega

/-- Numbers of one width with the same bits are the same. -/
theorem lowFirst_inj {width a b : Nat} (ha : a < 2 ^ width) (hb : b < 2 ^ width)
    (h : lowFirst width a = lowFirst width b) : a = b := by
  induction width generalizing a b with
  | zero => omega
  | succ width ih =>
    rw [lowFirst, lowFirst, List.cons.injEq, Nat.testBit_zero, Nat.testBit_zero,
      decide_eq_decide] at h
    rw [Nat.pow_succ] at ha hb
    have hhalf : a / 2 = b / 2 := ih (by omega) (by omega) h.2
    omega

/-- Byte strings with the same bits are the same. -/
theorem bitsOf_inj {a b : Bytes} (h : bitsOf a = bitsOf b) : a = b := by
  induction a generalizing b with
  | nil =>
    have hlength := congrArg List.length h
    rw [bitsOf_length, bitsOf_length, List.length_nil] at hlength
    exact (List.length_eq_zero_iff.mp (by omega)).symm
  | cons first a ih =>
    cases b with
    | nil =>
      have hlength := congrArg List.length h
      rw [bitsOf_length, bitsOf_length, List.length_nil, List.length_cons] at hlength
      omega
    | cons first' b =>
      rw [bitsOf_cons, bitsOf_cons] at h
      obtain ⟨hfirst, hrest⟩ := List.append_inj h (by simp)
      have hbyte : first.toNat = first'.toNat :=
        lowFirst_inj first.toNat_lt first'.toNat_lt hfirst
      rw [UInt8.toNat_inj.mp hbyte, ih hrest]

/-! ### Prefix codes -/

/-- How many words have a length. A symbol of length zero has no word. -/
def wordCount (lengths : List Nat) : (length : Nat) → Nat
  | 0 => 0
  | length + 1 => lengths.count (length + 1)

/-- The least word of a length, as a number: it follows the shorter words. -/
def firstWord (lengths : List Nat) : (length : Nat) → Nat
  | 0 => 0
  | length + 1 => 2 * (firstWord lengths length + wordCount lengths length)

/-- **The word of a symbol** in the code with these lengths of words: the least word of its length,
and one more for every symbol before it that has a word of this length. -/
def IsWord (lengths : List Nat) (symbol : Nat) (word : List Bool) : Prop :=
  ∃ length, length ≠ 0 ∧ lengths[symbol]? = some length ∧
    word = highFirst length (firstWord lengths length + (lengths.take symbol).count length)

/-- A word has a bit at least. -/
theorem IsWord.length_pos {lengths : List Nat} {symbol : Nat} {word : List Bool}
    (h : IsWord lengths symbol word) : 0 < word.length := by
  obtain ⟨length, hpositive, -, rfl⟩ := h
  rw [highFirst_length]
  exact Nat.pos_of_ne_zero hpositive

/-- Lengths that make a code: no word is too long, and no word is left over, except that a code may
have a single word of one bit, or none at all. -/
structure IsCode (lengths : List Nat) : Prop where
  length_le : ∀ length ∈ lengths, length ≤ 15
  full : ((List.range 15).map fun n => lengths.count (n + 1) * 2 ^ (14 - n)).sum = 2 ^ 15 ∨
    (∀ length ∈ lengths, length ≤ 1) ∧ lengths.count 1 ≤ 1

/-! ### Symbols -/

/-- A value from a table of least values, with the bits that say how much more it is. -/
def IsEntry (table : Array (Nat × Nat)) (symbol value : Nat) (bits : List Bool) : Prop :=
  ∃ least width more, table[symbol]? = some (least, width) ∧ more < 2 ^ width ∧
    value = least + more ∧ bits = lowFirst width more

/-- What is written when bytes are repeated that stand some distance back. The repetition may reach
into itself. -/
structure Repeats (before : Bytes) (distance length : Nat) (after : Bytes) : Prop where
  reach : 0 < distance ∧ distance ≤ before.length
  isPrefix : before <+: after
  length_eq : after.length = before.length + length
  same : ∀ i < length, after[before.length + i]? = after[before.length + i - distance]?

/-- The first byte of a repetition stands the distance back, and the rest is a shorter one. -/
theorem Repeats.step {before after : Bytes} {distance length : Nat}
    (h : Repeats before distance (length + 1) after) :
    ∃ b, before[before.length - distance]? = some b ∧
      Repeats (before ++ [b]) distance length after := by
  obtain ⟨⟨hpositive, hreach⟩, ⟨copied, rfl⟩, hlength, hsame⟩ := h
  -- the copy has a byte at least, since its length is a successor
  obtain ⟨b, rest, rfl⟩ : ∃ b rest, copied = b :: rest := by
    apply List.exists_cons_of_length_eq_add_one
    rw [List.length_append] at hlength
    exact Nat.add_left_cancel hlength
  refine ⟨b, ?_, ⟨hpositive, ?_⟩, ⟨rest, by simp⟩, ?_, ?_⟩
  · -- the byte it begins with stands in what was there before
    have hfirst := hsame 0 (Nat.succ_pos length)
    rw [Nat.add_zero, List.getElem?_append_right (Nat.le_refl _), Nat.sub_self,
      List.getElem?_append_left (by omega)] at hfirst
    exact hfirst.symm
  · rw [List.length_append]
    omega
  · rw [hlength, List.length_append]
    simp only [List.length_singleton]
    omega
  · -- counted from the byte that is written now, every place is one further
    intro i hi
    have hnext := hsame (i + 1) (by omega)
    have hbehind : (before ++ [b]).length + i = before.length + (i + 1) := by
      rw [List.length_append, List.length_singleton]
      omega
    rwa [hbehind]

/-- **Literals and repetitions** up to the symbol that ends a block, written behind what is there
already. -/
inductive Symbols (literals distances : List Nat) : Bytes → List Bool → Bytes → Prop
  | stop {written : Bytes} {word : List Bool} (isWord : IsWord literals 256 word) :
      Symbols literals distances written word written
  | literal {written after : Bytes} {word bits : List Bool} {b : UInt8}
      (isWord : IsWord literals b.toNat word)
      (behind : Symbols literals distances (written ++ [b]) bits after) :
      Symbols literals distances written (word ++ bits) after
  | repetition {written copied after : Bytes}
      {lengthWord lengthMore distanceWord distanceMore bits : List Bool}
      {lengthSymbol length distanceSymbol distance : Nat}
      (isLengthWord : IsWord literals (257 + lengthSymbol) lengthWord)
      (isLength : IsEntry lengthTable lengthSymbol length lengthMore)
      (isDistanceWord : IsWord distances distanceSymbol distanceWord)
      (isDistance : IsEntry distanceTable distanceSymbol distance distanceMore)
      (repeats : Repeats written distance length copied)
      (behind : Symbols literals distances copied bits after) :
      Symbols literals distances written
        (lengthWord ++ (lengthMore ++ (distanceWord ++ (distanceMore ++ bits)))) after

/-! ### Codes that a block brings -/

/-- Lengths of words in a code of their own, behind those given already: each by itself, as the one
before it repeated, or as zeros. -/
inductive Lengths (code : List Nat) : List Nat → List Bool → List Nat → Prop
  | stop {all : List Nat} : Lengths code all [] all
  | single {done all : List Nat} {word bits : List Bool} {length : Nat} (small : length < 16)
      (isWord : IsWord code length word) (behind : Lengths code (done ++ [length]) bits all) :
      Lengths code done (word ++ bits) all
  | previous {done all : List Nat} {word bits : List Bool} {last more : Nat} (small : more < 4)
      (isWord : IsWord code 16 word)
      (behind : Lengths code (done ++ [last] ++ List.replicate (3 + more) last) bits all) :
      Lengths code (done ++ [last]) (word ++ (lowFirst 2 more ++ bits)) all
  | zeros {done all : List Nat} {word bits : List Bool} {more : Nat} (small : more < 8)
      (isWord : IsWord code 17 word)
      (behind : Lengths code (done ++ List.replicate (3 + more) 0) bits all) :
      Lengths code done (word ++ (lowFirst 3 more ++ bits)) all
  | manyZeros {done all : List Nat} {word bits : List Bool} {more : Nat} (small : more < 128)
      (isWord : IsWord code 18 word)
      (behind : Lengths code (done ++ List.replicate (11 + more) 0) bits all) :
      Lengths code done (word ++ (lowFirst 7 more ++ bits)) all

/-- Lengths are only added. -/
theorem Lengths.length_le {code done all : List Nat} {bits : List Bool}
    (h : Lengths code done bits all) : done.length ≤ all.length := by
  induction h with
  | stop => exact Nat.le_refl _
  | single _ _ _ ih => exact Nat.le_trans (by simp) ih
  | previous _ _ _ ih => exact Nat.le_trans (by simp) ih
  | zeros _ _ _ ih => exact Nat.le_trans (by simp) ih
  | manyZeros _ _ _ ih => exact Nat.le_trans (by simp) ih

/-- The code for lengths, whose own lengths are given in an order in which the last ones are likely
to be zero and may be left out. -/
def placed (ordered : List Nat) : List Nat :=
  (List.range 19).map fun symbol => ordered.getD (lengthOrder.idxOf symbol) 0

/-- **The two codes** that a block brings along. -/
inductive Codes : (literals distances : List Nat) → List Bool → Prop
  | mk {literals distances ordered : List Nat} {bits : List Bool}
      (literals_length : 257 ≤ literals.length ∧ literals.length ≤ 286)
      (distances_length : 1 ≤ distances.length ∧ distances.length ≤ 32)
      (ordered_length : 4 ≤ ordered.length ∧ ordered.length ≤ 19)
      (ordered_lt : ∀ length ∈ ordered, length < 8) (isCode : IsCode (placed ordered))
      (isLiterals : IsCode literals) (isDistances : IsCode distances)
      (lengths : Lengths (placed ordered) [] bits (literals ++ distances)) :
      Codes literals distances (lowFirst 5 (literals.length - 257)
        ++ (lowFirst 5 (distances.length - 1) ++ (lowFirst 4 (ordered.length - 4)
        ++ (ordered.flatMap (lowFirst 3) ++ bits))))

theorem Codes.isCode {literals distances : List Nat} {bits : List Bool}
    (h : Codes literals distances bits) : IsCode literals ∧ IsCode distances := by
  cases h with
  | mk _ _ _ _ _ isLiterals isDistances _ => exact ⟨isLiterals, isDistances⟩

/-! ### Blocks -/

/-- The lengths of the words for distances in a block that brings no codes. -/
def fixedDistances : List Nat := List.replicate 32 5

/-- **A block** that begins at a position among the bits, and what it writes behind what is there
already. A stored block begins at a whole byte. -/
inductive Block (position : Nat) : Bytes → List Bool → Bytes → Prop
  | stored {written data : Bytes} {filler : List Bool} (small : filler.length < 8)
      (aligned : (position + 2 + filler.length) % 8 = 0) (short : data.length < 65536) :
      Block position written (lowFirst 2 0 ++ (filler ++
        bitsOf (lowBytes 2 data.length ++ lowBytes 2 (65535 - data.length) ++ data)))
        (written ++ data)
  | fixed {written after : Bytes} {bits : List Bool}
      (symbols : Symbols fixedLengths fixedDistances written bits after) :
      Block position written (lowFirst 2 1 ++ bits) after
  | dynamic {written after : Bytes} {literals distances : List Nat} {codeBits bits : List Bool}
      (codes : Codes literals distances codeBits)
      (symbols : Symbols literals distances written bits after) :
      Block position written (lowFirst 2 2 ++ (codeBits ++ bits)) after

/-- **Blocks** up to the one that is marked as the last. -/
inductive Blocks : (position : Nat) → Bytes → List Bool → Bytes → Prop
  | last {position : Nat} {written after : Bytes} {bits : List Bool}
      (block : Block (position + 1) written bits after) :
      Blocks position written (true :: bits) after
  | more {position : Nat} {written between after : Bytes} {bits rest : List Bool}
      (block : Block (position + 1) written bits between)
      (behind : Blocks (position + 1 + bits.length) between rest after) :
      Blocks position written (false :: (bits ++ rest)) after

/-- **The compressed forms** of a content: blocks that write it, and bits that fill up the last byte.
-/
def IsDeflated (bytes content : Bytes) : Prop :=
  ∃ bits filler, bitsOf bytes = bits ++ filler ∧ filler.length < 8 ∧ Blocks 0 [] bits content

/-- Any short content has a compressed form, in one stored block. -/
theorem isDeflated_stored {content : Bytes} (h : content.length < 65536) :
    IsDeflated (1 :: (lowBytes 2 content.length ++ lowBytes 2 (65535 - content.length) ++ content))
      content := by
  -- the first byte has the mark of the last block, the kind, and five bits up to the whole byte
  have hblock : Block 1 [] _ ([] ++ content) :=
    .stored (show (List.replicate 5 false).length < 8 by decide) (by decide) h
  refine ⟨_, [], ?_, by decide, .last hblock⟩
  rw [bitsOf_cons, List.append_nil]
  rfl

/-! ### Words fit in their bits -/

section Words

variable {lengths : List Nat}

/-- The least word of a longer length lies behind all shorter words. -/
theorem firstWord_le (lengths : List Nat) (length more : Nat) :
    (firstWord lengths length + wordCount lengths length) * 2 ^ (more + 1)
      ≤ firstWord lengths (length + (more + 1)) := by
  induction more with
  | zero =>
    rw [firstWord]
    omega
  | succ more ih =>
    calc (firstWord lengths length + wordCount lengths length) * 2 ^ (more + 2)
        = 2 * ((firstWord lengths length + wordCount lengths length) * 2 ^ (more + 1)) := by ring
      _ ≤ 2 * firstWord lengths (length + (more + 1)) := Nat.mul_le_mul_left 2 ih
      _ ≤ firstWord lengths (length + (more + 2)) := by
        show _ ≤ 2 * (firstWord lengths (length + (more + 1)) + _)
        omega

/-- The words fill up what the sum of their shares says. -/
theorem sum_eq_firstWord (lengths : List Nat) :
    ((List.range 15).map fun n => lengths.count (n + 1) * 2 ^ (14 - n)).sum
      = firstWord lengths 15 + wordCount lengths 15 := by
  simp only [List.range_succ, List.range_zero, List.nil_append, List.map_append, List.map_cons,
    List.map_nil, List.sum_append, List.sum_cons, List.sum_nil, firstWord, wordCount]
  omega

/-- A code is not overfull. -/
theorem IsCode.filled_le (h : IsCode lengths) :
    firstWord lengths 15 + wordCount lengths 15 ≤ 2 ^ 15 := by
  rw [← sum_eq_firstWord]
  obtain hfull | ⟨hshort, hone⟩ := h.full
  · exact Nat.le_of_eq hfull
  · -- there are words of one bit only, and at most one of them
    have hzero : ∀ n, lengths.count (n + 2) = 0 := by
      intro n
      rw [List.count_eq_zero]
      intro hmem
      have hle := hshort _ hmem
      omega
    simp only [List.range_succ, List.range_zero, List.nil_append, List.map_append, List.map_cons,
      List.map_nil, List.sum_append, List.sum_cons, List.sum_nil, hzero, Nat.zero_add]
    omega

/-- **The words of a length** are numbers with so many bits. -/
theorem IsCode.word_le (h : IsCode lengths) {length : Nat} (hlength : length ≤ 15) :
    firstWord lengths length + wordCount lengths length ≤ 2 ^ length := by
  obtain rfl | hless := Nat.eq_or_lt_of_le hlength
  · exact h.filled_le
  · obtain ⟨more, hmore⟩ := Nat.exists_eq_add_of_lt hless
    -- the words with all their continuations do not overfill the greatest length
    have hshare : (firstWord lengths length + wordCount lengths length) * 2 ^ (more + 1)
        ≤ 2 ^ length * 2 ^ (more + 1) := by
      calc (firstWord lengths length + wordCount lengths length) * 2 ^ (more + 1)
          ≤ firstWord lengths (length + (more + 1)) := firstWord_le lengths length more
        _ = firstWord lengths 15 := by rw [hmore, Nat.add_assoc]
        _ ≤ 2 ^ 15 := Nat.le_trans (Nat.le_add_right _ _) h.filled_le
        _ = 2 ^ length * 2 ^ (more + 1) := by rw [← Nat.pow_add, ← Nat.add_assoc, ← hmore]
    exact Nat.le_of_mul_le_mul_right hshare (Nat.two_pow_pos _)

end Words

end SchemaBuild.Deflate
