import SchemaBuild.Json
import SchemaBuild.Json.Reader

/-!
# String literals

What stands between the quotes of a string is not the text itself: a character may be written with a
backslash, by its number, or by two numbers if one is not enough. So a text has many literals, of which
the writer uses one, and the reader of strings takes all of them and nothing else.

* `Json.Denotes` — what stands between the quotes denotes a text;
* `Json.Denotes.readStringFrom`, `Json.closesAs_of_readStringFrom` — the reader takes literals and nothing
  else, up to the first quote without a backslash, and gives what they denote;
* `Json.denotes_escaped` — what is written for a text denotes it, with `Json.readStringFrom_quoted`.
-/

namespace SchemaBuild.Json

/-- **What stands between the quotes denotes a text.** -/
inductive Denotes : List Char → List Char → Prop
  | nil : Denotes [] []
  | plain {c : Char} {literal text : List Char} (hcontrol : 0x20 ≤ c.toNat) (hquote : c ≠ '"')
      (hbackslash : c ≠ '\\') (h : Denotes literal text) : Denotes (c :: literal) (c :: text)
  | escape {name c : Char} {literal text : List Char} (hname : simpleEscape? name = some c)
      (h : Denotes literal text) : Denotes ('\\' :: name :: literal) (c :: text)
  | number {a b c d : Char} {n : Nat} {literal text : List Char}
      (hword : hexWord? a b c d = some n) (hwhole : isSurrogate n = false)
      (h : Denotes literal text) :
      Denotes ('\\' :: 'u' :: a :: b :: c :: d :: literal) (Char.ofNat n :: text)
  | pair {a b c d e f g h : Char} {high low : Nat} {literal text : List Char}
      (hhigh : hexWord? a b c d = some high) (hlow : hexWord? e f g h = some low)
      (hfirst : 0xD800 ≤ high ∧ high < 0xDC00) (hsecond : 0xDC00 ≤ low ∧ low ≤ 0xDFFF)
      (hrest : Denotes literal text) :
      Denotes ('\\' :: 'u' :: a :: b :: c :: d :: '\\' :: 'u' :: e :: f :: g :: h :: literal)
        (Char.ofNat (0x10000 + (high - 0xD800) * 0x400 + (low - 0xDC00)) :: text)

/-- A text with a literal at its front, the closing quote behind it; `done` comes before what the
literal denotes, in reverse order. -/
def ClosesAs (done text : List Char) (found : String) (rest : List Char) : Prop :=
  ∃ literal denoted, Denotes literal denoted ∧ text = literal ++ '"' :: rest ∧
    found = String.ofList (done.reverse ++ denoted)

/-! ### One character -/

/-- A character that is written without a backslash is read as it stands. -/
theorem readStringFrom_plain {c : Char} (hquote : c ≠ '"') (hbackslash : c ≠ '\\')
    (hcontrol : 0x20 ≤ c.toNat) (done rest : List Char) :
    readStringFrom done (c :: rest) = readStringFrom (c :: done) rest := by
  rw [readStringFrom.eq_def]
  split
  · next h =>
    -- the text goes on
    cases h
  · next h => exact absurd (List.cons.inj h).1 hquote
  · next h => exact absurd (List.cons.inj h).1 hbackslash
  · next h => exact absurd (List.cons.inj h).1 hbackslash
  · next h => exact absurd (List.cons.inj h).1 hbackslash
  · next h =>
    -- none of the marks that the reader looks for comes next, so the character stands for itself
    obtain ⟨rfl, rfl⟩ := List.cons.inj h
    rw [if_neg (by simpa [hbackslash] using hcontrol)]

/-- A backslash with the name of a character is read as that character. -/
theorem readStringFrom_simple {name c : Char} (h : simpleEscape? name = some c)
    (done rest : List Char) :
    readStringFrom done ('\\' :: name :: rest) = readStringFrom (c :: done) rest := by
  have hu : name ≠ 'u' := by
    rintro rfl
    cases h
  rw [readStringFrom.eq_def]
  split
  · next heq => cases heq
  · next heq => cases heq
  · next heq =>
    -- a number would begin with another letter
    exact absurd (List.cons.inj (List.cons.inj heq).2).1 hu
  · next heq => exact absurd (List.cons.inj (List.cons.inj heq).2).1 hu
  · next heq =>
    -- the letter behind the backslash has a meaning
    obtain ⟨rfl, rfl⟩ := List.cons.inj (List.cons.inj heq).2
    rw [h]
  · next hnot heq =>
    -- there is a letter behind the backslash
    obtain ⟨rfl, rfl⟩ := List.cons.inj heq
    exact (hnot name rest rfl rfl).elim

/-- A number that is no half of a pair is read as its character. -/
theorem readStringFrom_number {a b c d : Char} {n : Nat} (hword : hexWord? a b c d = some n)
    (hwhole : isSurrogate n = false) (done rest : List Char) :
    readStringFrom done ('\\' :: 'u' :: a :: b :: c :: d :: rest)
      = readStringFrom (Char.ofNat n :: done) rest := by
  rw [readStringFrom.eq_def]
  split
  · next heq => cases heq
  · next heq => cases heq
  · next heq =>
    -- another number may follow, but it is no second half of this one
    simp only [List.cons.injEq, true_and] at heq
    obtain ⟨rfl, rfl, rfl, rfl, rfl⟩ := heq
    simp only [hword, hwhole]
    rfl
  · next heq =>
    -- no number follows that could belong to this one
    simp only [List.cons.injEq, true_and] at heq
    obtain ⟨rfl, rfl, rfl, rfl, rfl⟩ := heq
    simp only [hword, hwhole]
    rfl
  · next hu heq =>
    -- there are four digits
    obtain ⟨rfl, rfl⟩ := List.cons.inj (List.cons.inj heq).2
    exact (hu _ _ _ _ _ rfl rfl).elim
  · next hnot heq =>
    -- there is something behind the backslash
    obtain ⟨rfl, rfl⟩ := List.cons.inj heq
    exact (hnot _ _ rfl rfl).elim

theorem isSurrogate_iff {n : Nat} : isSurrogate n = true ↔ 0xD800 ≤ n ∧ n ≤ 0xDFFF := by
  rw [isSurrogate, Bool.and_eq_true, decide_eq_true_eq, decide_eq_true_eq]

/-- Both halves of a pair are read as one character. -/
theorem readStringFrom_pair {a b c d e f g h : Char} {high low : Nat}
    (hhigh : hexWord? a b c d = some high) (hlow : hexWord? e f g h = some low)
    (hfirst : 0xD800 ≤ high ∧ high < 0xDC00) (hsecond : 0xDC00 ≤ low ∧ low ≤ 0xDFFF)
    (done rest : List Char) :
    readStringFrom done
        ('\\' :: 'u' :: a :: b :: c :: d :: '\\' :: 'u' :: e :: f :: g :: h :: rest)
      = readStringFrom
          (Char.ofNat (0x10000 + (high - 0xD800) * 0x400 + (low - 0xDC00)) :: done) rest := by
  have hsurrogate : isSurrogate high = true := isSurrogate_iff.mpr ⟨hfirst.1, by omega⟩
  have hhalves : (decide (high < 0xDC00) && decide (0xDC00 ≤ low) && decide (low ≤ 0xDFFF)) = true := by
    simp [hfirst.2, hsecond]
  rw [readStringFrom]
  simp only [hhigh, hlow, hsurrogate, hhalves, if_true]

/-! ### Whole literals -/

/-- **A literal is read** as what it denotes, up to the closing quote. -/
theorem Denotes.readStringFrom {literal text : List Char} (h : Denotes literal text)
    (done rest : List Char) :
    readStringFrom done (literal ++ '"' :: rest) = .ok (String.ofList (done.reverse ++ text), rest) := by
  induction h generalizing done with
  | nil =>
    -- the closing quote ends the text
    rw [List.append_nil]
    rfl
  | plain hcontrol hquote hbackslash _ ih =>
    rw [List.cons_append, readStringFrom_plain hquote hbackslash hcontrol, ih]
    simp
  | escape hname _ ih =>
    rw [List.cons_append, List.cons_append, readStringFrom_simple hname, ih]
    simp
  | number hword hwhole _ ih =>
    simp only [List.cons_append]
    rw [readStringFrom_number hword hwhole, ih]
    simp
  | pair hhigh hlow hfirst hsecond _ ih =>
    -- the two numbers are one character
    simp only [List.cons_append]
    rw [readStringFrom_pair hhigh hlow hfirst hsecond, ih]
    simp

/-- What stands for a character may be put in front of a literal. -/
theorem ClosesAs.cons {done text rest : List Char} {c : Char} {found : String}
    (h : ClosesAs (c :: done) text found rest) (front : List Char)
    (hfront : ∀ {literal denoted}, Denotes literal denoted →
      Denotes (front ++ literal) (c :: denoted)) : ClosesAs done (front ++ text) found rest := by
  obtain ⟨literal, denoted, hdenotes, rfl, rfl⟩ := h
  refine ⟨front ++ literal, c :: denoted, hfront hdenotes, (List.append_assoc _ _ _).symm, ?_⟩
  rw [List.reverse_cons, List.append_assoc, List.singleton_append]

/-- **The reader takes literals only.** -/
theorem closesAs_of_readStringFrom {done text : List Char} {found : String} {rest : List Char}
    (h : readStringFrom done text = .ok (found, rest)) : ClosesAs done text found rest := by
  -- the cases are those of the reader; in the last of them, all together, it fails
  fun_induction Json.readStringFrom done text with
  | case2 done text =>
    -- the closing quote comes first, and nothing was denoted
    cases h
    exact ⟨[], [], .nil, rfl, by rw [List.append_nil]⟩
  | case5 done a b c d e f g h₁ text high hhigh hsurrogate low hlow hhalves _ ih =>
    -- two numbers for one character
    simp only [Bool.and_eq_true, decide_eq_true_eq] at hhalves
    have hfirst := isSurrogate_iff.mp hsurrogate
    exact (ih h).cons ['\\', 'u', a, b, c, d, '\\', 'u', e, f, g, h₁]
      (.pair hhigh hlow ⟨hfirst.1, hhalves.1.1⟩ ⟨hhalves.1.2, hhalves.2⟩)
  | case7 done a b c d e f g h₁ text n hword hwhole ih =>
    -- a number that stands for itself, before another one
    exact (ih h).cons ['\\', 'u', a, b, c, d]
      (.number hword (Bool.eq_false_iff.mpr hwhole))
  | case10 done a b c d text _ n hword hwhole ih =>
    -- a number that stands for itself, before anything else
    exact (ih h).cons ['\\', 'u', a, b, c, d]
      (.number hword (Bool.eq_false_iff.mpr hwhole))
  | case12 done name text _ _ c hname ih =>
    -- a letter with a meaning behind a backslash
    exact (ih h).cons ['\\', name] (.escape hname)
  | case14 done c text hquote _ _ _ hplain ih =>
    -- a character that stands for itself
    rw [Bool.or_eq_true, decide_eq_true_eq, decide_eq_true_eq, not_or, Nat.not_lt] at hplain
    exact (ih h).cons [c] (.plain hplain.1 hquote hplain.2)
  | case1 | case3 | case4 | case6 | case8 | case9 | case11 | case13 => cases h

/-! ### What is written for a text -/

/-- The four digits of a control character are read as its number. -/
theorem hexWord?_hexDigit {n : Nat} (h : n < 0x20) :
    hexWord? '0' '0' (hexDigit (n / 16)) (hexDigit (n % 16)) = some n := by
  revert n
  decide

/-- A character as it stands in a string denotes that character. -/
theorem Denotes.escapeChar (c : Char) {literal text : List Char} (h : Denotes literal text) :
    Denotes (escapeChar c ++ literal) (c :: text) := by
  unfold Json.escapeChar
  by_cases hquote : c = '"'
  · -- a quote would end the text, so there is a backslash before it
    subst hquote
    exact .escape rfl h
  by_cases hbackslash : c = '\\'
  · -- a backslash is doubled
    subst hbackslash
    exact .escape rfl h
  rw [if_neg hquote, if_neg hbackslash]
  by_cases hcontrol : c.toNat ≥ 0x20
  · -- any other character that is no control character stands for itself
    rw [if_pos hcontrol]
    exact .plain hcontrol hquote hbackslash h
  rw [if_neg hcontrol]
  -- the control characters: five have names, the others are written by their numbers
  split
  · next hnamed =>
    obtain rfl : c = '\x08' := Char.toNat_inj.1 hnamed
    exact .escape rfl h
  split
  · next hnamed =>
    obtain rfl : c = '\x0c' := Char.toNat_inj.1 hnamed
    exact .escape rfl h
  split
  · next hnamed => subst hnamed; exact .escape rfl h
  split
  · next hnamed => subst hnamed; exact .escape rfl h
  split
  · next hnamed => subst hnamed; exact .escape rfl h
  · -- the number of a control character is no half of another character
    have hsmall : c.toNat < 0x20 := Nat.lt_of_not_le hcontrol
    have hwhole : isSurrogate c.toNat = false := by
      rw [Bool.eq_false_iff, ne_eq, isSurrogate_iff]
      omega
    have hnumber := h.number (hexWord?_hexDigit hsmall) hwhole
    rwa [Char.ofNat_toNat] at hnumber

/-- **What is written for a text denotes it.** -/
theorem denotes_escaped (text : List Char) : Denotes (text.flatMap escapeChar) text := by
  induction text with
  | nil => exact .nil
  | cons c text ih =>
    rw [List.flatMap_cons]
    exact ih.escapeChar c

/-- A string that was written is read back, up to its closing quote. -/
theorem readStringFrom_quoted (text : String) (rest : List Char) :
    readStringFrom [] ((text.toList.flatMap escapeChar ++ ['"']) ++ rest) = .ok (text, rest) := by
  rw [List.append_assoc, List.singleton_append, (denotes_escaped text.toList).readStringFrom,
    List.reverse_nil, List.nil_append, String.ofList_toList]

/-- A text begins with one written string at most. -/
theorem quoted_append_inj {a b : String} {x y : List Char} (h : quoted a ++ x = quoted b ++ y) :
    a = b ∧ x = y := by
  have hrest : (a.toList.flatMap escapeChar ++ ['"']) ++ x
      = (b.toList.flatMap escapeChar ++ ['"']) ++ y := List.tail_eq_of_cons_eq h
  have heq : (Except.ok (a, x) : Except ReadError (String × List Char)) = .ok (b, y) := by
    rw [← readStringFrom_quoted a x, ← readStringFrom_quoted b y, hrest]
  exact Prod.mk.inj (Except.ok.inj heq)

end SchemaBuild.Json
