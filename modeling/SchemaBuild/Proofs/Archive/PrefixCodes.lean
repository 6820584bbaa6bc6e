import SchemaBuild.Proofs.Archive.Decoding

/-!
# Reading prefix codes

A code is kept as the number of words of each length and the symbols in the order of their words, and
a word is read bit by bit, with the least word of each length kept up on the way. That comes to the
symbol whose word it is: `Code.decode_takes`.

* `symbolsOf_getElem?` — the symbols of one length stand in their order;
* `Code.ofLengths?_eq_some` — lengths that make a code are accepted;
* `Code.decode_takes` — reading a word.
-/

namespace SchemaBuild.Inflate

open Deflate

variable {lengths : List Nat} {length symbol : Nat}

/-! ### Symbols of one length -/

theorem symbolsOf_length (lengths : List Nat) (length : Nat) :
    (symbolsOf lengths length).length = lengths.count length := by
  have hfirst : ∀ (pair : Nat × Nat), decide (pair.1 = length) = ((· == length) ∘ Prod.fst) pair :=
    fun _ => rfl
  rw [symbolsOf, List.length_map, ← List.countP_eq_length_filter, funext hfirst,
    ← List.countP_map, List.zipIdx_map_fst]
  rfl

/-- The symbols before a symbol with words of its length are counted. -/
theorem symbolsOf_getElem? (h : lengths[symbol]? = some length) :
    (symbolsOf lengths length)[(lengths.take symbol).count length]? = some symbol := by
  -- from any start, since the symbols behind the first one do not count from zero
  have hfrom : ∀ (lengths : List Nat) (start symbol : Nat), lengths[symbol]? = some length →
      (((lengths.zipIdx start).filter (·.1 = length)).map (·.2))[(lengths.take symbol).count length]?
        = some (start + symbol) := by
    intro lengths
    induction lengths with
    | nil =>
      intro start symbol h
      cases h
    | cons first lengths ih =>
      intro start symbol h
      rw [List.zipIdx_cons, List.filter_cons]
      cases symbol with
      | zero =>
        obtain rfl : first = length := by simpa using h
        simp
      | succ symbol =>
        have hrest := ih (start + 1) symbol (by simpa using h)
        rw [List.take_succ_cons, List.count_cons]
        by_cases hfirst : first = length
        · simp only [hfirst, decide_true, if_true, List.map_cons, beq_self_eq_true,
            List.getElem?_cons_succ]
          rw [hrest, Nat.add_assoc, Nat.add_comm 1]
        · simp only [hfirst, decide_false, Bool.false_eq_true, if_false, beq_iff_eq, Nat.add_zero]
          rw [hrest, Nat.add_assoc, Nat.add_comm 1]
  have hall := hfrom lengths 0 symbol h
  rwa [Nat.zero_add] at hall

theorem count_take_lt (h : lengths[symbol]? = some length) :
    (lengths.take symbol).count length < lengths.count length := by
  obtain ⟨hlt, -⟩ := List.getElem?_eq_some_iff.mp (symbolsOf_getElem? h)
  rwa [symbolsOf_length] at hlt

/-- The symbols, apart by the lengths of their words, which are one bit and more. -/
def classes (lengths : List Nat) : List (List Nat) :=
  (List.range maxLength).map fun n => symbolsOf lengths (n + 1)

/-- How many words are shorter than `n + 1` bits. -/
def below (lengths : List Nat) (n : Nat) : Nat := ((classes lengths).take n).flatten.length

theorem classes_getElem? (lengths : List Nat) {n : Nat} (h : n < 15) :
    (classes lengths)[n]? = some (symbolsOf lengths (n + 1)) := by
  have hrange : (List.range maxLength)[n]? = some n := List.getElem?_range h
  rw [classes, List.getElem?_map, hrange]
  rfl

theorem below_succ {n : Nat} (h : n < 15) :
    below lengths (n + 1) = below lengths n + lengths.count (n + 1) := by
  rw [below, List.take_add_one, classes_getElem? lengths h, List.flatten_append, List.length_append]
  simp [below, symbolsOf_length]

/-- The symbols of a length stand behind those of all shorter lengths. -/
theorem flatten_getElem? {n k : Nat} (hn : n < 15) (hk : k < lengths.count (n + 1)) :
    (classes lengths).flatten[below lengths n + k]? = (symbolsOf lengths (n + 1))[k]? := by
  obtain ⟨hlt, hget⟩ := List.getElem?_eq_some_iff.mp (classes_getElem? lengths hn)
  -- all shorter words, those of the length, and all longer ones
  have hsplit : (classes lengths).flatten = ((classes lengths).take n).flatten
      ++ (symbolsOf lengths (n + 1) ++ ((classes lengths).drop (n + 1)).flatten) := by
    rw [← hget, ← List.flatten_cons, ← List.flatten_append, ← List.drop_eq_getElem_cons hlt,
      List.take_append_drop]
  rw [hsplit, below, List.getElem?_append_right (Nat.le_add_right _ _), Nat.add_sub_cancel_left,
    List.getElem?_append_left (by rwa [symbolsOf_length])]

/-! ### Making a code -/

/-- With words of a length taken off, what is left over is what the words so far do not fill. -/
theorem unused?_eq (h : IsCode lengths) {n more : Nat} (hmore : n + more = 15) :
    unused? (2 ^ n - (firstWord lengths n + wordCount lengths n))
        ((List.range' n more).map fun n => lengths.count (n + 1))
      = some (2 ^ 15 - (firstWord lengths 15 + wordCount lengths 15)) := by
  induction more generalizing n with
  | zero =>
    obtain rfl : n = 15 := hmore
    rfl
  | succ more ih =>
    -- neither subtraction is cut off at zero, since the words fit in their bits
    have hnow := h.word_le (show n ≤ 15 by omega)
    have hnext := h.word_le (show n + 1 ≤ 15 by omega)
    have hrest := ih (show n + 1 + more = 15 by omega)
    rw [firstWord, wordCount, Nat.pow_succ] at hnext hrest
    rw [List.range'_succ, List.map_cons, unused?, if_neg (by omega)]
    rw [← hrest]
    congr 1
    omega

/-- If all words have one bit then they are all the symbols there are. -/
theorem flatten_length_of_short (h : ∀ length ∈ lengths, length ≤ 1) :
    (classes lengths).flatten.length = lengths.count 1 := by
  have hbelow : ∀ n < 15, below lengths (n + 1) = lengths.count 1 := by
    intro n hn
    induction n with
    | zero => rw [below_succ hn, below, List.take_zero, List.flatten_nil, List.length_nil, Nat.zero_add]
    | succ n ih =>
      have hnone : lengths.count (n + 1 + 1) = 0 := by
        rw [List.count_eq_zero]
        intro hmem
        have hle := h _ hmem
        omega
      rw [below_succ hn, ih (by omega), hnone, Nat.add_zero]
  -- there are no longer words than those of fifteen bits
  have hall : (classes lengths).take 15 = classes lengths := by
    apply List.take_of_length_le
    rw [classes, List.length_map, List.length_range]
    exact Nat.le_refl 15
  rw [← hbelow 14 (by decide), below, hall]

/-- **Lengths that make a code** are accepted. -/
theorem Code.ofLengths?_eq_some (h : IsCode lengths) : Code.ofLengths? lengths = some
    ⟨((classes lengths).map List.length).toArray, (classes lengths).flatten.toArray⟩ := by
  have hcounts : (classes lengths).map List.length
      = (List.range' 0 15).map fun n => lengths.count (n + 1) := by
    rw [classes, List.map_map, ← List.range_eq_range']
    exact List.map_congr_left fun n _ => symbolsOf_length lengths (n + 1)
  have hunused : unused? 1 ((classes lengths).map List.length)
      = some (2 ^ 15 - (firstWord lengths 15 + wordCount lengths 15)) := by
    rw [hcounts]
    exact unused?_eq h (Nat.zero_add 15)
  have hfine : ¬(decide (2 ^ 15 - (firstWord lengths 15 + wordCount lengths 15) ≠ 0)
      && decide ((classes lengths).flatten.length > 1)) = true := by
    rw [← sum_eq_firstWord]
    obtain hfull | ⟨hshort, hone⟩ := h.full
    · rw [hfull]
      simp
    · -- there are words of one bit only, so there is at most one of them
      have hsingle := flatten_length_of_short hshort
      simp only [hsingle, Bool.and_eq_true, decide_eq_true_eq, not_and, gt_iff_lt, Nat.not_lt]
      exact fun _ => hone
  rw [Code.ofLengths?, ← classes, hunused]
  exact if_neg hfine

/-! ### Reading a word -/

section Reading

variable {code : Code} {position : Nat} {written : Bytes}

/-- The bits of a number that are read so far, and one more. -/
theorem double_add_testBit (value more : Nat) :
    2 * (value / 2 ^ (more + 1)) + (value.testBit more).toNat = value / 2 ^ more := by
  have hbit : (value.testBit more).toNat = value / 2 ^ more % 2 := by
    rw [← testBit_zero_toNat, ← Nat.shiftRight_eq_div_pow, Nat.testBit_shiftRight, Nat.add_zero]
  rw [hbit, Nat.pow_succ, ← Nat.div_div_eq_div_mul]
  omega

theorem Code.counts_getD (h : IsCode lengths) (hcode : Code.ofLengths? lengths = some code) {n : Nat}
    (hn : n < 15) : code.counts[n]?.getD 0 = lengths.count (n + 1) := by
  rw [Code.ofLengths?_eq_some h] at hcode
  obtain rfl := Option.some.inj hcode
  rw [List.getElem?_toArray, List.getElem?_map, classes_getElem? lengths hn, Option.map_some,
    Option.getD_some, symbolsOf_length]

theorem Code.symbols_getElem? (h : IsCode lengths) (hcode : Code.ofLengths? lengths = some code)
    {n : Nat} (hn : n < 15) (hsymbol : lengths[symbol]? = some (n + 1)) :
    code.symbols[below lengths n + (lengths.take symbol).count (n + 1)]? = some symbol := by
  rw [Code.ofLengths?_eq_some h] at hcode
  obtain rfl := Option.some.inj hcode
  rw [List.getElem?_toArray, flatten_getElem? hn (count_take_lt hsymbol)]
  exact symbolsOf_getElem? hsymbol

/-- The rest of a word, with `n` bits of it read: so far they are no word of their own, since the
words of `n` bits come before all longer words. -/
theorem decodeFrom_takes (h : IsCode lengths) (hcode : Code.ofLengths? lengths = some code)
    (hsymbol : lengths[symbol]? = some length) {value : Nat}
    (hvalue : value = firstWord lengths length + (lengths.take symbol).count length)
    {n more fuel : Nat} (hmore : n + (more + 1) = length) (hfuel : more + 1 ≤ fuel) :
    Decoder.Takes (code.decodeFrom fuel n (2 * (value / 2 ^ (more + 1))) (firstWord lengths (n + 1))
      (below lengths n)) position (highFirst (more + 1) value) symbol written written := by
  have hlength : length ≤ 15 := h.length_le length (List.mem_of_getElem? hsymbol)
  have hrank := count_take_lt hsymbol
  obtain ⟨fuel, rfl⟩ : ∃ less, fuel = less + 1 := Nat.exists_eq_succ_of_ne_zero (by omega)
  induction more generalizing n fuel position with
  | zero =>
    obtain rfl : n + 1 = length := hmore
    -- the word is read, and it is one of the words of this length
    have hword : 2 * (value / 2 ^ (0 + 1)) + (value.testBit 0).toNat = value := by
      rw [double_add_testBit, Nat.pow_zero, Nat.div_one]
    have hplace : value - firstWord lengths (n + 1) = (lengths.take symbol).count (n + 1) := by
      omega
    refine .bind (takeBit_takes (value.testBit 0)) ?_
    dsimp only
    rw [hword, Code.counts_getD h hcode (by omega), if_pos (by omega), hplace,
      Code.symbols_getElem? h hcode (by omega) hsymbol]
    exact .pure symbol
  | succ more ih =>
    obtain ⟨fuel, rfl⟩ : ∃ less, fuel = less + 1 := Nat.exists_eq_succ_of_ne_zero (by omega)
    have hword := double_add_testBit value (more + 1)
    -- the words of this length do not reach as far as the longer ones
    have hlonger : firstWord lengths (n + 1) + lengths.count (n + 1) ≤ value / 2 ^ (more + 1) := by
      rw [Nat.le_div_iff_mul_le (Nat.two_pow_pos _)]
      calc (firstWord lengths (n + 1) + lengths.count (n + 1)) * 2 ^ (more + 1)
          ≤ firstWord lengths (n + 1 + (more + 1)) := firstWord_le lengths (n + 1) more
        _ = firstWord lengths length := by
          congr 1
          omega
        _ ≤ value := by omega
    -- so the search goes on with the words of one bit more
    have hnext : 2 * (firstWord lengths (n + 1) + lengths.count (n + 1))
        = firstWord lengths (n + 1 + 1) := rfl
    refine .bind (takeBit_takes (value.testBit (more + 1))) ?_
    dsimp only
    rw [hword, Code.counts_getD h hcode (by omega), if_neg (Nat.not_lt.mpr hlonger), hnext,
      ← below_succ (by omega)]
    exact ih (by omega) fuel (by omega)

/-- **The word of a symbol** is read as the symbol. -/
theorem Code.decode_takes (h : IsCode lengths) (hcode : Code.ofLengths? lengths = some code)
    {word : List Bool} (hword : IsWord lengths symbol word) :
    Decoder.Takes code.decode position word symbol written written := by
  obtain ⟨length, hpositive, hsymbol, rfl⟩ := hword
  have hlength : length ≤ 15 := h.length_le length (List.mem_of_getElem? hsymbol)
  obtain ⟨more, rfl⟩ : ∃ more, length = more + 1 := Nat.exists_eq_succ_of_ne_zero hpositive
  have hrank := count_take_lt hsymbol
  -- before the first bit nothing is read of the number
  have hnone : (firstWord lengths (more + 1) + (lengths.take symbol).count (more + 1))
      / 2 ^ (more + 1) = 0 := by
    have hfits := h.word_le hlength
    rw [wordCount] at hfits
    exact Nat.div_eq_of_lt (by omega)
  have hall : Decoder.Takes (code.decodeFrom maxLength 0 (2 * (_ / 2 ^ (more + 1)))
      (firstWord lengths 1) (below lengths 0)) position (highFirst (more + 1) _) symbol written
      written :=
    decodeFrom_takes h hcode hsymbol rfl (Nat.zero_add (more + 1)) hlength
  rw [hnone] at hall
  exact hall

end Reading

end SchemaBuild.Inflate
