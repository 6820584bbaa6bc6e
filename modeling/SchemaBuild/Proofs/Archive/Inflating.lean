import SchemaBuild.Proofs.Archive.PrefixCodes

/-!
# Inflating what was deflated

The decoder takes the compressed form of a content block by block, and what it has written in the end
is the content. Where the compressed form ends it stops, whatever stands behind: `inflate_deflated`.

* `inflateSymbols_takes` — literals and repetitions;
* `takeLengths_takes`, `takeCodes_takes` — the codes that a block brings along;
* `inflateBlocks_takes` — blocks.
-/

namespace SchemaBuild.Inflate

open Deflate

variable {position : Nat} {written after : Bytes} {bits : List Bool}

/-! ### Literals and repetitions -/

section Symbols

variable {literals distances : List Nat} {literalCode distanceCode : Code}

/-- **Literals and repetitions** are written as they are read; every symbol has a bit, so there is
fuel enough for all of them. -/
theorem inflateSymbols_takes (hliterals : IsCode literals) (hdistances : IsCode distances)
    (hliteralCode : Code.ofLengths? literals = some literalCode)
    (hdistanceCode : Code.ofLengths? distances = some distanceCode)
    (h : Symbols literals distances written bits after) {fuel : Nat} (hfuel : bits.length ≤ fuel) :
    Decoder.Takes (inflateSymbols literalCode distanceCode fuel) position bits () written after := by
  induction h generalizing fuel position with
  | @stop written word isWord =>
    have hpositive := isWord.length_pos
    obtain ⟨fuel, rfl⟩ : ∃ less, fuel = less + 1 := Nat.exists_eq_succ_of_ne_zero (by omega)
    exact .bind_last (Code.decode_takes hliterals hliteralCode isWord) (.pure ())
  | @literal written after word bits b isWord behind ih =>
    have hpositive := isWord.length_pos
    rw [List.length_append] at hfuel
    obtain ⟨fuel, rfl⟩ : ∃ less, fuel = less + 1 := Nat.exists_eq_succ_of_ne_zero (by omega)
    refine .bind (Code.decode_takes hliterals hliteralCode isWord) ?_
    rw [if_pos b.toNat_lt, UInt8.ofNat_toNat]
    exact .bind_nil (emit_takes b) (ih (by omega))
  | @repetition written copied after lengthWord lengthMore distanceWord distanceMore bits
      lengthSymbol length distanceSymbol distance isLengthWord isLength isDistanceWord isDistance
      repeats behind ih =>
    have hpositive := isLengthWord.length_pos
    simp only [List.length_append] at hfuel
    obtain ⟨fuel, rfl⟩ : ∃ less, fuel = less + 1 := Nat.exists_eq_succ_of_ne_zero (by omega)
    refine .bind (Code.decode_takes hliterals hliteralCode isLengthWord) ?_
    -- the symbol is neither a literal nor the end, and stands for a length
    rw [if_neg (by omega), if_neg (by omega), Nat.add_sub_cancel_left]
    refine .bind (takeFrom_takes isLength) ?_
    refine .bind (Code.decode_takes hdistances hdistanceCode isDistanceWord) ?_
    refine .bind (takeFrom_takes isDistance) ?_
    exact .bind_nil (copyBack_takes repeats) (ih (by omega))

end Symbols

/-! ### Codes -/

section Codes

theorem codeOf_takes {lengths : List Nat} {code : Code} (h : Code.ofLengths? lengths = some code) :
    Decoder.Takes (codeOf lengths) position [] code written written := by
  rw [codeOf, h]
  exact .pure code

theorem takeOrdered_takes {ordered : List Nat} (h : ∀ length ∈ ordered, length < 8) :
    Decoder.Takes (takeOrdered ordered.length) position (ordered.flatMap (lowFirst 3)) ordered
      written written := by
  induction ordered generalizing position with
  | nil => exact .pure []
  | cons length ordered ih =>
    obtain ⟨hfirst, hrest⟩ := List.forall_mem_cons.mp h
    exact .bind (takeBits_takes hfirst) ((ih hrest).map (length :: ·))

/-- Lengths given in order are found by their places in it. -/
theorem lookup_zip {keys values : List Nat} (h : values.length ≤ keys.length) (key : Nat) :
    (keys.zip values).lookup key = values[keys.idxOf key]? := by
  induction keys generalizing values with
  | nil =>
    obtain rfl := List.length_eq_zero_iff.mp (Nat.le_zero.mp h)
    rfl
  | cons first keys ih =>
    cases values with
    | nil => rfl
    | cons value values =>
      rw [List.zip_cons_cons, List.lookup_cons, List.idxOf_cons]
      have hrest := ih (Nat.le_of_succ_le_succ h)
      -- the value of the first key that fits, which is where the key stands first
      by_cases hkey : key = first
      · simp [hkey]
      · have hsame : (key == first) = false := beq_false_of_ne hkey
        have hother : (first == key) = false := beq_false_of_ne (Ne.symm hkey)
        rw [hsame, hother]
        exact hrest

theorem placed_eq {ordered : List Nat} (h : ordered.length ≤ 19) :
    (List.range 19).map (fun symbol => ((lengthOrder.zip ordered).lookup symbol).getD 0)
      = placed ordered := by
  refine List.map_congr_left fun symbol _ => ?_
  rw [lookup_zip h, List.getD_eq_getElem?_getD]

variable {lengths done all : List Nat} {code : Code}

/-- What a word that has been read adds to the lengths, and the words behind it. -/
def addLengths (code : Code) (total fuel : Nat) (done : List Nat) (symbol : Nat) :
    Decoder (List Nat) :=
  if symbol < 16 then takeLengths code total fuel (symbol :: done)
  else if symbol = 16 then
    match done with
    | [] => throw .corrupt
    | last :: _ => do
      let more ← takeBits 2
      takeLengths code total fuel (List.replicate (3 + more) last ++ done)
  else if symbol = 17 then do
    let more ← takeBits 3
    takeLengths code total fuel (List.replicate (3 + more) 0 ++ done)
  else do
    let more ← takeBits 7
    takeLengths code total fuel (List.replicate (11 + more) 0 ++ done)

/-- Before all lengths are there, the next word is read. -/
theorem takeLengths_of_lt {total fuel : Nat} (h : done.length < total) :
    takeLengths code total (fuel + 1) done = code.decode >>= addLengths code total fuel done := by
  rw [takeLengths.eq_def]
  dsimp only
  exact (if_neg (Nat.ne_of_lt h)).trans (if_neg (Nat.lt_asymm h))

theorem reverse_append_replicate (done : List Nat) (count length : Nat) :
    (done ++ List.replicate count length).reverse = List.replicate count length ++ done.reverse := by
  rw [List.reverse_append, List.reverse_replicate]

/-- A word that adds lengths is read, and one unit of fuel is left for each of the others. -/
theorem takeLengths_takes_word (hlengths : IsCode lengths)
    (hcode : Code.ofLengths? lengths = some code) {symbol : Nat} {word more : List Bool}
    (isWord : IsWord lengths symbol word) {added : List Nat} (hadded : added ≠ [])
    (behind : Lengths lengths (done ++ added) bits all) {fuel : Nat}
    (hfuel : all.length < done.length + fuel)
    (hadds : ∀ less, all.length < (done ++ added).length + less → ∀ position,
      Decoder.Takes (addLengths code all.length less done.reverse symbol) position more all written
        written) :
    Decoder.Takes (takeLengths code all.length fuel done.reverse) position (word ++ more) all
      written written := by
  have hnext := behind.length_le
  have hsome := List.length_pos_iff.mpr hadded
  rw [List.length_append] at hnext hadds
  obtain ⟨less, rfl⟩ : ∃ less, fuel = less + 1 := Nat.exists_eq_succ_of_ne_zero (by omega)
  rw [takeLengths_of_lt (by rw [List.length_reverse]; omega)]
  exact .bind (Code.decode_takes hlengths hcode isWord) (hadds less (by omega) _)

/-- **Lengths in a code** are read one after the other; every word adds one at least, so there is
fuel enough for all of them. -/
theorem takeLengths_takes (hlengths : IsCode lengths) (hcode : Code.ofLengths? lengths = some code)
    (h : Lengths lengths done bits all) {fuel : Nat} (hfuel : all.length < done.length + fuel) :
    Decoder.Takes (takeLengths code all.length fuel done.reverse) position bits all written
      written := by
  induction h generalizing fuel position with
  | @stop all =>
    obtain ⟨fuel, rfl⟩ : ∃ less, fuel = less + 1 := Nat.exists_eq_succ_of_ne_zero (by omega)
    rw [takeLengths.eq_def]
    dsimp only
    rw [if_pos List.length_reverse, List.reverse_reverse]
    exact .pure all
  | @single done all word bits length small isWord behind ih =>
    refine takeLengths_takes_word hlengths hcode isWord (List.cons_ne_nil _ _) behind hfuel
      fun less hless position => ?_
    rw [addLengths.eq_def, if_pos small]
    have hreverse : (done ++ [length]).reverse = length :: done.reverse := List.reverse_concat
    rw [← hreverse]
    exact ih hless
  | @previous done all word bits last more small isWord behind ih =>
    refine takeLengths_takes_word hlengths hcode isWord (by simp) behind hfuel
      fun less hless position => ?_
    -- the last length so far is the first one of the list, which stands in reverse
    have hlast : (done ++ [last]).reverse = last :: done.reverse := List.reverse_concat
    rw [addLengths.eq_def, if_neg (by decide), if_pos rfl, hlast]
    refine .bind (takeBits_takes small) ?_
    rw [← hlast, ← reverse_append_replicate]
    exact ih hless
  | @zeros done all word bits more small isWord behind ih =>
    refine takeLengths_takes_word hlengths hcode isWord (by simp) behind hfuel
      fun less hless position => ?_
    rw [addLengths.eq_def, if_neg (by decide), if_neg (by decide), if_pos rfl]
    refine .bind (takeBits_takes small) ?_
    rw [← reverse_append_replicate]
    exact ih hless
  | @manyZeros done all word bits more small isWord behind ih =>
    refine takeLengths_takes_word hlengths hcode isWord (by simp) behind hfuel
      fun less hless position => ?_
    rw [addLengths.eq_def, if_neg (by decide), if_neg (by decide), if_neg (by decide)]
    refine .bind (takeBits_takes small) ?_
    rw [← reverse_append_replicate]
    exact ih hless

/-- **The two codes** of a block are made of the lengths that it gives. -/
theorem takeCodes_takes {literals distances : List Nat} (h : Codes literals distances bits) :
    ∃ literalCode distanceCode, Code.ofLengths? literals = some literalCode ∧
      Code.ofLengths? distances = some distanceCode ∧
      ∀ (position : Nat) (written : Bytes), Decoder.Takes takeCodes position bits
        (literalCode, distanceCode) written written := by
  cases h with
  | @mk ordered bits hliterals hdistances hordered hsmall hcode hliteralCode hdistanceCode
      hlengths =>
    refine ⟨_, _, Code.ofLengths?_eq_some hliteralCode, Code.ofLengths?_eq_some hdistanceCode, ?_⟩
    intro position written
    refine .bind (takeBits_takes (show _ < 2 ^ 5 by omega)) ?_
    refine .bind (takeBits_takes (show _ < 2 ^ 5 by omega)) ?_
    refine .bind (takeBits_takes (show _ < 2 ^ 4 by omega)) ?_
    dsimp only
    rw [Nat.sub_add_cancel hliterals.1, Nat.sub_add_cancel hdistances.1,
      Nat.sub_add_cancel hordered.1]
    refine .bind (takeOrdered_takes hsmall) ?_
    rw [placed_eq hordered.2]
    refine .bind_nil (codeOf_takes (Code.ofLengths?_eq_some hcode)) ?_
    -- the lengths of both codes are given in one row
    rw [← List.length_append]
    refine .bind_last (takeLengths_takes hcode (Code.ofLengths?_eq_some hcode) hlengths (by simp)) ?_
    rw [List.take_left, List.drop_left]
    refine .bind_nil (codeOf_takes (Code.ofLengths?_eq_some hliteralCode)) ?_
    exact .bind_nil (codeOf_takes (Code.ofLengths?_eq_some hdistanceCode)) (.pure _)

end Codes

/-! ### Blocks -/

/-- What the decoder does with a block, and then with what is behind it. -/
def inflateBlock (symbolFuel : Nat) (next : Decoder Unit) : Decoder Unit := do
  let kind ← takeBits 2
  match kind with
  | 0 => do
    inflateStored
    next
  | 1 => do
    let literals ← codeOf fixedLengths
    let distances ← codeOf (List.replicate 32 5)
    inflateSymbols literals distances symbolFuel
    next
  | 2 => do
    let (literals, distances) ← takeCodes
    inflateSymbols literals distances symbolFuel
    next
  | _ => do
    let stopped ← throw .corrupt
    (fun (_ : Unit) => next) stopped

theorem inflateBlocks_succ (symbolFuel fuel : Nat) : inflateBlocks symbolFuel (fuel + 1) = (do
    let last ← takeBit
    inflateBlock symbolFuel (if last = 1 then return () else inflateBlocks symbolFuel fuel)) :=
  rfl

section Blocks

variable {symbolFuel : Nat}

theorem isCode_fixedLengths : IsCode fixedLengths where
  length_le := by
    intro length hmem
    simp only [fixedLengths, List.mem_append, List.mem_replicate] at hmem
    omega
  full := by
    simp only [fixedLengths, List.count_append, List.count_replicate]
    decide

theorem isCode_fixedDistances : IsCode fixedDistances where
  length_le := by
    intro length hmem
    have hlength := List.eq_of_mem_replicate hmem
    omega
  full := by
    simp only [fixedDistances, List.count_replicate]
    decide

/-- **A block** of each of the three kinds, and then what is behind it. -/
theorem inflateBlock_takes {next : Decoder Unit} {more : List Bool} {final : Bytes}
    (h : Block position written bits after) (hfuel : bits.length ≤ symbolFuel)
    (hnext : Decoder.Takes next (position + bits.length) more () after final) :
    Decoder.Takes (inflateBlock symbolFuel next) position (bits ++ more) () written final := by
  -- two bits tell the kind, and then the parts of the block are taken one after the other
  cases h with
  | @stored data filler small aligned short =>
    rw [List.append_assoc]
    rw [List.length_append, ← Nat.add_assoc] at hnext
    refine .bind (takeBits_takes (show 0 < 2 ^ 2 by decide)) ?_
    exact .bind (inflateStored_takes small aligned short) hnext
  | @fixed after bits symbols =>
    rw [List.append_assoc]
    rw [List.length_append] at hfuel
    rw [List.length_append, ← Nat.add_assoc] at hnext
    refine .bind (takeBits_takes (show 1 < 2 ^ 2 by decide)) ?_
    refine .bind_nil (codeOf_takes (Code.ofLengths?_eq_some isCode_fixedLengths)) ?_
    refine .bind_nil (codeOf_takes (Code.ofLengths?_eq_some isCode_fixedDistances)) ?_
    exact .bind (inflateSymbols_takes isCode_fixedLengths isCode_fixedDistances
      (Code.ofLengths?_eq_some isCode_fixedLengths) (Code.ofLengths?_eq_some isCode_fixedDistances)
      symbols (by omega)) hnext
  | @dynamic after literals distances codeBits bits codes symbols =>
    obtain ⟨literalCode, distanceCode, hliteralCode, hdistanceCode, hcodes⟩ := takeCodes_takes codes
    rw [List.append_assoc, List.append_assoc]
    rw [List.length_append, List.length_append] at hfuel
    rw [List.length_append, List.length_append, ← Nat.add_assoc, ← Nat.add_assoc] at hnext
    refine .bind (takeBits_takes (show 2 < 2 ^ 2 by decide)) ?_
    refine .bind (hcodes _ _) ?_
    exact .bind (inflateSymbols_takes codes.isCode.1 codes.isCode.2 hliteralCode hdistanceCode
      symbols (by omega)) hnext

/-- **Blocks** are taken one after the other, and every one has a bit at least. -/
theorem inflateBlocks_takes (h : Blocks position written bits after)
    (hsymbols : bits.length ≤ symbolFuel) {fuel : Nat} (hfuel : bits.length ≤ fuel) :
    Decoder.Takes (inflateBlocks symbolFuel fuel) position bits () written after := by
  induction h generalizing fuel with
  | @last position written after bits block =>
    rw [List.length_cons] at hsymbols hfuel
    obtain ⟨fuel, rfl⟩ : ∃ less, fuel = less + 1 := Nat.exists_eq_succ_of_ne_zero (by omega)
    -- the last block is one with nothing behind it
    have hblock : Decoder.Takes (inflateBlock symbolFuel (return ())) (position + 1) (bits ++ []) ()
        written after := inflateBlock_takes block (by omega) (.pure ())
    rw [List.append_nil] at hblock
    rw [inflateBlocks_succ]
    exact .bind (takeBit_takes true) hblock
  | @more position written between after bits rest block behind ih =>
    rw [List.length_cons, List.length_append] at hsymbols hfuel
    obtain ⟨fuel, rfl⟩ : ∃ less, fuel = less + 1 := Nat.exists_eq_succ_of_ne_zero (by omega)
    have hbehind : Decoder.Takes (inflateBlocks symbolFuel fuel) (position + 1 + bits.length) rest ()
        between after := ih (by omega) (by omega)
    have hblock := inflateBlock_takes block (show bits.length ≤ symbolFuel by omega) hbehind
    rw [inflateBlocks_succ]
    exact .bind (takeBit_takes false) hblock

end Blocks

/-- **What was deflated is inflated**, whatever stands behind it. -/
theorem inflate_deflated {data content : Bytes} (h : IsDeflated data content) (rest : Bytes)
    (position : Nat) : inflate (data ++ rest) position = ⟨content, some rest⟩ := by
  obtain ⟨bits, filler, hbits, hsmall, hblocks⟩ := h
  have hlength : bits.length + filler.length = 8 * data.length := by
    rw [← List.length_append, ← hbits, bitsOf_length]
  -- the decoder begins with nothing in hand, and all the bits are pending
  let start : State :=
    { input := data ++ rest, consumed := position, bits := 0, bitCount := 0, output := #[],
      delivered := 0 }
  have hat : start.At 0 (bits ++ (filler ++ bitsOf rest)) [] := by
    refine ⟨?_, rfl, Nat.zero_lt_succ 7, rfl⟩
    show [] ++ bitsOf (data ++ rest) = _
    rw [List.nil_append, bitsOf_append, hbits, List.append_assoc]
  have hfuel : bits.length ≤ 8 * (data ++ rest).length + 1 := by
    rw [List.length_append]
    omega
  obtain ⟨last, hrun, hlast⟩ := inflateBlocks_takes hblocks hfuel hfuel start _ hat
  -- the filler is what is in hand, so the rest is the input that is left
  have hcount : last.bitCount = filler.length := by
    have haligned := hlast.aligned
    have hlt := hlast.bitCount_lt
    omega
  obtain ⟨-, hinput⟩ := List.append_inj hlast.pending (by rw [lowFirst_length, hcount])
  have hrest : last.input = rest := bitsOf_inj hinput
  rw [inflate, EStateM.run, hrun]
  dsimp only
  rw [hlast.output, hrest]

end SchemaBuild.Inflate
