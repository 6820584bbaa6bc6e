import SchemaBuild.Text.Utf8

/-!
# Text that was read is written the same

`Utf8.decode?_encode` says that text which was written can be read. Here is the other direction:
bytes that can be read are the bytes of the text that was read, all of them and no others. There is
one way to write a text, so that a reader which accepts a byte string has lost nothing of it.

* `encodeChar_of_next` — a character read off the front is written by the bytes that were read;
* `encode_of_decode?` — the text of a byte string is written by that byte string;
* `Bytes.toString?_eq_some_iff` — the same for strings, as an equivalence.
-/

namespace SchemaBuild.Utf8

/-! ### Bytes behind the first one -/

theorem isTail_iff {b : UInt8} : isTail b = true ↔ 0x80 ≤ b.toNat ∧ b.toNat ≤ 0xBF := by
  simp [isTail, UInt8.le_iff_toNat_le]

/-- A continuation byte is written for its own six bits. -/
theorem tailByte_eq {b : UInt8} {bits : Nat} (hb : isTail b = true)
    (hbits : bits % 0x40 = tailBits b) : tailByte bits = b := by
  obtain ⟨hlow, hhigh⟩ := isTail_iff.mp hb
  rw [← UInt8.toNat_inj, toNat_tailByte, hbits, tailBits]
  omega

/-- What may come second is a continuation byte. -/
theorem isTail_of_isSecond {first second : UInt8} (h : isSecond first second = true) :
    isTail second = true := by
  rw [isSecond_iff] at h
  rw [isTail_iff]
  obtain ⟨hlow, hhigh⟩ := h
  constructor
  · -- the lower bound is that of a continuation or a stricter one
    refine Nat.le_trans ?_ hlow
    split
    · omega
    · split <;> omega
  · -- so is the upper bound
    refine Nat.le_trans hhigh ?_
    split
    · omega
    · split <;> omega

theorem ofNat_eq {b : UInt8} {n : Nat} (h : n = b.toNat) : UInt8.ofNat n = b := by
  rw [h, UInt8.ofNat_toNat]

/-- The number of a character that is no surrogate. -/
theorem toNat_charOfNat {v : Nat} (h : v < 0xD800 ∨ (0xDFFF < v ∧ v < 0x110000)) :
    (Char.ofNat v).toNat = v := by
  have hvalid : v.isValidChar := h
  rw [Char.ofNat, dif_pos hvalid]
  rfl

theorem tailBits_lt (b : UInt8) : tailBits b < 0x40 := Nat.mod_lt _ (by decide)

/-! ### Characters of one to four bytes -/

section Lengths

variable {first b c d : UInt8}

theorem encodeChar_one (hfirst : first.toNat < 0x80) :
    encodeChar (Char.ofNat first.toNat) = [first] := by
  have hnat : (Char.ofNat first.toNat).toNat = first.toNat := toNat_charOfNat (by omega)
  simp only [encodeChar, hnat]
  rw [if_pos hfirst, ofNat_eq rfl]

theorem encodeChar_two (hlow : 0xC2 ≤ first.toNat) (hhigh : first.toNat < 0xE0)
    (hb : isTail b = true) :
    encodeChar (Char.ofNat ((first.toNat % 0x20) * 0x40 + tailBits b)) = [first, b] := by
  have hbits := tailBits_lt b
  generalize hv : (first.toNat % 0x20) * 0x40 + tailBits b = v
  have hnat : (Char.ofNat v).toNat = v := toNat_charOfNat (by omega)
  have hone : UInt8.ofNat (0xC0 + v / 0x40) = first := ofNat_eq (by omega)
  simp only [encodeChar, hnat]
  rw [if_neg (by omega), if_pos (by omega), hone, tailByte_eq hb (by omega)]

/-- The second byte keeps overlong forms and surrogates out. -/
theorem encodeChar_three (hlow : 0xE0 ≤ first.toNat) (hhigh : first.toNat < 0xF0)
    (hb : isSecond first b = true) (hc : isTail c = true) :
    encodeChar (Char.ofNat ((first.toNat % 0x10) * 0x1000 + tailBits b * 0x40 + tailBits c))
      = [first, b, c] := by
  have htail := isTail_of_isSecond hb
  obtain ⟨hblow, hbhigh⟩ := isTail_iff.mp htail
  have hbits : tailBits b = b.toNat - 0x80 := by
    rw [tailBits]
    omega
  have hcbits := tailBits_lt c
  have hrange : (first.toNat = 0xE0 → 0x20 ≤ tailBits b) ∧
      (first.toNat = 0xED → tailBits b < 0x20) := by
    rw [isSecond_iff] at hb
    constructor
    · intro hfirst
      rw [if_pos hfirst] at hb
      omega
    · intro hfirst
      rw [if_pos hfirst] at hb
      omega
  -- the one bound keeps the number out of the two-byte range, the other out of the surrogates
  obtain ⟨hover, hsurrogate⟩ := hrange
  generalize hv : (first.toNat % 0x10) * 0x1000 + tailBits b * 0x40 + tailBits c = v
  have hvalid : v < 0xD800 ∨ (0xDFFF < v ∧ v < 0x110000) := by omega
  have hone : UInt8.ofNat (0xE0 + v / 0x1000) = first := ofNat_eq (by omega)
  simp only [encodeChar, toNat_charOfNat hvalid]
  rw [if_neg (by omega), if_neg (by omega), if_pos (by omega), hone,
    tailByte_eq htail (by omega), tailByte_eq hc (by omega)]

/-- The second byte keeps overlong forms and numbers behind the last code point out. -/
theorem encodeChar_four (hlow : 0xF0 ≤ first.toNat) (hhigh : first.toNat < 0xF5)
    (hb : isSecond first b = true) (hc : isTail c = true) (hd : isTail d = true) :
    encodeChar (Char.ofNat ((first.toNat % 0x8) * 0x40000 + tailBits b * 0x1000
      + tailBits c * 0x40 + tailBits d)) = [first, b, c, d] := by
  have htail := isTail_of_isSecond hb
  obtain ⟨hblow, hbhigh⟩ := isTail_iff.mp htail
  have hbits : tailBits b = b.toNat - 0x80 := by
    rw [tailBits]
    omega
  have hcbits := tailBits_lt c
  have hdbits := tailBits_lt d
  have hrange : (first.toNat = 0xF0 → 0x10 ≤ tailBits b) ∧
      (first.toNat = 0xF4 → tailBits b < 0x10) := by
    rw [isSecond_iff] at hb
    constructor
    · intro hfirst
      rw [if_neg (by omega), if_pos hfirst] at hb
      omega
    · intro hfirst
      rw [if_neg (by omega), if_neg (by omega), if_neg (by omega), if_pos hfirst] at hb
      omega
  -- the one bound keeps the number out of the three-byte range, the other below the end
  obtain ⟨hover, hlast⟩ := hrange
  generalize hv : (first.toNat % 0x8) * 0x40000 + tailBits b * 0x1000 + tailBits c * 0x40
    + tailBits d = v
  have hvalid : v < 0xD800 ∨ (0xDFFF < v ∧ v < 0x110000) := by omega
  have hone : UInt8.ofNat (0xF0 + v / 0x40000) = first := ofNat_eq (by omega)
  simp only [encodeChar, toNat_charOfNat hvalid]
  rw [if_neg (by omega), if_neg (by omega), if_neg (by omega), hone,
    tailByte_eq htail (by omega), tailByte_eq hc (by omega), tailByte_eq hd (by omega)]

end Lengths

/-! ### Whole texts -/

/-- **A character that was read** off the front is written by the bytes that were read. -/
theorem encodeChar_of_next {first : UInt8} {rest tail : Bytes} {c : Char}
    (h : next first rest = .char c tail) : first :: rest = encodeChar c ++ tail := by
  unfold next at h
  simp only [UInt8.lt_iff_toNat_lt, UInt8.reduceToNat] at h
  -- the first byte says how many bytes there are; the other ways through give no character
  split at h
  · next hone =>
    -- one byte
    cases h
    rw [encodeChar_one hone]
    rfl
  split at h
  · -- a continuation, or a byte that begins no character
    cases h
  next hlow =>
  split at h
  · next htwo =>
    -- two bytes
    split at h
    · split at h
      · next hb =>
        cases h
        rw [encodeChar_two (Nat.not_lt.mp hlow) htwo hb]
        rfl
      · cases h
    · cases h
  next hlow =>
  split at h
  · next hthree =>
    -- three bytes
    split at h
    · split at h
      · next hb =>
        split at h
        · split at h
          · next hc =>
            cases h
            rw [encodeChar_three (Nat.not_lt.mp hlow) hthree hb hc]
            rfl
          · cases h
        · cases h
      · cases h
    · cases h
  next hlow =>
  split at h
  · next hfour =>
    -- four bytes
    split at h
    · split at h
      · next hb =>
        split at h
        · split at h
          · next hc =>
            split at h
            · split at h
              · next hd =>
                cases h
                rw [encodeChar_four (Nat.not_lt.mp hlow) hfour hb hc hd]
                rfl
              · cases h
            · cases h
          · cases h
        · cases h
      · cases h
    · cases h
  · -- the byte begins no character
    cases h

/-- The bytes of a longer character are all at least 128. -/
theorem le_of_mem_encodeChar {b : UInt8} {c : Char} (hc : 0x80 ≤ c.toNat) (h : b ∈ encodeChar c) :
    0x80 ≤ b.toNat := by
  have hvalid := toNat_valid c
  have htail : ∀ bits, 0x80 ≤ (tailByte bits).toNat := by
    intro bits
    rw [toNat_tailByte]
    exact Nat.le_add_right _ _
  have hfirst : ∀ n, 0x80 ≤ n → n < 0x100 → 0x80 ≤ (UInt8.ofNat n).toNat := by
    intro n hlow hhigh
    rwa [toNat_ofNat_lt hhigh]
  unfold encodeChar at h
  dsimp only at h
  -- whatever the length, there is a first byte and then continuations
  split at h
  · -- one byte would be a character below the bound
    omega
  split at h
  · -- two bytes
    simp only [List.mem_cons, List.not_mem_nil, or_false] at h
    obtain rfl | rfl := h
    · exact hfirst _ (by omega) (by omega)
    · exact htail _
  split at h
  · -- three bytes
    simp only [List.mem_cons, List.not_mem_nil, or_false] at h
    obtain rfl | rfl | rfl := h
    · exact hfirst _ (by omega) (by omega)
    · exact htail _
    · exact htail _
  · -- four bytes
    simp only [List.mem_cons, List.not_mem_nil, or_false] at h
    obtain rfl | rfl | rfl | rfl := h
    · exact hfirst _ (by omega) (by omega)
    · exact htail _
    · exact htail _
    · exact htail _

/-- A byte below 128 is part of a character only if it is all of it. -/
theorem eq_of_ascii_mem_encodeChar {c d : Char} (hc : c.toNat < 0x80)
    (h : Bytes.ascii c ∈ encodeChar d) : d = c := by
  have hnat : (Bytes.ascii c).toNat = c.toNat := toNat_ofNat_lt (Nat.lt_trans hc (by decide))
  by_cases hd : d.toNat < 0x80
  · -- the other character is that byte
    rw [encodeChar, if_pos hd] at h
    have heq : d.toNat = c.toNat := by
      rw [← hnat, List.mem_singleton.mp h, toNat_ofNat_lt (by omega)]
    exact Char.toNat_inj.mp heq
  · -- all bytes of the other character lie above this one
    have hle := le_of_mem_encodeChar (Nat.not_lt.mp hd) h
    omega

/-- A byte below 128 stands in a text only where its character does. -/
theorem mem_of_ascii_mem_encode {chars : List Char} {c : Char} (hc : c.toNat < 0x80)
    (h : Bytes.ascii c ∈ encode chars) : c ∈ chars := by
  obtain ⟨d, hd, hmem⟩ := List.mem_flatMap.mp h
  rwa [← eq_of_ascii_mem_encodeChar hc hmem]

section Reading

variable {done : List Char} {first : UInt8} {rest rest₁ : Bytes} {c : Char}

theorem decodeFrom_of_char (h : next first rest = .char c rest₁) :
    decodeFrom done (first :: rest) = decodeFrom (c :: done) rest₁ := by
  rw [decodeFrom]
  split
  · next h' =>
    -- the character that comes next is this one
    rw [h] at h'
    cases h'
    rfl
  · next h' =>
    -- what comes next cannot be ill-formed as well
    rw [h] at h'
    cases h'

theorem decodeFrom_of_ill (h : next first rest = .ill rest₁) :
    decodeFrom done (first :: rest) = none := by
  rw [decodeFrom]
  split
  · next h' =>
    -- what comes next cannot be a character as well
    rw [h] at h'
    cases h'
  · rfl

end Reading

theorem encode_of_decodeFrom {done chars : List Char} {bytes : Bytes}
    (h : decodeFrom done bytes = some chars) : encode chars = encode done.reverse ++ bytes := by
  -- along the reader; `done` has the characters of the bytes that are read already
  induction done, bytes using decodeFrom.induct with
  | case1 done =>
    rw [decodeFrom] at h
    rw [← Option.some.inj h, List.append_nil]
  | case2 done first rest c rest₁ hnext _ ih =>
    rw [decodeFrom_of_char hnext] at h
    rw [ih h, encodeChar_of_next hnext]
    simp [encode]
  | case3 done first rest rest₁ hnext =>
    rw [decodeFrom_of_ill hnext] at h
    cases h

/-- **A text that was read** is written by the bytes that were read. -/
theorem encode_of_decode? {bytes : Bytes} {chars : List Char} (h : decode? bytes = some chars) :
    encode chars = bytes :=
  encode_of_decodeFrom h

end SchemaBuild.Utf8

namespace SchemaBuild.Bytes

/-- The bytes of a text behind a text. -/
theorem ofString_append (front back : String) :
    ofString (front ++ back) = ofString front ++ ofString back := by
  rw [ofString, String.toList_append, Utf8.encode, List.flatMap_append]
  rfl

/-- Bytes are a text exactly when they are the bytes of that text. -/
theorem toString?_eq_some_iff {bytes : Bytes} {text : String} :
    bytes.toString? = some text ↔ bytes = ofString text := by
  constructor
  · -- what is read is written back
    intro h
    obtain ⟨chars, hchars, rfl⟩ := Option.map_eq_some_iff.mp h
    rw [ofString, String.toList_ofList, Utf8.encode_of_decode? hchars]
  · -- what is written is read back
    rintro rfl
    exact toString?_ofString text

/-- Different texts have different bytes. -/
theorem ofString_inj {text text' : String} : ofString text = ofString text' ↔ text = text' := by
  rw [← toString?_eq_some_iff, toString?_ofString, Option.some.injEq]

end SchemaBuild.Bytes
