import SchemaBuild.Bytes

/-!
# Text as bytes

The UTF-8 form of text. `Utf8.next` reads one character off the front of a byte string, or says how
many bytes belong to the longest beginning of a character that is cut off or wrong there. From it
come the strict reader `Utf8.decode?`, which refuses a string with any such place, and the lenient
reader `Utf8.decodeLossy`, which reads each such place as one replacement character.

`Utf8.encode` writes text; `Utf8.decode?_encode` says that the strict reader undoes it.
-/

namespace SchemaBuild.Utf8

/-- A byte of the continuation of a character, holding six bits of it. -/
def tailByte (bits : Nat) : UInt8 := UInt8.ofNat (0x80 + bits % 0x40)

/-- The one to four bytes of a character. -/
def encodeChar (c : Char) : Bytes :=
  let v := c.toNat
  if v < 0x80 then [UInt8.ofNat v]
  else if v < 0x800 then [UInt8.ofNat (0xC0 + v / 0x40), tailByte v]
  else if v < 0x10000 then [UInt8.ofNat (0xE0 + v / 0x1000), tailByte (v / 0x40), tailByte v]
  else [UInt8.ofNat (0xF0 + v / 0x40000), tailByte (v / 0x1000), tailByte (v / 0x40), tailByte v]

/-- The bytes of a list of characters. -/
def encode (chars : List Char) : Bytes := chars.flatMap encodeChar

/-- What stands at the front of a byte string. -/
inductive Next where
  /-- A character. -/
  | char (c : Char) (rest : Bytes)
  /-- Bytes that begin no character, or only the beginning of one; `rest` follows them. -/
  | ill (rest : Bytes)
  deriving Repr, DecidableEq

/-- The string behind the front. -/
def Next.rest : Next → Bytes
  | .char _ rest => rest
  | .ill rest => rest

/-- Is this a continuation byte? -/
def isTail (b : UInt8) : Bool := 0x80 ≤ b && b ≤ 0xBF

/-- The six bits of a continuation byte. -/
def tailBits (b : UInt8) : Nat := b.toNat % 0x40

/-- The least and greatest second byte that may follow the first byte of a longer character. The
bounds rule out overlong forms, surrogates and values beyond the last code point. -/
def secondRange (first : UInt8) : UInt8 × UInt8 :=
  if first = 0xE0 then (0xA0, 0xBF)
  else if first = 0xED then (0x80, 0x9F)
  else if first = 0xF0 then (0x90, 0xBF)
  else if first = 0xF4 then (0x80, 0x8F)
  else (0x80, 0xBF)

/-- May `second` follow `first`? -/
def isSecond (first second : UInt8) : Bool :=
  (secondRange first).1 ≤ second && second ≤ (secondRange first).2

/-- Read the front of a byte string, given as its first byte and the bytes behind it. -/
def next (first : UInt8) (rest : Bytes) : Next :=
  if first < 0x80 then .char (Char.ofNat first.toNat) rest
  else if first < 0xC2 then .ill rest
  else if first < 0xE0 then
    match rest with
    | b :: rest₁ =>
      if isTail b then .char (Char.ofNat ((first.toNat % 0x20) * 0x40 + tailBits b)) rest₁
      else .ill rest
    | [] => .ill rest
  else if first < 0xF0 then
    match rest with
    | b :: rest₁ =>
      if isSecond first b then
        match rest₁ with
        | c :: rest₂ =>
          if isTail c then
            .char (Char.ofNat ((first.toNat % 0x10) * 0x1000 + tailBits b * 0x40 + tailBits c)) rest₂
          else .ill rest₁
        | [] => .ill rest₁
      else .ill rest
    | [] => .ill rest
  else if first < 0xF5 then
    match rest with
    | b :: rest₁ =>
      if isSecond first b then
        match rest₁ with
        | c :: rest₂ =>
          if isTail c then
            match rest₂ with
            | d :: rest₃ =>
              if isTail d then
                .char (Char.ofNat ((first.toNat % 0x8) * 0x40000 + tailBits b * 0x1000
                  + tailBits c * 0x40 + tailBits d)) rest₃
              else .ill rest₂
            | [] => .ill rest₂
          else .ill rest₁
        | [] => .ill rest₁
      else .ill rest
    | [] => .ill rest
  else .ill rest

/-- Reading the front takes at least the first byte away. -/
theorem length_rest_next (first : UInt8) (rest : Bytes) :
    (next first rest).rest.length ≤ rest.length := by
  unfold next
  repeat' split
  all_goals simp [Next.rest] <;> omega

/-- Read the rest of a text, the characters so far standing in reverse order in `done`. -/
def decodeFrom (done : List Char) : Bytes → Option (List Char)
  | [] => some done.reverse
  | b :: rest =>
    match h : next b rest with
    | .char c rest₁ =>
      have : rest₁.length ≤ rest.length := by
        simpa [h, Next.rest] using length_rest_next b rest
      decodeFrom (c :: done) rest₁
    | .ill _ => none
  termination_by bytes => bytes.length
  decreasing_by simp; omega

/-- The characters of a byte string; `none` if it is not well-formed. -/
def decode? (bytes : Bytes) : Option (List Char) := decodeFrom [] bytes

/-- Read the rest of a text leniently, the characters so far standing in reverse order in `done`. -/
def decodeLossyFrom (done : List Char) : Bytes → List Char
  | [] => done.reverse
  | b :: rest =>
    match h : next b rest with
    | .char c rest₁ =>
      have : rest₁.length ≤ rest.length := by
        simpa [h, Next.rest] using length_rest_next b rest
      decodeLossyFrom (c :: done) rest₁
    | .ill rest₁ =>
      have : rest₁.length ≤ rest.length := by
        simpa [h, Next.rest] using length_rest_next b rest
      decodeLossyFrom ('\uFFFD' :: done) rest₁
  termination_by bytes => bytes.length
  decreasing_by all_goals (simp; omega)

/-- The characters of a byte string, each place that is not well-formed read as one replacement
character. -/
def decodeLossy (bytes : Bytes) : List Char := decodeLossyFrom [] bytes

/-! ### Reading undoes writing -/

theorem toNat_tailByte (bits : Nat) : (tailByte bits).toNat = 0x80 + bits % 0x40 := by
  simp only [tailByte, UInt8.toNat_ofNat']
  omega

theorem isTail_tailByte (bits : Nat) : isTail (tailByte bits) = true := by
  simp only [isTail, Bool.and_eq_true, decide_eq_true_eq, UInt8.le_iff_toNat_le, toNat_tailByte]
  simp
  omega

theorem tailBits_tailByte (bits : Nat) : tailBits (tailByte bits) = bits % 0x40 := by
  simp only [tailBits, toNat_tailByte]
  omega

theorem toNat_ofNat_lt {n : Nat} (h : n < 256) : (UInt8.ofNat n).toNat = n := by
  rw [UInt8.toNat_ofNat']
  omega

/-- A character's number is no surrogate and at most the last code point. -/
theorem toNat_valid (c : Char) : c.toNat < 0xD800 ∨ (0xDFFF < c.toNat ∧ c.toNat < 0x110000) := c.valid

theorem isSecond_iff (first second : UInt8) : isSecond first second = true ↔
    (if first.toNat = 0xE0 then 0xA0 else if first.toNat = 0xF0 then 0x90 else 0x80) ≤ second.toNat ∧
      second.toNat ≤ (if first.toNat = 0xED then 0x9F else if first.toNat = 0xF4 then 0x8F else 0xBF) := by
  have heq (n : UInt8) : first = n ↔ first.toNat = n.toNat := UInt8.toNat_inj.symm
  simp only [isSecond, secondRange, Bool.and_eq_true, decide_eq_true_eq, UInt8.le_iff_toNat_le, heq]
  repeat' split
  all_goals simp_all

/-- The bytes of a character, followed by anything, read as that character. -/
theorem next_encodeChar (c : Char) (tail : Bytes) :
    ∃ first rest, encodeChar c = first :: rest ∧ next first (rest ++ tail) = .char c tail := by
  have hv := toNat_valid c
  have ofNat_eq {n : Nat} (h : n = c.toNat) : Char.ofNat n = c := by rw [h, Char.ofNat_toNat]
  unfold encodeChar
  dsimp only
  -- the first byte tells how many there are, and the bits in all of them make up the number again
  repeat' split
  · refine ⟨_, _, rfl, ?_⟩
    simp only [next, UInt8.lt_iff_toNat_lt, List.nil_append]
    rw [toNat_ofNat_lt (by omega), if_pos (by simpa), ofNat_eq rfl]
  · refine ⟨_, _, rfl, ?_⟩
    simp only [next, UInt8.lt_iff_toNat_lt, List.cons_append, List.nil_append, isTail_tailByte,
      tailBits_tailByte]
    rw [toNat_ofNat_lt (by omega), if_neg (by simp; omega), if_neg (by simp; omega),
      if_pos (by simp; omega)]
    simp only [if_true]
    rw [ofNat_eq (by omega)]
  · refine ⟨_, _, rfl, ?_⟩
    have h2 : isSecond (UInt8.ofNat (0xE0 + c.toNat / 0x1000)) (tailByte (c.toNat / 0x40)) = true := by
      rw [isSecond_iff, toNat_ofNat_lt (by omega), toNat_tailByte]
      repeat' split
      all_goals omega
    simp only [next, UInt8.lt_iff_toNat_lt, List.cons_append, List.nil_append, isTail_tailByte,
      tailBits_tailByte, h2]
    rw [toNat_ofNat_lt (by omega), if_neg (by simp; omega), if_neg (by simp; omega), if_neg (by simp),
      if_pos (by simp; omega)]
    simp only [if_true]
    rw [ofNat_eq (by omega)]
  · refine ⟨_, _, rfl, ?_⟩
    have h2 : isSecond (UInt8.ofNat (0xF0 + c.toNat / 0x40000)) (tailByte (c.toNat / 0x1000)) = true := by
      rw [isSecond_iff, toNat_ofNat_lt (by omega), toNat_tailByte]
      repeat' split
      all_goals omega
    simp only [next, UInt8.lt_iff_toNat_lt, List.cons_append, List.nil_append, isTail_tailByte,
      tailBits_tailByte, h2]
    rw [toNat_ofNat_lt (by omega), if_neg (by simp; omega), if_neg (by simp; omega),
      if_neg (by simp; omega), if_neg (by simp), if_pos (by simp; omega)]
    simp only [if_true]
    rw [ofNat_eq (by omega)]

theorem decodeFrom_encode (done chars : List Char) :
    decodeFrom done (encode chars) = some (done.reverse ++ chars) := by
  induction chars generalizing done with
  | nil => simp [encode, decodeFrom]
  | cons c chars ih =>
    obtain ⟨first, rest, he, hn⟩ := next_encodeChar c (encode chars)
    have : encode (c :: chars) = first :: (rest ++ encode chars) := by
      simp only [encode, List.flatMap_cons, he, List.cons_append]
    rw [this, decodeFrom]
    split
    · next c' rest' h =>
      rw [hn] at h
      injection h with h₁ h₂
      subst h₁ h₂
      rw [ih]
      simp
    · next h =>
      rw [hn] at h
      cases h

/-- Reading what was written gives the text back. -/
@[simp] theorem decode?_encode (chars : List Char) : decode? (encode chars) = some chars := by
  simp [decode?, decodeFrom_encode]

end SchemaBuild.Utf8

namespace SchemaBuild.Bytes

/-- The bytes of a text. -/
def ofString (text : String) : Bytes := Utf8.encode text.toList

/-- The text that the bytes are, if they are text. -/
def toString? (bytes : Bytes) : Option String := (Utf8.decode? bytes).map String.ofList

/-- The bytes as text to be shown, with replacement characters where they are none. -/
def toStringLossy (bytes : Bytes) : String := String.ofList (Utf8.decodeLossy bytes)

@[simp] theorem toString?_ofString (text : String) : toString? (ofString text) = some text := by
  simp [toString?, ofString]

end SchemaBuild.Bytes
