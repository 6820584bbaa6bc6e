import SchemaBuild.Proofs.Text.Utf8

/-!
# Bytes shown as text

The lenient reader gives a text for all bytes. Bytes that are a text are shown as it, and all others
are shown as another text than they are: the replacement characters do not tell what they stand for.
But no replacement looks like a character below 128. Such a character is shown only where its byte
stands, so what is shown of bytes without a line feed is a single line.

* `Bytes.ofString_toStringLossy_iff` — which bytes are shown as they are;
* `Bytes.not_mem_ofString_toStringLossy` — no character below 128 is shown that is not there.
-/

namespace SchemaBuild.Utf8

section Reading

variable {done : List Char} {first : UInt8} {rest rest₁ : Bytes} {c : Char}

theorem decodeLossyFrom_of_char (h : next first rest = .char c rest₁) :
    decodeLossyFrom done (first :: rest) = decodeLossyFrom (c :: done) rest₁ := by
  rw [decodeLossyFrom]
  split
  · next h' =>
    -- the character that comes next is this one
    rw [h] at h'
    cases h'
    rfl
  · next h' =>
    -- what comes next is no ill-formed byte
    rw [h] at h'
    cases h'

theorem decodeLossyFrom_of_ill (h : next first rest = .ill rest₁) :
    decodeLossyFrom done (first :: rest) = decodeLossyFrom ('\uFFFD' :: done) rest₁ := by
  rw [decodeLossyFrom]
  split
  · next h' =>
    -- what comes next is no character
    rw [h] at h'
    cases h'
  · next h' =>
    -- the byte is replaced
    rw [h] at h'
    cases h'
    rfl

end Reading

/-- What the strict reader accepts the lenient one reads in the same way. -/
theorem decodeLossyFrom_of_decodeFrom {done chars : List Char} {bytes : Bytes}
    (h : decodeFrom done bytes = some chars) : decodeLossyFrom done bytes = chars := by
  induction done, bytes using decodeFrom.induct with
  | case1 done =>
    -- no bytes are left
    rw [decodeFrom] at h
    rw [decodeLossyFrom]
    exact Option.some.inj h
  | case2 done first rest c rest₁ hnext _ ih =>
    -- a character is read alike by both
    rw [decodeFrom_of_char hnext] at h
    rw [decodeLossyFrom_of_char hnext]
    exact ih h
  | case3 done first rest rest₁ hnext =>
    -- what is ill-formed is not read at all
    rw [decodeFrom_of_ill hnext] at h
    cases h

/-- Nothing is left behind the front that was not there. -/
theorem rest_next_suffix (first : UInt8) (rest : Bytes) : (next first rest).rest <:+ rest := by
  unfold next
  repeat' split
  all_goals simp [Next.rest, List.suffix_cons_iff]

theorem encodeChar_ascii {c : Char} (hc : c.toNat < 0x80) : encodeChar c = [Bytes.ascii c] := by
  rw [encodeChar, if_pos hc]
  rfl

/-- A character below 128 that the lenient reader gives stands where its byte stands. -/
theorem mem_of_mem_decodeLossyFrom {done : List Char} {bytes : Bytes} {c : Char}
    (hc : c.toNat < 0x80) (h : c ∈ decodeLossyFrom done bytes) : c ∈ done ∨ Bytes.ascii c ∈ bytes := by
  induction done, bytes using decodeLossyFrom.induct with
  | case1 done =>
    -- no bytes are left
    rw [decodeLossyFrom] at h
    exact .inl (List.mem_reverse.mp h)
  | case2 done first rest d rest₁ hnext _ ih =>
    -- a character below 128 is the only byte of its spelling
    rw [decodeLossyFrom_of_char hnext] at h
    rw [encodeChar_of_next hnext, List.mem_append]
    obtain hdone | hrest := ih h
    · obtain rfl | hdone := List.mem_cons.mp hdone
      · -- it is the character that comes next
        rw [encodeChar_ascii hc]
        exact .inr (.inl List.mem_cons_self)
      · -- it was read before
        exact .inl hdone
    · -- it is read later
      exact .inr (.inr hrest)
  | case3 done first rest rest₁ hnext _ ih =>
    rw [decodeLossyFrom_of_ill hnext] at h
    obtain hdone | hrest := ih h
    · obtain rfl | hdone := List.mem_cons.mp hdone
      · -- the replacement character is not below 128
        exact absurd hc (by decide)
      · -- it was read before
        exact .inl hdone
    · -- it is read behind the bytes that were replaced
      have hsuffix : rest₁ <:+ rest := by
        simpa [hnext, Next.rest] using rest_next_suffix first rest
      exact .inr (List.mem_cons_of_mem first (hsuffix.subset hrest))

end SchemaBuild.Utf8

namespace SchemaBuild.Bytes

/-- A text is shown as it is. -/
theorem toStringLossy_of_toString? {bytes : Bytes} {text : String} (h : bytes.toString? = some text) :
    bytes.toStringLossy = text := by
  obtain ⟨chars, hchars, rfl⟩ := Option.map_eq_some_iff.mp h
  rw [toStringLossy, Utf8.decodeLossy, Utf8.decodeLossyFrom_of_decodeFrom hchars]

/-- **Bytes are shown as they are** exactly when they are a text. -/
theorem ofString_toStringLossy_iff {bytes : Bytes} :
    ofString bytes.toStringLossy = bytes ↔ bytes.toString?.isSome = true := by
  constructor
  · -- what is written from a text is a text
    intro h
    rw [← h, toString?_ofString]
    rfl
  · -- nothing is lost of a text
    intro h
    obtain ⟨text, htext⟩ := Option.isSome_iff_exists.mp h
    rw [toStringLossy_of_toString? htext]
    exact (toString?_eq_some_iff.mp htext).symm

/-- The byte of a character below 128 is in a text only if the character is. -/
theorem ascii_not_mem_ofString {text : String} {c : Char} (hc : c.toNat < 0x80)
    (h : c ∉ text.toList) : ascii c ∉ ofString text :=
  mt (Utf8.mem_of_ascii_mem_encode hc) h

/-- **No character below 128 is shown** that is not there. -/
theorem not_mem_ofString_toStringLossy {bytes : Bytes} {c : Char} (hc : c.toNat < 0x80)
    (h : ascii c ∉ bytes) : ascii c ∉ ofString bytes.toStringLossy := by
  refine ascii_not_mem_ofString hc fun hmem => h ?_
  rw [toStringLossy, String.toList_ofList] at hmem
  exact (Utf8.mem_of_mem_decodeLossyFrom hc hmem).resolve_left List.not_mem_nil

end SchemaBuild.Bytes
