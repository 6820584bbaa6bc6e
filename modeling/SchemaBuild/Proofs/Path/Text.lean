import SchemaBuild.Proofs.Path.Absolute
import SchemaBuild.Proofs.Text.Lossy

/-!
# Paths that are text

A path may be any bytes, and what is written as JSON has to be text. The byte between components is
an ASCII character, so cutting a text at slashes and putting the pieces together again leaves texts: a
path that is text has a text for its absolute form.

* `Bytes.IsText` — bytes that a text is encoded by, with `Bytes.IsText.of_mem_split`;
* `Path.isText_join`, `Path.isText_absoluteFrom` — paths that are made of texts.
-/

namespace SchemaBuild

namespace Bytes

/-- The bytes are the encoding of a text. -/
def IsText (bytes : Bytes) : Prop := ∃ text, bytes = ofString text

theorem isText_iff {bytes : Bytes} : bytes.IsText ↔ bytes.toString?.isSome := by
  rw [Option.isSome_iff_exists]
  exact exists_congr fun text => toString?_eq_some_iff.symm

theorem isText_encode (chars : List Char) : IsText (Utf8.encode chars) :=
  ⟨String.ofList chars, by rw [ofString, String.toList_ofList]⟩

theorem IsText.exists_chars {bytes : Bytes} (h : bytes.IsText) :
    ∃ chars, bytes = Utf8.encode chars := by
  obtain ⟨text, rfl⟩ := h
  exact ⟨text.toList, rfl⟩

/-- Texts behind each other are a text. -/
theorem IsText.append {front back : Bytes} (hfront : front.IsText) (hback : back.IsText) :
    (front ++ back).IsText := by
  obtain ⟨first, rfl⟩ := hfront
  obtain ⟨second, rfl⟩ := hback
  exact ⟨first ++ second, (ofString_append first second).symm⟩

/-- Bytes without the separator stay together in front of the first piece behind them. -/
theorem split_append_of_not_mem {separator : UInt8} {front : Bytes} (h : separator ∉ front)
    (rest : Bytes) :
    ∃ first pieces, split separator rest = first :: pieces ∧
      split separator (front ++ rest) = (front ++ first) :: pieces := by
  induction front with
  | nil =>
    -- nothing stands before the first piece
    obtain ⟨first, pieces, hpieces⟩ := List.exists_cons_of_ne_nil (split_ne_nil separator rest)
    exact ⟨first, pieces, hpieces, hpieces⟩
  | cons b front ih =>
    -- the byte is no separator, so it belongs to the first piece
    rw [List.mem_cons, not_or] at h
    obtain ⟨hb, hfront⟩ := h
    obtain ⟨first, pieces, hpieces, hsplit⟩ := ih hfront
    refine ⟨first, pieces, hpieces, ?_⟩
    rw [List.cons_append, split, if_neg (Ne.symm hb), hsplit]
    rfl

/-- **The pieces of a text** between ASCII characters are texts. -/
theorem IsText.of_mem_split {separator : Char} (hascii : separator.toNat < 0x80) {bytes piece : Bytes}
    (h : bytes.IsText) (hmem : piece ∈ split (ascii separator) bytes) : piece.IsText := by
  obtain ⟨chars, rfl⟩ := h.exists_chars
  -- a character at the front may change the first piece, so the induction is about all pieces
  suffices hall : ∀ piece ∈ split (ascii separator) (Utf8.encode chars), IsText piece from
    hall piece hmem
  clear hmem h piece
  induction chars with
  | nil =>
    intro piece hmem
    obtain rfl := List.mem_singleton.mp hmem
    exact isText_encode []
  | cons c chars ih =>
    intro piece hmem
    rw [Utf8.encode, List.flatMap_cons] at hmem
    by_cases hc : c = separator
    · -- an empty piece ends here, and the others are those of the rest
      subst hc
      rw [Utf8.encodeChar_ascii hascii, List.singleton_append, split, if_pos rfl] at hmem
      obtain rfl | hlater := List.mem_cons.mp hmem
      · exact isText_encode []
      · exact ih piece hlater
    · -- the bytes of another character go to the first piece of the rest
      have hfront : ascii separator ∉ Utf8.encodeChar c :=
        fun hin => hc (Utf8.eq_of_ascii_mem_encodeChar hascii hin)
      obtain ⟨first, pieces, hpieces, hsplit⟩ := split_append_of_not_mem hfront (Utf8.encode chars)
      have hfirst : first.IsText := ih first (by rw [hpieces]; exact List.mem_cons_self)
      have hchar : IsText (Utf8.encodeChar c) := by
        have hencoded := isText_encode [c]
        rwa [Utf8.encode, List.flatMap_cons, List.flatMap_nil, List.append_nil] at hencoded
      rw [show (chars.flatMap Utf8.encodeChar) = Utf8.encode chars from rfl, hsplit] at hmem
      obtain rfl | hlater := List.mem_cons.mp hmem
      · exact hchar.append hfirst
      · exact ih piece (by rw [hpieces]; exact List.mem_cons_of_mem first hlater)

end Bytes

namespace Path

/-- The path is text. -/
def IsText (path : Path) : Prop := path.bytes.IsText

theorem isText_iff {path : Path} : path.IsText ↔ path.toString?.isSome := Bytes.isText_iff

instance : DecidablePred IsText := fun _ => decidable_of_iff _ isText_iff.symm

theorem isText_ofString (text : String) : (ofString text).IsText := ⟨text, rfl⟩

theorem isText_slash : Bytes.IsText [slash] := ⟨"/", by decide⟩

/-- A path behind another one is text if both are. -/
theorem isText_join {base path : Path} (hbase : base.IsText) (hpath : path.IsText) :
    (base.join path).IsText := by
  unfold join
  split
  · -- an absolute path stands for itself
    exact hpath
  · split
    · -- the base is empty or ends in a slash
      exact Bytes.IsText.append hbase hpath
    · -- a slash is put between the two
      rw [← List.singleton_append]
      exact Bytes.IsText.append hbase (isText_slash.append hpath)

theorem isText_descend {base : Path} {stretches : List Bytes} (hbase : base.IsText)
    (hstretches : ∀ stretch ∈ stretches, Bytes.IsText stretch) : (base.descend stretches).IsText := by
  induction stretches generalizing base with
  | nil => exact hbase
  | cons stretch stretches ih =>
    obtain ⟨hfirst, hrest⟩ := List.forall_mem_cons.mp hstretches
    exact ih (isText_join hbase hfirst) hrest

/-- **The absolute form of a text** is text, if what it begins with is. -/
theorem isText_absoluteFrom {here path : Path} (hpath : path.IsText)
    (hhere : path.isAbsolute = true ∨ here.IsText) : (absoluteFrom here path).IsText := by
  rw [absoluteFrom_eq]
  refine isText_descend ?_ ?_
  · -- the base is a root, or what relative paths are meant from
    unfold baseFrom
    split
    · split
      · exact isText_slash.append isText_slash
      · exact isText_slash
    · next hrelative => exact hhere.resolve_left hrelative
  · -- the stretches are names of the path, and an empty one if it ends in a slash
    intro stretch hmem
    obtain hname | hend := List.mem_append.mp hmem
    · exact Bytes.IsText.of_mem_split (by decide) hpath (List.mem_filter.mp hname).1
    · split at hend
      · obtain rfl := List.mem_singleton.mp hend
        exact Bytes.isText_encode []
      · cases hend

end Path

end SchemaBuild
