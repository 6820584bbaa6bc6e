import SchemaBuild.Archive.Gzip
import SchemaBuild.Proofs.Archive.Inflating

/-!
# Files of compressed members

A compressed file is a row of members, one behind the other, and its content is the contents of the
members in their order. A member is a header with some optional parts, the compressed form of its
content, and the checksum and length of the content.

* `Gzip.IsMember` — a member with its content;
* `Gzip.IsFile` — a file with the contents of its members;
* `Gzip.decompress_file` — of a file the content of its first member is read, without a sign that
  there is more.
-/

namespace SchemaBuild.Gzip

open Deflate

/-! ### The format -/

/-- A part of a header that is there if a flag says so. -/
def IsPart (present : Bool) (form : Bytes → Prop) (part : Bytes) : Prop :=
  if present then form part else part = []

/-- Further fields, behind their length. -/
def IsExtra (part : Bytes) : Prop :=
  ∃ fields : Bytes, fields.length < 65536 ∧ part = lowBytes 2 fields.length ++ fields

/-- A name or a comment of bounded length, before a NUL. -/
def IsText (part : Bytes) : Prop :=
  ∃ text : Bytes, 0 ∉ text ∧ text.length ≤ textLimit ∧ part = text ++ [0]

/-- The checksum of what stands before it, cut to its low half. -/
def IsSum (front part : Bytes) : Prop := part = lowBytes 2 ((crc32 front).toNat % 0x10000)

/-- The checksum and the length of a content, each in four bytes. -/
def trailer (content : Bytes) : Bytes :=
  lowBytes 4 (crc32 content).toNat ++ lowBytes 4 content.length

/-- **A member** with its content. The flags say which parts its header has; the six bytes behind
them hold a time and hints. -/
inductive IsMember : (member content : Bytes) → Prop
  | mk {flags : UInt8} {hints extra name comment sum data content : Bytes}
      (flags_lt : flags.toNat < 32) (hints_length : hints.length = 6)
      (isExtra : IsPart (hasFlag flags 2) IsExtra extra)
      (isName : IsPart (hasFlag flags 3) IsText name)
      (isComment : IsPart (hasFlag flags 4) IsText comment)
      (isSum : IsPart (hasFlag flags 1)
        (IsSum (0x1F :: 0x8B :: 8 :: flags :: (hints ++ (extra ++ (name ++ comment))))) sum)
      (isData : IsDeflated data content) :
      IsMember (0x1F :: 0x8B :: 8 :: flags
        :: (hints ++ (extra ++ (name ++ (comment ++ (sum ++ (data ++ trailer content))))))) content

/-- **A file** of one member or several, with their contents. -/
inductive IsFile : (file : Bytes) → (contents : List Bytes) → Prop
  | one {member content : Bytes} (isMember : IsMember member content) : IsFile member [content]
  | more {member content file : Bytes} {contents : List Bytes} (isMember : IsMember member content)
      (behind : IsFile file contents) : IsFile (member ++ file) (content :: contents)

/-- A member that stores its content as it is. -/
def storedMember (content : Bytes) : Bytes :=
  [0x1F, 0x8B, 8, 0, 0, 0, 0, 0, 0, 255] ++ (1 :: (lowBytes 2 content.length
    ++ lowBytes 2 (65535 - content.length) ++ content)) ++ trailer content

/-- Every short content has a member. -/
theorem storedMember_isMember {content : Bytes} (h : content.length < 65536) :
    IsMember (storedMember content) content := by
  have hmember := @IsMember.mk 0 [0, 0, 0, 0, 0, 255] [] [] [] [] _ content (by decide) rfl rfl rfl
    rfl rfl (isDeflated_stored h)
  rw [storedMember, List.append_assoc]
  exact hmember

/-! ### Reading a header -/

theorem littleEndian_lowBytes (count value : Nat) :
    littleEndian (lowBytes count value) = value % 256 ^ count := by
  induction count generalizing value with
  | zero =>
    rw [Nat.pow_zero, Nat.mod_one]
    rfl
  | succ count ih =>
    have hstep : littleEndian (lowBytes (count + 1) value)
        = (UInt8.ofNat value).toNat + 256 * littleEndian (lowBytes count (value / 256)) := rfl
    have hbyte : (UInt8.ofNat value).toNat = value % 256 := UInt8.toNat_ofNat'
    rw [hstep, ih, hbyte, Nat.pow_succ, Nat.mul_comm (256 ^ count), Nat.mod_mul]

section Parts

variable {part rest : Bytes}

/-- A part is passed over if it is there, and if it is not then there is nothing to pass over. -/
theorem skipIf_eq_some {present : Bool} {form : Bytes → Prop} {skip? : Bytes → Option Bytes}
    (hskip : form part → skip? (part ++ rest) = some rest) (h : IsPart present form part) :
    skipIf present skip? (part ++ rest) = some rest := by
  cases present with
  | true => exact hskip h
  | false =>
    obtain rfl : part = [] := h
    rfl

theorem skipExtra?_eq_some (h : IsExtra part) : skipExtra? (part ++ rest) = some rest := by
  obtain ⟨fields, hshort, rfl⟩ := h
  have hlength : littleEndian ((lowBytes 2 fields.length ++ fields ++ rest).take 2)
      = fields.length := by
    rw [List.append_assoc, List.take_left' (lowBytes_length 2 _), littleEndian_lowBytes]
    exact Nat.mod_eq_of_lt hshort
  have hdrop : (lowBytes 2 fields.length ++ fields ++ rest).drop (2 + fields.length) = rest :=
    List.drop_left' (by simp)
  rw [skipExtra?, hlength, hdrop, if_neg (by simp)]

theorem idxOf?_append {text : Bytes} (h : 0 ∉ text) (rest : Bytes) :
    (text ++ 0 :: rest).idxOf? 0 = some text.length := by
  induction text with
  | nil => simp [List.idxOf?_cons]
  | cons b text ih =>
    obtain ⟨hb, htext⟩ := not_or.mp (mt List.mem_cons.mpr h)
    rw [List.cons_append, List.idxOf?_cons, ih htext]
    simp [Ne.symm hb]

theorem skipText?_eq_some (h : IsText part) : skipText? (part ++ rest) = some rest := by
  obtain ⟨text, hnul, hshort, rfl⟩ := h
  -- the NUL is searched for in so many bytes only, and it is among them
  have htake : (text ++ [0] ++ rest).take (textLimit + 1)
      = text ++ 0 :: rest.take (textLimit - text.length) := by
    have hleft : textLimit + 1 - text.length = textLimit - text.length + 1 := by omega
    rw [List.append_assoc, List.take_append, List.take_of_length_le (by omega), hleft,
      List.singleton_append, List.take_succ_cons]
  have hdrop : (text ++ [0] ++ rest).drop (text.length + 1) = rest := List.drop_left' (by simp)
  rw [skipText?, htake, idxOf?_append hnul]
  dsimp only
  rw [hdrop]

theorem skipHeaderSum?_eq_some {front : Bytes} (h : IsSum front part) :
    skipHeaderSum? (front ++ (part ++ rest)) (part ++ rest) = some rest := by
  have hlength : part.length = 2 := by
    rw [h]
    exact lowBytes_length 2 _
  -- what was read is all that is no longer there
  have hfront : (front ++ (part ++ rest)).take ((front ++ (part ++ rest)).length
      - (part ++ rest).length) = front := by
    rw [List.length_append, Nat.add_sub_cancel]
    exact List.take_left
  have hsum : littleEndian ((part ++ rest).take 2) = (crc32 front).toNat % 0x10000 := by
    rw [List.take_left' hlength, h, littleEndian_lowBytes]
    exact Nat.mod_eq_of_lt (Nat.mod_lt _ (by decide))
  rw [skipHeaderSum?, hfront, if_neg (by rw [List.length_append]; omega), if_pos hsum,
    List.drop_left' hlength]

end Parts

/-! ### Reading a member -/

theorem exists_six {hints : Bytes} (h : hints.length = 6) :
    ∃ a b c d e f, hints = [a, b, c, d, e, f] := by
  rcases hints with _ | ⟨a, _ | ⟨b, _ | ⟨c, _ | ⟨d, _ | ⟨e, _ | ⟨f, _ | ⟨g, hints⟩⟩⟩⟩⟩⟩⟩
  case cons.cons.cons.cons.cons.cons.nil => exact ⟨a, b, c, d, e, f, rfl⟩
  all_goals simp at h

/-- A header is passed over part by part. -/
theorem afterHeader?_eq (flags a b c d e f : UInt8) (rest : Bytes) :
    afterHeader? (0x1F :: 0x8B :: 8 :: flags :: a :: b :: c :: d :: e :: f :: rest) =
      if hasFlag flags 5 || hasFlag flags 6 || hasFlag flags 7 then none
      else (skipIf (hasFlag flags 2) skipExtra? rest).bind fun behind =>
        (skipIf (hasFlag flags 3) skipText? behind).bind fun behind =>
        (skipIf (hasFlag flags 4) skipText? behind).bind fun behind =>
        skipIf (hasFlag flags 1) (skipHeaderSum?
          (0x1F :: 0x8B :: 8 :: flags :: a :: b :: c :: d :: e :: f :: rest)) behind :=
  rfl

/-- What stands behind the header of a member. -/
theorem afterHeader?_eq_some {flags : UInt8} {hints extra name comment sum : Bytes}
    (hflags : flags.toNat < 32) (hhints : hints.length = 6)
    (hextra : IsPart (hasFlag flags 2) IsExtra extra) (hname : IsPart (hasFlag flags 3) IsText name)
    (hcomment : IsPart (hasFlag flags 4) IsText comment)
    (hsum : IsPart (hasFlag flags 1)
      (IsSum (0x1F :: 0x8B :: 8 :: flags :: (hints ++ (extra ++ (name ++ comment))))) sum)
    (rest : Bytes) :
    afterHeader? (0x1F :: 0x8B :: 8 :: flags
      :: (hints ++ (extra ++ (name ++ (comment ++ (sum ++ rest)))))) = some rest := by
  -- flags below 32 leave the three reserved bits clear
  have hreserved : ∀ bit, 5 ≤ bit → hasFlag flags bit = false := by
    intro bit hbit
    have hpow : 2 ^ 5 ≤ 2 ^ bit := Nat.pow_le_pow_right (by decide) hbit
    exact Nat.testBit_lt_two_pow (Nat.lt_of_lt_of_le hflags hpow)
  obtain ⟨a, b, c, d, e, f, rfl⟩ := exists_six hhints
  -- the checksum is one of all parts before it
  have hlast : skipIf (hasFlag flags 1) (skipHeaderSum? (0x1F :: 0x8B :: 8 :: flags :: a :: b :: c
      :: d :: e :: f :: (extra ++ (name ++ (comment ++ (sum ++ rest)))))) (sum ++ rest)
      = some rest := by
    refine skipIf_eq_some (fun h => ?_) hsum
    have hskip : skipHeaderSum? _ (sum ++ rest) = some rest := skipHeaderSum?_eq_some h
    simpa only [List.cons_append, List.append_assoc, List.nil_append] using hskip
  simp only [List.cons_append, List.nil_append]
  rw [afterHeader?_eq, hreserved 5 (by decide), hreserved 6 (by decide), hreserved 7 (by decide),
    if_neg (by decide), skipIf_eq_some skipExtra?_eq_some hextra, Option.bind_some,
    skipIf_eq_some skipText?_eq_some hname, Option.bind_some,
    skipIf_eq_some skipText?_eq_some hcomment, Option.bind_some]
  exact hlast

theorem hasTrailer_trailer (content rest : Bytes) :
    hasTrailer content (trailer content ++ rest) = true := by
  have hcrc : littleEndian ((trailer content ++ rest).take 4) = (crc32 content).toNat := by
    rw [trailer, List.append_assoc, List.take_left' (lowBytes_length 4 _), littleEndian_lowBytes]
    exact Nat.mod_eq_of_lt (crc32 content).toNat_lt
  have hlength : littleEndian (((trailer content ++ rest).drop 4).take 4)
      = content.length % 0x100000000 := by
    rw [trailer, List.append_assoc, List.drop_left' (lowBytes_length 4 _),
      List.take_left' (lowBytes_length 4 _), littleEndian_lowBytes]
    rfl
  have height : ((trailer content ++ rest).take 8).length = 8 := by
    rw [List.take_left' (by simp [trailer])]
    simp [trailer]
  rw [hasTrailer, hcrc, hlength, height]
  simp

/-- **Of a member its content is read**, whatever stands behind it. -/
theorem decompress_member {member content : Bytes} (h : IsMember member content) (rest : Bytes) :
    decompress (member ++ rest) = .ofBytes content := by
  cases h with
  | @mk flags hints extra name comment sum data content hflags hhints hextra hname hcomment hsum
      hdata =>
    have hheader := afterHeader?_eq_some hflags hhints hextra hname hcomment hsum
      (data ++ (trailer content ++ rest))
    have hfile : (0x1F :: 0x8B :: 8 :: flags :: (hints ++ (extra ++ (name ++ (comment ++ (sum
        ++ (data ++ trailer content))))))) ++ rest
        = 0x1F :: 0x8B :: 8 :: flags :: (hints ++ (extra ++ (name ++ (comment ++ (sum
        ++ (data ++ (trailer content ++ rest))))))) := by
      simp only [List.cons_append, List.append_assoc]
    rw [decompress, hfile, hheader]
    dsimp only
    rw [Inflate.inflate_deflated hdata]
    dsimp only
    rw [hasTrailer_trailer]
    rfl

/-- **Of a file the content of its first member is read**, without a sign that there is more. -/
theorem decompress_file {file content : Bytes} {contents : List Bytes}
    (h : IsFile file (content :: contents)) : decompress file = .ofBytes content := by
  cases h with
  | one isMember =>
    have hmember := decompress_member isMember []
    rwa [List.append_nil] at hmember
  | more isMember behind => exact decompress_member isMember _

end SchemaBuild.Gzip
