import SchemaBuild.Archive.Inflate

/-!
# Compressed files

A compressed file is a member or several: a header, compressed data, and the checksum and length of
the data. Only the first member is read. Its checksum and length are looked at by a reader that goes
to the end of the data, and by no other.
-/

namespace SchemaBuild.Gzip

/-! ### Checksums -/

/-- One bit of a checksum step. -/
def crcBit (crc : UInt32) : UInt32 :=
  if crc &&& 1 = 1 then (crc >>> 1) ^^^ 0xEDB88320 else crc >>> 1

/-- The contribution of each byte to a checksum. -/
def crcTable : Array UInt32 :=
  ((List.range 256).map fun n =>
    (List.range 8).foldl (fun crc _ => crcBit crc) (UInt32.ofNat n)).toArray

/-- The checksum register after one byte more. -/
def crcStep (crc : UInt32) (b : UInt8) : UInt32 :=
  (crcTable[((crc ^^^ b.toUInt32) &&& 0xFF).toNat]?.getD 0) ^^^ (crc >>> 8)

/-- The checksum of a byte string. -/
def crc32 (bytes : Bytes) : UInt32 := (bytes.foldl crcStep 0xFFFFFFFF) ^^^ 0xFFFFFFFF

/-! ### Members -/

/-- The number that bytes write, the lowest byte first. -/
def littleEndian (bytes : Bytes) : Nat := bytes.foldr (fun b n => b.toNat + 256 * n) 0

/-- Is a bit of the flags set? -/
def hasFlag (flags : UInt8) (bit : Nat) : Bool := flags.toNat.testBit bit

/-- The greatest length of a name or a comment in a header. -/
def textLimit : Nat := 65535

/-- Pass over a text that ends in a NUL. -/
def skipText? (bytes : Bytes) : Option Bytes :=
  match (bytes.take (textLimit + 1)).idxOf? 0 with
  | some length => some (bytes.drop (length + 1))
  | none => none

/-- Pass over a part of the header that is there if `present`. -/
def skipIf (present : Bool) (skip? : Bytes → Option Bytes) (bytes : Bytes) : Option Bytes :=
  if present then skip? bytes else some bytes

/-- Pass over a part that is preceded by its length. -/
def skipExtra? (bytes : Bytes) : Option Bytes :=
  let length := littleEndian (bytes.take 2)
  if bytes.length < 2 + length then none else some (bytes.drop (2 + length))

/-- Pass over the checksum of a header, which is the low half of the checksum of what stands before it
in the file. -/
def skipHeaderSum? (file : Bytes) (bytes : Bytes) : Option Bytes :=
  let header := file.take (file.length - bytes.length)
  if bytes.length < 2 then none
  else if littleEndian (bytes.take 2) = (crc32 header).toNat % 0x10000 then some (bytes.drop 2)
  else none

/-- The data behind the header of the first member; `none` if there is no sound header. -/
def afterHeader? (file : Bytes) : Option Bytes :=
  match file with
  | 0x1F :: 0x8B :: 0x08 :: flags :: _ :: _ :: _ :: _ :: _ :: _ :: rest =>
    if hasFlag flags 5 || hasFlag flags 6 || hasFlag flags 7 then none
    else do
      let rest ← skipIf (hasFlag flags 2) skipExtra? rest
      let rest ← skipIf (hasFlag flags 3) skipText? rest
      let rest ← skipIf (hasFlag flags 4) skipText? rest
      skipIf (hasFlag flags 1) (skipHeaderSum? file) rest
  | _ => none

/-- Do checksum and length stand behind the data of a member? -/
def hasTrailer (data rest : Bytes) : Bool :=
  (rest.take 8).length = 8 && littleEndian (rest.take 4) = (crc32 data).toNat
    && littleEndian ((rest.drop 4).take 4) = data.length % 0x100000000

/-- What can be read of a compressed file. -/
def decompress (file : Bytes) : Stream :=
  match afterHeader? file with
  | none => .broken
  | some data =>
    match Inflate.inflate data (file.length - data.length) with
    | ⟨output, none⟩ => ⟨output, false⟩
    | ⟨output, some rest⟩ => ⟨output, hasTrailer output rest⟩

end SchemaBuild.Gzip
