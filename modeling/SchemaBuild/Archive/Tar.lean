import SchemaBuild.Archive.Stream
import SchemaBuild.Path
import SchemaBuild.Text.Blank

/-!
# Bundles of files

A bundle is a row of entries. An entry is a header block of 512 bytes and its content, filled up to
whole blocks. A block of zeros, or the end of the source at a block, ends the bundle. Some entries
describe the entry behind them: a long name, a long link target, or a list of attributes that may hold
its name and its size.

`Tar.nextMember?` reads one described entry, and `Tar.find` looks for the first file at the root of
the bundle that has a given name.
-/

namespace SchemaBuild.Tar

/-- The size of a block. -/
def blockSize : Nat := 512

/-- The numbers of a header are below this bound. -/
def numberLimit : Nat := 0x10000000000000000

/-! ### Headers -/

/-- A header block. -/
structure Header where
  block : Bytes
  deriving Repr, DecidableEq

/-- How the fields of a header are laid out, as its mark says. -/
inductive Layout where
  /-- Without a mark. -/
  | old
  /-- With a second part of the name. -/
  | ustar
  /-- With a map of the holes in a file. -/
  | gnu
  deriving Repr, DecidableEq

namespace Header

/-- The `length` bytes from `start` on. -/
def field (header : Header) (start length : Nat) : Bytes := (header.block.drop start).take length

/-- The layout that the header is marked with. -/
def layout (header : Header) : Layout :=
  let mark := header.field 257 8
  if mark = Bytes.ofString "ustar" ++ [0] ++ Bytes.ofString "00" then .ustar
  else if mark = Bytes.ofString "ustar  " ++ [0] then .gnu
  else .old

/-- The type of the entry. -/
def kind (header : Header) : UInt8 := (header.field 156 1).headD 0

end Header

/-- A digit of an octal number. -/
def octalDigit? (c : Char) : Option Nat :=
  if '0' ≤ c ∧ c ≤ '7' then some (c.toNat - 48) else none

/-- The number that octal digits write; there is at least one, and the number is below the bound. -/
def ofOctalDigits? (digits : List Char) : Option Nat :=
  if digits.isEmpty then none
  else
    digits.foldl (fun found c =>
      match found, octalDigit? c with
      | some n, some digit => if 8 * n + digit < numberLimit then some (8 * n + digit) else none
      | _, _ => none) (some 0)

/-- The number in an octal field: digits, perhaps behind a plus, with blanks around them and a NUL
behind them. -/
def octal? (field : Bytes) : Option Nat :=
  match Utf8.decode? field.beforeNul with
  | none => none
  | some text =>
    match Text.trim text with
    | '+' :: digits => ofOctalDigits? digits
    | digits => ofOctalDigits? digits

/-- The number that bytes write, the highest byte first. -/
def bigEndian (bytes : Bytes) : Nat := bytes.foldl (fun n b => 256 * n + b.toNat) 0

/-- The number in a field that may be binary, which the top bit of its first byte says. Then its last
eight bytes count. -/
def number? (field : Bytes) : Option Nat :=
  match field with
  | first :: _ =>
    if 0x80 ≤ first then some (bigEndian (field.drop (field.length - 8))) else octal? field
  | [] => none

namespace Header

/-- The sum of the bytes, the sum's own field counted as blanks. -/
def sum (header : Header) : Nat :=
  ((header.block.take 148).foldl (fun n b => n + b.toNat) 0)
    + ((header.block.drop 156).foldl (fun n b => n + b.toNat) 0) + 8 * 32

/-- Does the header hold its own sum? -/
def isSound (header : Header) : Bool :=
  match octal? (header.field 148 8) with
  | some found => found % 0x100000000 = header.sum
  | none => false

/-- The size of the content. -/
def size? (header : Header) : Option Nat := number? (header.field 124 12)

/-- The name in the header: in one layout a first part may stand in a field of its own. -/
def name (header : Header) : Bytes :=
  let last := (header.field 0 100).beforeNul
  let first := (header.field 345 155).beforeNul
  if header.layout = .ustar && !first.isEmpty then first ++ Path.slash :: last else last

end Header

/-! ### Attributes -/

/-- An attribute of the entry that is described: its name and its value. -/
abbrev Attribute := Bytes × Bytes

/-- The number that decimal digits write, if it is below the bound; a plus may precede them. -/
def decimal? (text : Bytes) : Option Nat :=
  let digits : Bytes := if text.head? = some (Bytes.ascii '+') then text.drop 1 else text
  if digits.isEmpty then none
  else
    digits.foldl (fun found (b : UInt8) =>
      match found with
      | some n =>
        let longer := 10 * n + (b.toNat - 48)
        if 48 ≤ b && b ≤ 57 && longer < numberLimit then some longer else none
      | none => none) (some 0)

/-- The attribute on a line: the length of the line with its line end, a blank, the name, `=` and the
value. -/
def attribute? (line : Bytes) : Option Attribute :=
  match line.idxOf? (Bytes.ascii ' ') with
  | none => none
  | some blank =>
    match decimal? (line.take blank) with
    | none => none
    | some length =>
      if line.length + 1 = length then
        let text := line.drop (blank + 1)
        match text.idxOf? (Bytes.ascii '=') with
        | some equals => some (text.take equals, text.drop (equals + 1))
        | none => none
      else none

/-- The lines of a list of attributes, up to an empty one; a line that is no attribute is `none`. -/
def attributes (list : Bytes) : List (Option Attribute) :=
  ((list.split 10).takeWhile (!·.isEmpty)).map attribute?

/-- The name of the described entry, if the attributes give one. Lines that are none are passed
over. -/
def nameAttribute? (list : Bytes) : Option Bytes :=
  ((attributes list).filterMap id).lookup (Bytes.ofString "path")

/-- The value of the first attribute `size`, if no line before it is damaged. -/
def sizeOf? : List (Option Attribute) → Option Nat
  | [] => none
  | none :: _ => none
  | some (name, value) :: rest =>
    if name = Bytes.ofString "size" then decimal? value else sizeOf? rest

/-- The size of the described entry, if the attributes give one. -/
def sizeAttribute? (list : Bytes) : Option Nat := sizeOf? (attributes list)

/-! ### Entries -/

/-- A header with the source behind it. -/
structure Entry where
  header : Header
  size : Nat
  content : Stream
  deriving Repr, DecidableEq

/-- The size of a content with what fills up its last block. -/
def padded (size : Nat) : Nat := (size + (blockSize - 1)) / blockSize * blockSize

/-- Read a header; a size among the attributes of the entry counts instead of its own. `some none` is
the end of the bundle, and `none` is damage. -/
def headed? (source : Stream) (attributes : Option Bytes) : Option (Option Entry) :=
  match source.block? blockSize with
  | none => none
  | some none => some none
  | some (some (block, content)) =>
    let header : Header := ⟨block⟩
    if block.all (· = 0) then some none
    else if header.isSound then
      match header.size? with
      | none => none
      | some size =>
        let size := (attributes.bind sizeAttribute?).getD size
        if size + (blockSize - 1) < numberLimit then some (some ⟨header, size, content⟩) else none
    else none

/-- The source behind an entry. -/
def Entry.after? (entry : Entry) : Option Stream := entry.content.skip? (padded entry.size)

/-- What entries say of the entry behind them. -/
structure Description where
  longName : Option Bytes := none
  longLink : Option Bytes := none
  attributes : Option Bytes := none

/-- An entry with its description. -/
structure Member where
  entry : Entry
  description : Description

/-- The type of an entry that holds the name of the next one. -/
def longNameKind : UInt8 := Bytes.ascii 'L'

/-- The type of an entry that holds the link target of the next one. -/
def longLinkKind : UInt8 := Bytes.ascii 'K'

/-- The type of an entry that holds attributes of the next one. -/
def attributesKind : UInt8 := Bytes.ascii 'x'

/-- The type of a file with holes. -/
def sparseKind : UInt8 := Bytes.ascii 'S'

namespace Member

/-- The name of the entry: the long name, or the attribute, or the name in the header. -/
def name (member : Member) : Bytes :=
  match member.description.longName with
  | some long => if long.getLast? = some 0 then long.dropLast else long
  | none =>
    match member.description.attributes.bind nameAttribute? with
    | some name => name
    | none => member.entry.header.name

/-- Is the entry an ordinary file? -/
def isFile (member : Member) : Bool :=
  member.entry.header.kind = Bytes.ascii '0' || member.entry.header.kind = 0

/-- The content of the entry: all of it, or what there is if the source ends earlier. -/
def content? (member : Member) : Option Bytes := member.entry.content.read? member.entry.size

/-- Do the name's components lead from the root of the bundle to `name` and nowhere else? -/
def isNamed (member : Member) (name : Path) : Bool :=
  (Path.mk member.name).componentsInside == name.components

end Member

/-! ### Files with holes -/

/-- How far the map of a file with holes has been read. -/
structure HoleMap where
  /-- Where the next part of the file may start. -/
  position : Nat
  /-- How much of the content is not yet assigned. -/
  remaining : Nat

/-- Take a part of the file into the map: its start and length, each a field of twelve bytes. Parts
stand in order, and all but the last one fill whole blocks. -/
def HoleMap.add? (size : Nat) (map : HoleMap) (part : Bytes) : Option HoleMap :=
  let start := part.take 12
  let length := part.drop 12
  if start.headD 0 = 0 || length.headD 0 = 0 then some map
  else do
    let start ← number? start
    let length ← number? length
    if length ≠ 0 && (size - map.remaining) % blockSize ≠ 0 then none
    else if start < map.position then none
    else if start + length ≥ numberLimit then none
    else if map.remaining < length then none
    else some ⟨start + length, map.remaining - length⟩

/-- The parts of a piece of a map, of which there are `count`. -/
def parts (piece : Bytes) (count : Nat) : List Bytes :=
  (List.range count).map fun n => (piece.drop (24 * n)).take 24

/-- Read on a map in further blocks; each takes a block of the source, so `fuel` may be its length. -/
def HoleMap.extend? (size : Nat) :
    (fuel : Nat) → HoleMap → Stream → Option (HoleMap × Stream)
  | 0, _, _ => none
  | fuel + 1, map, source =>
    match source.block? blockSize with
    | some (some (block, source)) =>
      match (parts block 21).foldlM (add? size) map with
      | none => none
      | some map =>
        if (block.drop 504).headD 0 = 1 then extend? size fuel map source else some (map, source)
    | _ => none

/-- A file with holes whose map is sound: the entry with the source behind its map. -/
def Entry.withHoles? (entry : Entry) : Option Entry :=
  if entry.header.layout = .gnu then do
    let map ← (parts (entry.header.field 386 96) 4).foldlM (HoleMap.add? entry.size) ⟨0, entry.size⟩
    let (map, content) ←
      if (entry.header.field 482 1).headD 0 = 1 then
        HoleMap.extend? entry.size (entry.content.bytes.length + 1) map entry.content
      else some (map, entry.content)
    let size ← number? (entry.header.field 483 12)
    if map.position = size && map.remaining = 0 then some { entry with content } else none
  else none

/-! ### Reading a bundle -/

/-- Read the next entry that is not itself a description. `some none` is the end of the bundle, and
`none` is damage: also two descriptions of one kind for one entry, and a description of no entry.
Every header takes a block, so `fuel` may be the length of the source. -/
def nextMemberFrom? : (fuel : Nat) → (first : Bool) → Description → Stream → Option (Option Member)
  | 0, _, _, _ => none
  | fuel + 1, first, description, source =>
    match headed? source description.attributes with
    | none => none
    | some none => if first then some none else none
    | some (some entry) =>
      let kind := entry.header.kind
      if entry.header.layout = .old then some (some ⟨entry, description⟩)
      else if kind = longNameKind then
        match description.longName, entry.content.read? entry.size, entry.after? with
        | none, some content, some rest =>
          nextMemberFrom? fuel false { description with longName := some content } rest
        | _, _, _ => none
      else if kind = longLinkKind then
        match description.longLink, entry.content.read? entry.size, entry.after? with
        | none, some content, some rest =>
          nextMemberFrom? fuel false { description with longLink := some content } rest
        | _, _, _ => none
      else if kind = attributesKind then
        match description.attributes, entry.content.read? entry.size, entry.after? with
        | none, some content, some rest =>
          nextMemberFrom? fuel false { description with attributes := some content } rest
        | _, _, _ => none
      else if kind = sparseKind then entry.withHoles?.map fun entry => some ⟨entry, description⟩
      else some (some ⟨entry, description⟩)

/-- Read the next entry that is not itself a description. -/
def nextMember? (source : Stream) : Option (Option Member) :=
  nextMemberFrom? (source.bytes.length + 1) true {} source

/-- What looking for a file comes to. -/
inductive Found where
  | content (bytes : Bytes)
  | absent
  | damaged
  deriving Repr, DecidableEq

/-- Look for the first file of that name at the root of the bundle. Every entry takes a block, so
`fuel` may be the length of the source. -/
def findFrom (name : Path) : (fuel : Nat) → Stream → Found
  | 0, _ => .damaged
  | fuel + 1, source =>
    match nextMember? source with
    | none => .damaged
    | some none => .absent
    | some (some member) =>
      if member.isFile && member.isNamed name then
        match member.content? with
        | some content => .content content
        | none => .damaged
      else
        match member.entry.after? with
        | some rest => findFrom name fuel rest
        | none => .damaged

/-- Look for the first file of that name at the root of the bundle. What stands behind it is not
looked at. -/
def find (source : Stream) (name : Path) : Found := findFrom name (source.bytes.length + 1) source

end SchemaBuild.Tar
