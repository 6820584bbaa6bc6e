import SchemaBuild.Proofs.Archive.Compressed
import SchemaBuild.Proofs.Archive.Items

/-!
# Items that are written down

Every item can stand in a bundle, whatever its kind is and whatever bytes are in its name. Its name is
the content of a record of its own, which describes the record behind it, and that one has no mark, so
that its kind means nothing but the kind of the item. Sizes are binary numbers.

* `Tar.number?_binaryField` — a binary number is read as it was written;
* `Tar.record` — a header and a content, and `Tar.headed?_record`, what is read of it;
* `Tar.holds_itemsBlocks` — the blocks of the items hold the items.
-/

namespace SchemaBuild.Tar

open Deflate

/-! ### Binary numbers -/

/-- A field of twelve bytes with a binary number in its last eight. -/
def binaryField (n : Nat) : Bytes := 128 :: (List.replicate 3 0 ++ (lowBytes 8 n).reverse)

theorem binaryField_length (n : Nat) : (binaryField n).length = 12 := by
  simp [binaryField]

theorem bigEndian_reverse (bytes : Bytes) : bigEndian bytes.reverse = Gzip.littleEndian bytes := by
  rw [bigEndian, List.foldl_reverse, Gzip.littleEndian]
  congr 1
  funext b n
  exact Nat.add_comm _ _

/-- A number below the bound is read from its field. -/
theorem number?_binaryField {n : Nat} (h : n < numberLimit) : number? (binaryField n) = some n := by
  have hlast : (binaryField n).drop ((binaryField n).length - 8) = (lowBytes 8 n).reverse := by
    rw [binaryField_length]
    rfl
  have hvalue : n % 256 ^ 8 = n := Nat.mod_eq_of_lt h
  rw [binaryField, number?, if_pos (by decide), ← binaryField, hlast, bigEndian_reverse,
    Gzip.littleEndian_lowBytes, hvalue]

/-! ### Records -/

/-- What stands in the header of a record before the sum: the size, and no name. -/
def recordFront (size : Nat) : Bytes :=
  List.replicate 124 0 ++ (binaryField size ++ List.replicate 12 0)

/-- What stands behind the sum: the kind and the mark. -/
def recordBack (kind : UInt8) (mark : Bytes) : Bytes :=
  kind :: (List.replicate 100 0 ++ (mark ++ List.replicate 247 0))

/-- The header of a record. -/
def recordHeader (kind : UInt8) (mark : Bytes) (size : Nat) : Bytes :=
  summed (recordFront size) (recordBack kind mark)

/-- A record: a header, the content and what fills up its last block. -/
def record (kind : UInt8) (mark content : Bytes) : Bytes :=
  recordHeader kind mark content.length
    ++ (content ++ List.replicate (fill content.length) 0)

/-- The entry that a record begins. -/
def recordEntry (kind : UInt8) (mark content : Bytes) (rest : Stream) : Entry where
  header := ⟨recordHeader kind mark content.length⟩
  size := content.length
  content := ⟨content ++ (List.replicate (fill content.length) 0 ++ rest.bytes), rest.intact⟩

theorem recordFront_length (size : Nat) : (recordFront size).length = 148 := by
  simp [recordFront, binaryField_length]

section Record

variable {kind : UInt8} {mark content : Bytes} {size : Nat}

theorem drop_recordHeader (n : Nat) :
    (recordHeader kind mark size).drop (156 + n) = (recordBack kind mark).drop n :=
  drop_summed (recordFront_length size) n

theorem kind_recordHeader : Header.kind ⟨recordHeader kind mark size⟩ = kind := by
  rw [Header.kind, Header.field, show (156 : Nat) = 156 + 0 from rfl, drop_recordHeader]
  rfl

theorem size?_recordHeader (h : size < numberLimit) :
    Header.size? ⟨recordHeader kind mark size⟩ = some size := by
  have hfield : Header.field ⟨recordHeader kind mark size⟩ 124 12 = binaryField size := by
    rw [Header.field, recordHeader, summed, recordFront, List.append_assoc,
      List.drop_left' List.length_replicate, List.append_assoc,
      List.take_left' (binaryField_length size)]
  rw [Header.size?, hfield, number?_binaryField h]

section Marked

variable (hmark : mark.length = 8)

include hmark

theorem recordBack_length : (recordBack kind mark).length = 356 := by
  simp only [recordBack, List.length_cons, List.length_append, List.length_replicate, hmark]

theorem recordHeader_length : (recordHeader kind mark size).length = blockSize :=
  summed_length (recordFront_length size) (recordBack_length hmark)

theorem isSound_recordHeader : Header.isSound ⟨recordHeader kind mark size⟩ = true :=
  isSound_of_isOctal (recordHeader_length hmark)
    (isOctal_summed (recordFront_length size) (recordBack_length hmark))

theorem mark_recordHeader : Header.field ⟨recordHeader kind mark size⟩ 257 8 = mark := by
  rw [Header.field, show (257 : Nat) = 156 + 101 from rfl, drop_recordHeader, recordBack,
    List.drop_succ_cons, List.drop_left' List.length_replicate, List.take_left' hmark]

/-- **A record at the front** is read as what it was written from. -/
theorem headed?_record (hsize : content.length + (blockSize - 1) < numberLimit) (rest : Stream) :
    headed? ⟨record kind mark content ++ rest.bytes, rest.intact⟩ none
      = some (some (recordEntry kind mark content rest)) := by
  have hlimit : content.length < numberLimit := by omega
  -- the number in the header is binary, and says so in its first byte
  have hnonzero : (recordHeader kind mark content.length).all (· = 0) = false := by
    have hsize : 128 ∈ recordFront content.length :=
      List.mem_append_right _ (List.mem_append_left _ List.mem_cons_self)
    rw [List.all_eq_false]
    exact ⟨128, List.mem_append_left _ hsize, by decide⟩
  rw [record, List.append_assoc, List.append_assoc, headed?,
    Stream.block?_front _ (recordHeader_length hmark)]
  dsimp only
  rw [hnonzero, isSound_recordHeader hmark, size?_recordHeader hlimit, if_neg Bool.false_ne_true,
    if_pos rfl]
  exact if_pos hsize

end Marked

theorem read?_recordEntry (rest : Stream) :
    (recordEntry kind mark content rest).content.read? (recordEntry kind mark content rest).size
      = some content := by
  simp [recordEntry, Stream.read?]

theorem after?_recordEntry (rest : Stream) :
    (recordEntry kind mark content rest).after? = some rest := by
  have hlength : (content ++ List.replicate (fill content.length) 0).length
      = padded content.length := by
    rw [List.length_append, List.length_replicate, padded_eq]
  rw [Entry.after?, recordEntry, ← List.append_assoc]
  exact Stream.skip?_front rest.intact hlength

end Record

/-! ### Items -/

/-- The mark of a header whose kind may say that it describes the next one. -/
def describingMark : Bytes := Bytes.ofString "ustar  " ++ [0]

/-- No mark. -/
def noMark : Bytes := List.replicate 8 0

/-- An item as it stands in a bundle: a record with its name, and one with its content. -/
def itemBlocks (item : Item) : Bytes :=
  record longNameKind describingMark (item.name ++ [0]) ++ record item.kind noMark item.content

/-- The items one after the other. -/
def itemsBlocks (items : List Item) : Bytes := items.flatMap itemBlocks

/-- The name and the content of the item are so short that numbers for their sizes exist. -/
structure Item.Fits (item : Item) : Prop where
  name : item.name.length + blockSize < numberLimit
  content : item.content.length + (blockSize - 1) < numberLimit

instance (item : Item) : Decidable item.Fits :=
  decidable_of_iff (item.name.length + blockSize < numberLimit ∧
      item.content.length + (blockSize - 1) < numberLimit)
    ⟨fun ⟨name, content⟩ => ⟨name, content⟩, fun ⟨name, content⟩ => ⟨name, content⟩⟩

section Layout

variable {kind : UInt8} {size : Nat}

theorem layout_describingMark :
    Header.layout ⟨recordHeader kind describingMark size⟩ = .gnu := by
  rw [Header.layout, mark_recordHeader (by decide)]
  decide

theorem layout_noMark : Header.layout ⟨recordHeader kind noMark size⟩ = .old := by
  rw [Header.layout, mark_recordHeader (by decide)]
  decide

end Layout

variable {item : Item}

/-- The member that an item is read as. -/
def itemMember (item : Item) (rest : Stream) : Member :=
  ⟨recordEntry item.kind noMark item.content rest, { longName := some (item.name ++ [0]) }⟩

/-- The first record of an item says the name of the second one. -/
theorem describes_itemBlocks (h : item.Fits) (rest : Stream) :
    Describes {} ⟨itemBlocks item ++ rest.bytes, rest.intact⟩
      { longName := some (item.name ++ [0]) }
      ⟨record item.kind noMark item.content ++ rest.bytes, rest.intact⟩ := by
  let behind : Stream := ⟨record item.kind noMark item.content ++ rest.bytes, rest.intact⟩
  let described : Entry := recordEntry longNameKind describingMark (item.name ++ [0]) behind
  have hname : (item.name ++ [0]).length + (blockSize - 1) < numberLimit := by
    have hfits := h.name
    rw [List.length_append, List.length_singleton]
    unfold blockSize at hfits ⊢
    omega
  have hfirst : headed? ⟨itemBlocks item ++ rest.bytes, rest.intact⟩ none
      = some (some described) := by
    rw [itemBlocks, List.append_assoc]
    exact headed?_record (by decide) hname behind
  have hmarked : described.header.layout ≠ .old := by
    rw [show described.header.layout = .gnu from layout_describingMark]
    decide
  have htakes : Description.Takes {} described.header.kind (item.name ++ [0])
      { longName := some (item.name ++ [0]) } := by
    rw [show described.header.kind = longNameKind from kind_recordHeader]
    exact .longName rfl
  exact ⟨hfirst, hmarked, htakes, read?_recordEntry behind, after?_recordEntry behind⟩

/-- The description is followed, and what it describes has no mark and is itself no description. -/
theorem nextMember?_itemBlocks (h : item.Fits) (rest : Stream) :
    nextMember? ⟨itemBlocks item ++ rest.bytes, rest.intact⟩
      = some (some (itemMember item rest)) := by
  have hdescribes := describes_itemBlocks h rest
  -- both headers take fuel, and a header takes a block of the source
  obtain ⟨fuel, hfuel⟩ : ∃ fuel, (itemBlocks item ++ rest.bytes).length + 1 = fuel + 2 := by
    have hlength : _ < (itemBlocks item ++ rest.bytes).length := hdescribes.length_lt
    exact ⟨(itemBlocks item ++ rest.bytes).length - 1, by omega⟩
  rw [nextMember?, hfuel, nextMemberFrom?_of_describes hdescribes]
  exact nextMemberFrom?_of_heads
    (.unmarked (headed?_record (by decide) h.content rest) layout_noMark)

/-- The name of the item was written with a NUL behind it. -/
theorem item_itemMember (item : Item) (rest : Stream) :
    (itemMember item rest).item item.content = item := by
  have hkind : (itemMember item rest).entry.header.kind = item.kind := kind_recordHeader
  have hname : (itemMember item rest).name = item.name := by
    simp [itemMember, Member.name]
  rw [Member.item, hkind, hname]

/-- **Every list of items** stands in its blocks. -/
theorem holds_itemsBlocks {items : List Item} (h : ∀ item ∈ items, item.Fits) :
    Holds (itemsBlocks items) items := by
  induction items with
  | nil => exact .nil
  | cons item items ih =>
    obtain ⟨hfirst, hitems⟩ := List.forall_mem_cons.mp h
    have hnext := nextMember?_itemBlocks hfirst ⟨itemsBlocks items, false⟩
    have hholds := Holds.cons hnext (read?_recordEntry _) (after?_recordEntry _) (ih hitems)
    rw [item_itemMember] at hholds
    rw [itemsBlocks, List.flatMap_cons]
    exact hholds

end SchemaBuild.Tar
