import SchemaBuild.Proofs.Archive.Records
import SchemaBuild.Proofs.Lookup.Truncation

/-!
# Files at the root of an archive

A lookup in an archive goes through its items up to the first file at the root that has the name. The
text is the content of that file, if the content is text, and nothing behind the file is looked at: it
may be damaged, or missing. Items of another kind, in directories, with absolute names, or with names
that go upwards are passed over, also if they lead to the name in the end.

* `SourceLookup.root_file_decides` — which item decides, whatever is behind it, and what the lookup
  answers if none does;
* `SourceLookup.root_file_without_text` — the content of a file is no answer if it is no text.
-/

namespace SchemaBuild.SourceLookup

variable {archive : Path} {name : String}

theorem findInBundle_of_absent {bundle : Stream} (h : Tar.find bundle (.ofString name) = .absent) :
    findInBundle archive bundle name = .ok none := by
  rw [findInBundle, h]

/-- A name of a file as bytes: no slash in it, and neither empty nor a dot or two. -/
theorem ofString_isPlain (hslash : '/' ∉ name.toList) (hempty : name ≠ "") (hdot : name ≠ ".")
    (hparent : name ≠ "..") : Path.slash ∉ Bytes.ofString name ∧ Bytes.ofString name ≠ [] ∧
      Bytes.ofString name ≠ Path.dot ∧ Bytes.ofString name ≠ Path.dotDot :=
  ⟨fun h => hslash (Utf8.mem_of_ascii_mem_encode (c := '/') (by decide) h),
    fun h => hempty (Bytes.ofString_inj.mp h), fun h => hdot (Bytes.ofString_inj.mp h),
    fun h => hparent (Bytes.ofString_inj.mp h)⟩

/-- **The first file at the root decides.** Items of all kinds, names and contents can stand in a
bundle. If one of them is a file at the root that has the name, and none before it is, then its content
is the answer if it is text, and an error if it is not; what is behind the file makes no difference. If
none is such a file, and the bundle ends behind them, then the answer is that there is none. -/
theorem root_file_decides (hslash : '/' ∉ name.toList) (hempty : name ≠ "") (hdot : name ≠ ".")
    (hparent : name ≠ "..") :
    (∀ items : List Tar.Item, (∀ item ∈ items, item.Fits) → ∃ front, Tar.Holds front items) ∧
    (∀ front before item, Tar.Holds front (before ++ [item]) →
      (∀ other ∈ before, ¬other.IsRootFile (.ofString name)) → item.IsRootFile (.ofString name) →
      ∀ behind intact,
        (∀ text, item.content = Bytes.ofString text →
          findInBundle archive ⟨front ++ behind, intact⟩ name = .ok (some text)) ∧
        ((∀ text, item.content ≠ Bytes.ofString text) →
          findInBundle archive ⟨front ++ behind, intact⟩ name
            = .error (.archive archive .notText))) ∧
    ∀ front items, Tar.Holds front items →
      (∀ item ∈ items, ¬item.IsRootFile (.ofString name)) →
      findInBundle archive (.ofBytes front) name = .ok none ∧
      ∀ behind intact, findInBundle archive
        ⟨front ++ (List.replicate Tar.blockSize 0 ++ behind), intact⟩ name = .ok none := by
  obtain ⟨hslash, hempty, hdot, hparent⟩ := ofString_isPlain hslash hempty hdot hparent
  refine ⟨?_, ?_, ?_⟩
  · -- blocks can be written for all items
    intro items hfits
    exact ⟨Tar.itemsBlocks items, Tar.holds_itemsBlocks hfits⟩
  · -- the first file of that name decides
    intro front before item hholds hbefore hitem behind intact
    have hfound : Tar.find ⟨front ++ behind, intact⟩ (.ofString name) = .content item.content :=
      hholds.find_first hslash hempty hdot hparent hbefore hitem
    constructor
    · -- its content is a text
      intro text htext
      rw [htext] at hfound
      exact findInBundle_eq_some_iff.mpr hfound
    · -- its content is no text
      intro hnotext
      exact findInBundle_of_no_text hfound hnotext
  · intro front items hholds hnone
    -- nothing is found in the front, so what is behind it decides, and there the bundle ends
    have hbehind : ∀ rest intact, Tar.find ⟨front ++ rest, intact⟩ (.ofString name)
        = Tar.find ⟨rest, intact⟩ (.ofString name) := by
      intro rest intact
      exact hholds.find_behind hslash hempty hdot hparent hnone
    constructor
    · -- the stream may end behind the items
      apply findInBundle_of_absent
      calc Tar.find (.ofBytes front) (.ofString name)
          = Tar.find ⟨front ++ [], true⟩ (.ofString name) := by rw [List.append_nil]; rfl
        _ = Tar.find ⟨[], true⟩ (.ofString name) := hbehind [] true
        _ = .absent := Tar.find_nil _
    · -- blocks of zeros may end the bundle behind the items
      intro behind intact
      apply findInBundle_of_absent
      rw [hbehind]
      exact Tar.find_of_zeros intact _

/-! ### Items that are passed over -/

/-- Items that are not at the root of an archive, or are no files. -/
def decoys : List Tar.Item :=
  [⟨Bytes.ascii '5', Bytes.ofString "a.stema", []⟩,
    ⟨Bytes.ascii '0', Bytes.ofString "old/a.stema", Bytes.ofString "below"⟩,
    ⟨Bytes.ascii '0', Bytes.ofString "/a.stema", Bytes.ofString "absolute"⟩,
    ⟨Bytes.ascii '0', Bytes.ofString "old/../a.stema", Bytes.ofString "upwards"⟩]

/-- A file at the root, with a name that is longer than it needs to be. -/
def rootItem : Tar.Item := ⟨0, Bytes.ofString ".//a.stema/.", Bytes.ofString "schema"⟩

/-- A file whose content is no text. -/
def binaryItem : Tar.Item := ⟨Bytes.ascii '0', Bytes.ofString "a.stema", [0xFF]⟩

theorem holds_decoys : Tar.Holds (Tar.itemsBlocks decoys) decoys :=
  Tar.holds_itemsBlocks (by decide +kernel)

theorem holds_rootItem : Tar.Holds (Tar.itemsBlocks (decoys ++ [rootItem])) (decoys ++ [rootItem]) :=
  Tar.holds_itemsBlocks (by decide +kernel)

theorem holds_binaryItem : Tar.Holds (Tar.itemsBlocks [binaryItem]) ([] ++ [binaryItem]) :=
  Tar.holds_itemsBlocks (by decide +kernel)

theorem decoys_not_isRootFile :
    ∀ item ∈ decoys, ¬item.IsRootFile (.ofString "a.stema") := by
  decide +kernel

theorem binaryItem_isRootFile : binaryItem.IsRootFile (.ofString "a.stema") := by
  decide +kernel

theorem binaryItem_not_text : ∀ text, binaryItem.content ≠ Bytes.ofString text := by
  intro text htext
  have hread : Bytes.toString? [0xFF] = some text := Bytes.toString?_eq_some_iff.mpr htext
  have hnone : Bytes.toString? [0xFF] = none := by decide +kernel
  rw [hnone] at hread
  cases hread

/-- Of the items only the last one is found, although the archive breaks off behind it. -/
theorem root_file_decides_decoys :
    findInBundle (.ofString "/a.tar") ⟨Tar.itemsBlocks (decoys ++ [rootItem]) ++ [1], false⟩ "a.stema"
        = .ok (some "schema") ∧
      findInBundle (.ofString "/a.tar") ⟨Tar.itemsBlocks [binaryItem] ++ [], true⟩ "a.stema"
        = .error (.archive (.ofString "/a.tar") .notText) ∧
      findInBundle (.ofString "/a.tar") (.ofBytes (Tar.itemsBlocks decoys)) "a.stema" = .ok none := by
  obtain ⟨-, hfirst, hnone⟩ := @root_file_decides (.ofString "/a.tar") "a.stema" (by decide)
    (by decide) (by decide) (by decide)
  refine ⟨?_, ?_, ?_⟩
  · exact (hfirst _ decoys rootItem holds_rootItem decoys_not_isRootFile (by decide +kernel) [1]
      false).1 "schema" rfl
  · exact (hfirst _ [] binaryItem holds_binaryItem (by simp) binaryItem_isRootFile [] true).2
      binaryItem_not_text
  · exact (hnone _ decoys holds_decoys decoys_not_isRootFile).1

/-- **The content is not always the answer**: a file that is no text is found, and is an error. -/
theorem root_file_without_text :
    ¬∀ (archive : Path) (name : String) (front behind : Bytes) (intact : Bool)
      (before : List Tar.Item) (item : Tar.Item),
      '/' ∉ name.toList → name ≠ "" → name ≠ "." → name ≠ ".." →
      Tar.Holds front (before ++ [item]) →
      (∀ other ∈ before, ¬other.IsRootFile (.ofString name)) → item.IsRootFile (.ofString name) →
      ∃ text, findInBundle archive ⟨front ++ behind, intact⟩ name = .ok (some text) ∧
        Bytes.ofString text = item.content := by
  intro hcontent
  obtain ⟨hslash, hempty, hdot, hparent⟩ :=
    @ofString_isPlain "a.stema" (by decide) (by decide) (by decide) (by decide)
  -- the file decides, and its content is no text
  have hfound : Tar.find ⟨Tar.itemsBlocks [binaryItem] ++ [], true⟩ (.ofString "a.stema")
      = .content binaryItem.content :=
    holds_binaryItem.find_first hslash hempty hdot hparent (by simp) binaryItem_isRootFile
  have herror : findInBundle (.ofString "/a.tar") _ "a.stema" = _ :=
    findInBundle_of_no_text hfound binaryItem_not_text
  obtain ⟨text, hok, -⟩ := hcontent (.ofString "/a.tar") "a.stema" _ [] true [] binaryItem
    (by decide) (by decide) (by decide) (by decide) holds_binaryItem (by simp) binaryItem_isRootFile
  rw [herror] at hok
  cases hok

end SchemaBuild.SourceLookup
