import SchemaBuild.Proofs.Archive.Members
import SchemaBuild.Proofs.Lookup.Precedence

/-!
# Archives that end too early

An archive that was not copied to its end may end anywhere, and not everywhere does a lookup notice.
Inside a header it does, and inside a content that it passes over. Inside the content that it looks
for it does not: the text is then what there is of it.

* `Tar.Member.CutShort` — the archive ends inside the content of a member;
* `SourceLookup.text_of_plain_archive` — the text that a lookup finds in an archive is as long as
  its header declares exactly if the content is not cut short; if it is, the lookup still succeeds
  with whatever text is left;
* `SourceLookup.text_shorter_than_declared` — so a text may be shorter than declared.
-/

namespace SchemaBuild

/-- The source ends inside the content. -/
def Tar.Member.CutShort (member : Tar.Member) : Prop :=
  member.entry.content.bytes.length < member.entry.size

namespace Tar.Member

variable {member : Member} {source : Stream}

/-- From a source that can be read to its end comes as much of the content as there is. -/
theorem content?_of_intact (h : member.ReadFrom source) (hintact : source.intact = true) :
    member.content? = some (member.entry.content.bytes.take member.entry.size) :=
  Stream.read?_of_intact (h.intact.trans hintact) _

theorem length_take_size_iff :
    (member.entry.content.bytes.take member.entry.size).length = member.entry.size ↔
      ¬member.CutShort := by
  rw [List.length_take, CutShort]
  omega

/-- An ordinary file stands in the source as a whole: its header, and behind it its content. -/
theorem placed_of_isFile (h : member.ReadFrom source) (hfile : member.isFile = true) :
    ∃ front, source.bytes = front ++ member.entry.header.block ++ member.entry.content.bytes := by
  obtain ⟨front, content, hbytes, -, hcontent⟩ := h.placed
  rw [hcontent hfile] at hbytes
  exact ⟨front, hbytes⟩

end Tar.Member

namespace SourceLookup

variable {world : World} {archive : Path} {bytes : Bytes} {executable : Bool} {name text : String}

/-! ### Files in archives -/

theorem findInArchive_of_plain (hformat : ArchiveFormat.ofPath? archive = some .plain)
    (hfile : world.find archive = .ok (.file bytes executable)) (name : String) :
    findInArchive world archive name = findInBundle archive (.ofBytes bytes) name := by
  rw [findInArchive, hformat]
  dsimp only
  rw [hfile]
  rfl

theorem findInBundle_eq_some_iff {bundle : Stream} :
    findInBundle archive bundle name = .ok (some text) ↔
      Tar.find bundle (.ofString name) = .content (Bytes.ofString text) := by
  unfold findInBundle
  cases Tar.find bundle (.ofString name) with
  | absent =>
    -- nothing is found
    simp
  | damaged =>
    -- the bundle is damaged
    simp
  | content content =>
    -- content is found, which may be a text
    dsimp only
    rw [Tar.Found.content.injEq, ← Bytes.toString?_eq_some_iff]
    cases content.toString? <;> simp

/-- A file that was found and is no text is an error. -/
theorem findInBundle_of_no_text {bundle : Stream} {content : Bytes}
    (hfound : Tar.find bundle (.ofString name) = .content content)
    (hnotext : ∀ text, content ≠ Bytes.ofString text) :
    findInBundle archive bundle name = .error (.archive archive .notText) := by
  rw [findInBundle, hfound]
  dsimp only
  cases htext : content.toString? with
  | none =>
    -- the content is no text, as was said
    rfl
  | some text =>
    -- a text is excluded
    exact absurd (Bytes.toString?_eq_some_iff.mp htext) (hnotext text)

/-- **A file in an archive** that is a plain bundle: the text is as much of the content of the first
file of the name as there is. -/
theorem findInArchive_eq_some_iff (hformat : ArchiveFormat.ofPath? archive = some .plain)
    (hfile : world.find archive = .ok (.file bytes executable)) :
    findInArchive world archive name = .ok (some text) ↔
      ∃ member, Tar.FirstNamed (.ofString name) (.ofBytes bytes) member ∧
        Bytes.ofString text = member.entry.content.bytes.take member.entry.size := by
  rw [findInArchive_of_plain hformat hfile, findInBundle_eq_some_iff, Tar.find_eq_content_iff]
  constructor
  · -- the member's content is what is there of it
    rintro ⟨member, hfirst, hcontent⟩
    rw [Tar.Member.content?_of_intact hfirst.readFrom rfl] at hcontent
    exact ⟨member, hfirst, (Option.some.inj hcontent).symm⟩
  · -- so all that is there is the content
    rintro ⟨member, hfirst, htext⟩
    refine ⟨member, hfirst, ?_⟩
    rw [Tar.Member.content?_of_intact hfirst.readFrom rfl, htext]

variable {extension : String} {package : PackageName}

/-- **Texts from archives.** Whatever a lookup finds in a plain archive is the front of the content
of the first file of the name, and it has the declared size exactly if the archive does not end
inside that content. If the archive does end there, the lookup succeeds with what is left, provided
that it is text, and the text is shorter than declared. -/
theorem text_of_plain_archive (hformat : ArchiveFormat.ofPath? archive = some .plain)
    (hfile : world.find archive = .ok (.file bytes executable)) :
    (∀ suppliers source, find ⟨suppliers, extension⟩ world package = .ok (some source) →
      source.origin = ⟨.archive, archive⟩ →
      ∃ member size front,
        Tar.FirstNamed (.ofString (package.text ++ "." ++ extension)) (.ofBytes bytes) member ∧
        bytes = front ++ member.entry.header.block ++ member.entry.content.bytes ∧
        member.declaredSize? = some size ∧
        Bytes.ofString source.text = member.entry.content.bytes.take size ∧
        ((Bytes.ofString source.text).length = size ↔ ¬member.CutShort)) ∧
    ∀ before after member text,
      (∀ supplier ∈ before, find ⟨[supplier], extension⟩ world package = .ok none) →
      Tar.FirstNamed (.ofString (package.text ++ "." ++ extension)) (.ofBytes bytes) member →
      member.CutShort → member.entry.content.bytes = Bytes.ofString text →
      find ⟨before ++ ⟨.archive, archive⟩ :: after, extension⟩ world package
          = .ok (some ⟨package, ⟨.archive, archive⟩, text⟩) ∧
        some (Bytes.ofString text).length ≠ member.declaredSize? := by
  constructor
  · intro suppliers source hhit horigin
    -- by precedence the hit is one of the archive alone
    obtain ⟨-, _, _, -, -, hfound⟩ := find_eq_some_iff.mp hhit
    rw [horigin] at hfound
    obtain ⟨-, -, hanswer⟩ := find_singleton_eq_some_iff.mp hfound
    obtain ⟨member, hfirst, htext⟩ := (findInArchive_eq_some_iff hformat hfile).mp hanswer
    obtain ⟨front, hplaced⟩ := Tar.Member.placed_of_isFile hfirst.readFrom hfirst.isFile
    refine ⟨member, member.entry.size, front, hfirst, hplaced, hfirst.readFrom.size, htext, ?_⟩
    rw [htext, Tar.Member.length_take_size_iff]
  · intro before after member text hbefore hfirst hcut htext
    -- all that is left is fewer bytes than are asked for
    have hall : member.entry.content.bytes.take member.entry.size = Bytes.ofString text := by
      rw [← htext]
      exact List.take_of_length_le (Nat.le_of_lt hcut)
    have hanswer := (findInArchive_eq_some_iff hformat hfile).mpr ⟨member, hfirst, hall.symm⟩
    constructor
    · exact find_eq_some_iff.mpr ⟨rfl, before, after, rfl, hbefore,
        find_singleton_eq_some_iff.mpr ⟨rfl, rfl, hanswer⟩⟩
    · rw [hfirst.readFrom.size, ← htext]
      exact fun h => Nat.ne_of_lt hcut (Option.some.inj h)

/-! ### An archive that is cut short -/

/-- An archive with a file of two bytes, of which only the first one is there. -/
def cutArchive : Bytes :=
  Bytes.ofString "a.stema" ++ List.replicate 117 0 ++ Bytes.ofString "00000000002"
    ++ List.replicate 13 0 ++ Bytes.ofString "002753" ++ [0, 32] ++ Bytes.ofString "0"
    ++ List.replicate 355 0 ++ [65]

/-- The file in it. -/
def cutMember : Tar.Member := ⟨⟨⟨cutArchive.take Tar.blockSize⟩, 2, .ofBytes [65]⟩, {}⟩

/-- A world with this archive in it. -/
def cutWorld : World where
  files := ⟨[(Bytes.ofString "a.tar", .file cutArchive false)]⟩
  environment := ⟨[]⟩
  here := .root
  started := []

theorem cutMember_first : Tar.FirstNamed (.ofString "a.stema") (.ofBytes cutArchive) cutMember := by
  refine .here ?_ ?_
  · decide +kernel
  · decide +kernel

theorem cutWorld_find : cutWorld.find (.ofString "/a.tar") = .ok (.file cutArchive false) := rfl

/-- One byte of two is found, and there is no error. -/
theorem text_of_cut_archive :
    find ⟨[⟨.archive, .ofString "/a.tar"⟩], "stema"⟩ cutWorld ⟨"a", rfl⟩
        = .ok (some ⟨⟨"a", rfl⟩, ⟨.archive, .ofString "/a.tar"⟩, "A"⟩) ∧
      some (Bytes.ofString "A").length ≠ cutMember.declaredSize? := by
  have hformat : ArchiveFormat.ofPath? (.ofString "/a.tar") = some .plain := by decide +kernel
  have hcut : cutMember.CutShort := Nat.lt_succ_self 1
  exact (text_of_plain_archive hformat cutWorld_find).2 [] [] cutMember "A" (by simp)
    cutMember_first hcut (by decide +kernel)

/-- **A text may be shorter than declared**, and the lookup that finds it does not fail. -/
theorem text_shorter_than_declared :
    ¬∀ (world : World) (archive : Path) (bytes : Bytes) (executable : Bool)
      (suppliers : List Supplier) (extension : String) (package : PackageName)
      (source : SchemaSource) (member : Tar.Member),
      ArchiveFormat.ofPath? archive = some .plain →
      world.find archive = .ok (.file bytes executable) →
      find ⟨suppliers, extension⟩ world package = .ok (some source) →
      source.origin = ⟨.archive, archive⟩ →
      Tar.FirstNamed (.ofString (package.text ++ "." ++ extension)) (.ofBytes bytes) member →
      member.declaredSize? = some (Bytes.ofString source.text).length := by
  intro hfull
  have hformat : ArchiveFormat.ofPath? (.ofString "/a.tar") = some .plain := by decide +kernel
  have hanswer : findInArchive cutWorld (.ofString "/a.tar") "a.stema" = .ok (some "A") :=
    (findInArchive_eq_some_iff hformat cutWorld_find).mpr
      ⟨cutMember, cutMember_first, by decide +kernel⟩
  have hfound : find ⟨[⟨.archive, .ofString "/a.tar"⟩], "stema"⟩ cutWorld ⟨"a", rfl⟩
      = .ok (some ⟨⟨"a", rfl⟩, ⟨.archive, .ofString "/a.tar"⟩, "A"⟩) :=
    find_singleton_eq_some_iff.mpr ⟨rfl, rfl, hanswer⟩
  -- a text as long as declared would have two bytes
  have hsize := hfull cutWorld (.ofString "/a.tar") cutArchive false _ "stema" ⟨"a", rfl⟩ _
    cutMember hformat cutWorld_find hfound rfl cutMember_first
  rw [cutMember_first.readFrom.size] at hsize
  revert hsize
  decide +kernel

end SourceLookup

end SchemaBuild
