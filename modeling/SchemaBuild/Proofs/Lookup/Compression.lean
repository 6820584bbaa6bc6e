import SchemaBuild.Proofs.Archive.Compressed
import SchemaBuild.Proofs.Lookup.Interchange

/-!
# Compressed archives

A lookup in a compressed archive looks into the content of the first member of the file and does not
notice that there is more. With one member that is the bundle that was compressed, and a lookup finds
what it finds in the bundle itself. With several members, as they come of files that are put one
behind the other, all files behind the first member are missed.

* `SourceLookup.findInArchive_of_compressed` — an archive is read as the content of its first member;
* `SourceLookup.first_member_decides` — lookups in a compressed archive and in that content agree, in
  texts, in their absence and in errors;
* `SourceLookup.no_agreement_behind_first_member` — lookups in a compressed archive and in all that
  it holds do not.
-/

namespace SchemaBuild.SourceLookup

variable {world : World} {archive : Path} {file content : Bytes} {contents : List Bytes}
  {executable : Bool} {name : String}

/-- What is found in a bundle, whatever the archive is called. -/
def bundleAnswer (bundle : Stream) (name : String) : Except IoError (Option String) :=
  match Tar.find bundle (.ofString name) with
  | .absent => .ok none
  | .damaged => .error damagedArchive
  | .content content =>
    match content.toString? with
    | some text => .ok (some text)
    | none => .error .notText

/-- Errors name the archive, and nothing else depends on what it is called. -/
theorem findInBundle_eq (archive : Path) (bundle : Stream) (name : String) :
    findInBundle archive bundle name = (bundleAnswer bundle name).mapError (.archive archive) := by
  unfold findInBundle bundleAnswer
  cases Tar.find bundle (.ofString name) with
  | absent => rfl
  | damaged => rfl
  | content content =>
    dsimp only
    cases content.toString? <;> rfl

/-- **A compressed archive** is read as the content of its first member. -/
theorem findInArchive_of_compressed (hformat : ArchiveFormat.ofPath? archive = some .compressed)
    (hfile : world.find archive = .ok (.file file executable))
    (hmembers : Gzip.IsFile file (content :: contents)) (name : String) :
    findInArchive world archive name
      = (bundleAnswer (.ofBytes content) name).mapError (.archive archive) := by
  rw [findInArchive, hformat]
  dsimp only
  rw [hfile]
  dsimp only
  rw [ArchiveFormat.bundle, Gzip.decompress_file hmembers, findInBundle_eq]

/-- The text that a lookup on one supplier finds is the text that the supplier gives. -/
theorem text_singleton (extension : String) (world : World) (package : PackageName)
    (supplier : Supplier) :
    (find ⟨[supplier], extension⟩ world package).map (·.map (·.text))
      = findOn world supplier (package.text ++ "." ++ extension) := by
  rw [find_singleton]
  cases findOn world supplier (package.text ++ "." ++ extension) with
  | error error => rfl
  | ok answer => cases answer <;> rfl

/-- **The first member decides.** A lookup in a compressed archive finds what a lookup in a plain
archive finds that holds the content of the first member: the same text, or none in both, or the same
error in both, each naming its own archive. So a file of one member is as good as the bundle that was
compressed, and of a file of several members the others might as well be missing. -/
theorem first_member_decides {compressed plain : Path} {file content : Bytes}
    {contents : List Bytes} {executable executable' : Bool}
    (hcompressed : ArchiveFormat.ofPath? compressed = some .compressed)
    (hplain : ArchiveFormat.ofPath? plain = some .plain)
    (hmembers : Gzip.IsFile file (content :: contents))
    (hfile : world.find compressed = .ok (.file file executable))
    (hcontent : world.find plain = .ok (.file content executable')) (extension : String)
    (package : PackageName) :
    ∃ answer : Except IoError (Option String),
      (find ⟨[⟨.archive, compressed⟩], extension⟩ world package).map (·.map (·.text))
          = answer.mapError (.archive compressed) ∧
        (find ⟨[⟨.archive, plain⟩], extension⟩ world package).map (·.map (·.text))
          = answer.mapError (.archive plain) := by
  refine ⟨bundleAnswer (.ofBytes content) (package.text ++ "." ++ extension), ?_, ?_⟩
  · rw [text_singleton]
    exact findInArchive_of_compressed hcompressed hfile hmembers _
  · rw [text_singleton]
    show findInArchive world plain _ = _
    rw [findInArchive_of_plain hplain hcontent, findInBundle_eq]

/-! ### Two members -/

/-- Another file, as the first one in a bundle. -/
def otherEntry : Bytes := Tar.fileBlocks (Bytes.ofString "b.stema") (Bytes.ofString "schema")

/-- A world with a bundle of two files and with a compressed form of it, which has a member for
each. -/
def splitWorld : World where
  files := ⟨[(Bytes.ofString "a.tar", .file (otherEntry ++ fileBundle) false),
    (Bytes.ofString "b.tar", .file otherEntry false), (Bytes.ofString "a.tar.gz",
      .file (Gzip.storedMember otherEntry ++ Gzip.storedMember fileBundle) false)]⟩
  environment := ⟨[]⟩
  here := .root
  started := []

theorem ofString_otherName : Bytes.ofString "b.stema" = [98, 46, 115, 116, 101, 109, 97] :=
  rfl

theorem isName_otherName : Path.IsName (Bytes.ofString "b.stema") := by
  rw [ofString_otherName]
  constructor <;> decide

theorem find_otherEntry (rest : Bytes) :
    Tar.find (.ofBytes (otherEntry ++ rest)) (.ofString "a.stema")
      = Tar.find (.ofBytes rest) (.ofString "a.stema") := by
  have hother : Bytes.ofString "a.stema" ≠ Bytes.ofString "b.stema" := by
    rw [ofString_fileName, ofString_otherName]
    decide
  exact (Tar.find_fileBlocks isName_otherName schema_length_lt
    isName_fileName.noSlash isName_fileName.ne_nil).trans (if_neg hother)

theorem find_fileBundle :
    Tar.find (.ofBytes fileBundle) (.ofString "a.stema") = .content (Bytes.ofString "schema") :=
  fileBundle_isBundle.find_eq (List.forall_mem_singleton.mpr isName_fileName) isName_fileName.noSlash
    isName_fileName.ne_nil

theorem splitWorld_isFile :
    Gzip.IsFile (Gzip.storedMember otherEntry ++ Gzip.storedMember fileBundle)
      [otherEntry, fileBundle] := by
  have hother : otherEntry.length = 1024 := Tar.fileBlocks_length isName_otherName schema_length_lt
  have hfile : fileBundle.length = 2048 := by
    rw [fileBundle, Tar.bundleOf, List.flatMap_singleton, List.length_append, List.length_replicate,
      Tar.fileBlocks_length isName_fileName schema_length_lt]
    rfl
  exact .more (Gzip.storedMember_isMember (by omega)) (.one (Gzip.storedMember_isMember (by omega)))

theorem ofPath?_compressed : ArchiveFormat.ofPath? (.ofString "/a.tar.gz") = some .compressed := by
  rw [ofPath?_eq (show _ = some (Bytes.ofString "a.tar.gz") from rfl)]
  rfl

theorem splitWorld_find : splitWorld.find (.ofString "/a.tar.gz")
    = .ok (.file (Gzip.storedMember otherEntry ++ Gzip.storedMember fileBundle) false) :=
  rfl

/-- The lookups agree for the file in the first member. -/
theorem first_member_decides_splitWorld : ∃ answer : Except IoError (Option String),
    (find ⟨[⟨.archive, .ofString "/a.tar.gz"⟩], "stema"⟩ splitWorld ⟨"b", rfl⟩).map (·.map (·.text))
        = answer.mapError (.archive (.ofString "/a.tar.gz")) ∧
      (find ⟨[⟨.archive, .ofString "/b.tar"⟩], "stema"⟩ splitWorld ⟨"b", rfl⟩).map (·.map (·.text))
        = answer.mapError (.archive (.ofString "/b.tar")) := by
  have hplain : ArchiveFormat.ofPath? (.ofString "/b.tar") = some .plain := by
    rw [ofPath?_eq (show _ = some (Bytes.ofString "b.tar") from rfl)]
    rfl
  have hcontent : splitWorld.find (.ofString "/b.tar") = .ok (.file otherEntry false) := rfl
  exact first_member_decides ofPath?_compressed hplain splitWorld_isFile splitWorld_find hcontent
    "stema" ⟨"b", rfl⟩

/-- **Behind the first member** nothing is found, although the file holds it. -/
theorem no_agreement_behind_first_member :
    ¬∀ (world : World) (compressed plain : Path) (file : Bytes) (contents : List Bytes)
      (executable executable' : Bool) (extension : String) (package : PackageName),
      ArchiveFormat.ofPath? compressed = some .compressed →
      ArchiveFormat.ofPath? plain = some .plain → Gzip.IsFile file contents →
      world.find compressed = .ok (.file file executable) →
      world.find plain = .ok (.file contents.flatten executable') →
      ∃ answer : Except IoError (Option String),
        (find ⟨[⟨.archive, compressed⟩], extension⟩ world package).map (·.map (·.text))
            = answer.mapError (.archive compressed) ∧
          (find ⟨[⟨.archive, plain⟩], extension⟩ world package).map (·.map (·.text))
            = answer.mapError (.archive plain) := by
  intro hagree
  have hwhole : splitWorld.find (.ofString "/a.tar")
      = .ok (.file [otherEntry, fileBundle].flatten false) := by
    rw [List.flatten_cons, List.flatten_singleton]
    rfl
  have hname : "a" ++ "." ++ "stema" = "a.stema" := rfl
  obtain ⟨answer, hmissed, hfound⟩ := hagree splitWorld (.ofString "/a.tar.gz") (.ofString "/a.tar")
    _ _ false false "stema" ⟨"a", rfl⟩ ofPath?_compressed ofPath?_bundle
    splitWorld_isFile splitWorld_find hwhole
  -- the first member does not hold the file, and the bundle does
  have hfirst : bundleAnswer (.ofBytes otherEntry) "a.stema" = .ok none := by
    have habsent : Tar.find (.ofBytes otherEntry) (.ofString "a.stema") = .absent := by
      rw [← List.append_nil otherEntry, find_otherEntry, Tar.find_nil]
    rw [bundleAnswer, habsent]
  have hall : bundleAnswer (.ofBytes [otherEntry, fileBundle].flatten) "a.stema"
      = .ok (some "schema") := by
    have hcontent : Tar.find (.ofBytes [otherEntry, fileBundle].flatten) (.ofString "a.stema")
        = .content (Bytes.ofString "schema") := by
      rw [List.flatten_cons, List.flatten_singleton, find_otherEntry, find_fileBundle]
    rw [bundleAnswer, hcontent]
    simp [Bytes.toString?_ofString]
  have hcompressedAnswer : findOn splitWorld ⟨.archive, .ofString "/a.tar.gz"⟩ "a.stema" = _ :=
    findInArchive_of_compressed ofPath?_compressed splitWorld_find splitWorld_isFile "a.stema"
  have hplainAnswer : findOn splitWorld ⟨.archive, .ofString "/a.tar"⟩ "a.stema" = _ :=
    findInArchive_of_plain ofPath?_bundle hwhole "a.stema"
  rw [text_singleton, hname, hcompressedAnswer, hfirst] at hmissed
  rw [text_singleton, hname, hplainAnswer, findInBundle_eq, hall] at hfound
  cases answer with
  | error error => cases hmissed
  | ok answer =>
    cases hmissed
    cases hfound

end SchemaBuild.SourceLookup
