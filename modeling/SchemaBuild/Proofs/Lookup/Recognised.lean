import SchemaBuild.Proofs.Lookup.Compression

/-!
# Which archives are read

An archive is read if the end of its file name stands for a format, in whatever case its letters are.
The rest of the name does not matter as long as all of it is text. A lookup that comes to such an
archive answers from it: with the text of the first file of the name, or with an error if the archive
cannot be opened, or if it is damaged before the file or in it; and it goes on with the suppliers
behind the archive only if the archive can be read to its end and does not have the file.

The name of a file is a byte string and may be no text, and then its end does not count: the archive
is passed over, whatever is in it.

* `ArchiveFormat.ofFileName?_eq_some_iff` — the names that stand for a format;
* `Tar.Passes` — how far a walk for a file goes; `Tar.searched` says where it can end;
* `SourceLookup.Reads` — a lookup that does not pass an archive over;
* `SourceLookup.reads_archive_iff_text` — so are the lookups in all archives whose names end so and are
  text, and no others of them;
* `SourceLookup.archive_passed_over` — an archive that has the file and is not read.
-/

namespace SchemaBuild

/-! ### Names of archives -/

namespace Bytes

/-- A name ends in a text in whatever case exactly if the text is the end of its lower-case form. -/
theorem isSuffixOf_lower_iff {suffix name : Bytes} : suffix.isSuffixOf name.lower = true ↔
    ∃ front ending : Bytes, name = front ++ ending ∧ ending.lower = suffix := by
  rw [List.isSuffixOf_iff_suffix]
  constructor
  · -- the name is cut where its lower-case form is
    rintro ⟨lowered, hlower⟩
    obtain ⟨front, ending, hname, -, hending⟩ := List.map_eq_append_iff.mp hlower.symm
    exact ⟨front, ending, hname, hending⟩
  · -- an ending in any case is the suffix in lower case
    rintro ⟨front, ending, rfl, rfl⟩
    exact ⟨front.lower, List.map_append.symm⟩

end Bytes

namespace ArchiveFormat

variable {format : ArchiveFormat} {name : Bytes}

/-- The ends of names that stand for a format, in lower case. -/
def endings : ArchiveFormat → List String
  | plain => [".tar"]
  | compressed => [".tar.gz", ".tgz"]

/-- Does a name end as the names of archives of this format do, in whatever case? -/
def Ends (format : ArchiveFormat) (name : Bytes) : Prop :=
  ∃ text ∈ format.endings, ∃ front ending : Bytes, name = front ++ ending ∧
    ending.lower = Bytes.ofString text

theorem ends_compressed_iff : compressed.Ends name ↔
    ((Bytes.ofString ".tar.gz").isSuffixOf name.lower
      || (Bytes.ofString ".tgz").isSuffixOf name.lower) = true := by
  rw [Bool.or_eq_true, Bytes.isSuffixOf_lower_iff, Bytes.isSuffixOf_lower_iff, Ends, endings,
    List.exists_mem_cons_iff, List.exists_mem_cons_iff]
  simp

theorem ends_plain_iff : plain.Ends name ↔
    (Bytes.ofString ".tar").isSuffixOf name.lower = true := by
  rw [Bytes.isSuffixOf_lower_iff, Ends, endings, List.exists_mem_cons_iff]
  simp

/-- No name ends as the names of two formats do: its last letter tells them apart. -/
theorem not_ends_plain (h : compressed.Ends name) : ¬plain.Ends name := by
  rintro ⟨text, htext, front, ending, rfl, hending⟩
  obtain ⟨text', htext', front', ending', hname, hending'⟩ := h
  have hlast : (Bytes.ofString text).getLast? = some (Bytes.ascii 'r') := by
    rw [List.mem_singleton.mp htext]
    rfl
  have hlast' : (Bytes.ofString text').getLast? = some (Bytes.ascii 'z') := by
    obtain rfl | htext' := List.mem_cons.mp htext'
    · -- the first ending
      rfl
    · -- the second ending
      rw [List.mem_singleton.mp htext']
      rfl
  have hlower : front.lower ++ Bytes.ofString text = front'.lower ++ Bytes.ofString text' := by
    rw [← hending, ← hending', Bytes.lower, Bytes.lower, Bytes.lower, Bytes.lower, ← List.map_append,
      ← List.map_append, hname]
  have hsame := congrArg List.getLast? hlower
  rw [List.getLast?_append, List.getLast?_append, hlast, hlast'] at hsame
  cases hsame

/-- **The names that stand for a format** are the texts that end so. -/
theorem ofFileName?_eq_some_iff : ofFileName? name = some format ↔
    (∃ text, name = Bytes.ofString text) ∧ format.Ends name := by
  rw [ofFileName?]
  cases htext : name.toString? with
  | none =>
    -- what is no text stands for no format, however it ends
    constructor
    · intro h
      cases h
    · rintro ⟨⟨text, rfl⟩, -⟩
      rw [Bytes.toString?_ofString] at htext
      cases htext
  | some text =>
    have hname : ∃ text, name = Bytes.ofString text :=
      ⟨text, Bytes.toString?_eq_some_iff.mp htext⟩
    simp only [hname, true_and]
    -- the endings are tried in turn, and no name has both
    split
    · next hends =>
      -- the name has an ending for compressed archives
      have hcompressed := ends_compressed_iff.mpr hends
      cases format with
      | plain => simpa using not_ends_plain hcompressed
      | compressed => simpa using hcompressed
    · next hcompressed =>
      rw [← ends_compressed_iff] at hcompressed
      split
      · next hends =>
        have hplain := ends_plain_iff.mpr hends
        cases format with
        | plain => simpa using hplain
        | compressed => simpa using hcompressed
      · next hplain =>
        -- the name has no ending of the two
        rw [← ends_plain_iff] at hplain
        cases format with
        | plain => simpa using hplain
        | compressed => simpa using hcompressed

end ArchiveFormat

/-! ### Walks for a file -/

namespace Tar

variable {name : Path} {source rest : Stream} {member : Member}

/-- A walk for a file passes members that can be read and are not the file, down to `rest`. -/
inductive Passes (name : Path) : Stream → Stream → Prop
  | refl (source : Stream) : Passes name source source
  | step {source behind rest : Stream} {member : Member}
      (next : nextMember? source = some (some member))
      (passed : (member.isFile && member.isNamed name) = false)
      (after : member.entry.after? = some behind) (later : Passes name behind rest) :
      Passes name source rest

/-- The walk goes on with what is left. -/
theorem Passes.find_eq (h : Passes name source rest) : find source name = find rest name := by
  induction h with
  | refl source =>
    -- nothing is passed
    rfl
  | step next passed after _ ih =>
    -- the first member is passed, and the search goes on behind it
    rw [Tar.find_eq, next]
    dsimp only
    rw [passed, after]
    exact ih

/-- The walk comes to damage before it comes to the file: a header cannot be read, or a content
cannot be passed over. -/
def DamagedBefore (name : Path) (source : Stream) : Prop :=
  ∃ rest, Passes name source rest ∧ (nextMember? rest = none ∨
    ∃ member, nextMember? rest = some (some member) ∧
      (member.isFile && member.isNamed name) = false ∧ member.entry.after? = none)

/-- The walk comes to the end of the bundle, and there was no file of the name. -/
def Lacks (name : Path) (source : Stream) : Prop :=
  ∃ rest, Passes name source rest ∧ nextMember? rest = some none

theorem DamagedBefore.find_eq (h : DamagedBefore name source) : find source name = .damaged := by
  obtain ⟨rest, hpasses, hnext | ⟨member, hnext, hpassed, hafter⟩⟩ := h
  · rw [hpasses.find_eq, Tar.find_eq, hnext]
  · rw [hpasses.find_eq, Tar.find_eq, hnext]
    dsimp only
    rw [hpassed, hafter]
    rfl

theorem Lacks.find_eq (h : Lacks name source) : find source name = .absent := by
  obtain ⟨rest, hpasses, hnext⟩ := h
  rw [hpasses.find_eq, Tar.find_eq, hnext]

/-- **Every walk** comes to the file, or to damage before it, or to the end without it. -/
theorem searched (name : Path) (source : Stream) :
    (∃ member, FirstNamed name source member) ∨ DamagedBefore name source ∨ Lacks name source := by
  -- on the length: every member that is passed takes its header off the front
  induction hlength : source.bytes.length using Nat.strong_induction_on generalizing source with
  | h length ih =>
    cases hnext : nextMember? source with
    | none =>
      -- the archive is damaged here
      exact .inr (.inl ⟨source, .refl source, .inl hnext⟩)
    | some found =>
      cases found with
      | none =>
        -- the archive ends here
        exact .inr (.inr ⟨source, .refl source, hnext⟩)
      | some member =>
        cases hnamed : member.isFile && member.isNamed name with
        | true =>
          -- this is the member
          exact .inl ⟨member, .here hnext hnamed⟩
        | false =>
          cases hafter : member.entry.after? with
          | none =>
            -- the archive is damaged behind this member
            exact .inr (.inl ⟨source, .refl source, .inr ⟨member, hnext, hnamed, hafter⟩⟩)
          | some behind =>
            have hlt := after?_length_lt hnext hafter
            obtain ⟨first, hfirst⟩ | ⟨rest, hpasses, hdamage⟩ | ⟨rest, hpasses, hend⟩ :=
              ih behind.bytes.length (hlength ▸ hlt) behind rfl
            · -- the first one of that name comes later
              exact .inl ⟨first, .later hnext hnamed hafter hfirst⟩
            · -- the damage comes later
              exact .inr (.inl ⟨rest, .step hnext hnamed hafter hpasses, hdamage⟩)
            · -- the end comes later
              exact .inr (.inr ⟨rest, .step hnext hnamed hafter hpasses, hend⟩)

end Tar

/-! ### Lookups -/

namespace SourceLookup

variable {world : World} {archive : Path} {extension file : String} {package : PackageName}
  {before after : List Supplier} {supplier : Supplier} {format : ArchiveFormat} {name : Bytes}

/-- Behind suppliers that have nothing, the next one answers, or else those behind it. -/
theorem find_behind
    (h : ∀ other ∈ before, find ⟨[other], extension⟩ world package = .ok none) :
    find ⟨before ++ supplier :: after, extension⟩ world package =
      match findOn world supplier (package.text ++ "." ++ extension) with
      | .error error => .error error
      | .ok (some text) => .ok (some ⟨package, supplier, text⟩)
      | .ok none => find ⟨after, extension⟩ world package := by
  have hbefore : find ⟨before, extension⟩ world package = .ok none := by
    have hsearch : search world (package.text ++ "." ++ extension) before = .ok none := by
      rw [search_eq_none_iff]
      intro other hother
      exact find_singleton_eq_none_iff.mp (h other hother)
    rw [find_eq, hsearch]
    rfl
  rw [find_append, hbefore, ← List.singleton_append, find_append, find_singleton]
  cases findOn world supplier (package.text ++ "." ++ extension) with
  | error error => rfl
  | ok answer => cases answer <;> rfl

/-- What an archive of a known format answers is what its bundle answers. -/
theorem findInArchive_of_format (hformat : ArchiveFormat.ofPath? archive = some format)
    {content : Bytes} {executable : Bool} (hfile : world.find archive = .ok (.file content executable))
    (file : String) :
    findInArchive world archive file = findInBundle archive (format.bundle content) file := by
  rw [findInArchive, hformat]
  dsimp only
  rw [hfile]

/-- **A lookup that reads an archive.** Its answer is `answer`, and what the suppliers behind the
archive answer is `later`; the archive is one of this format and the file that is looked for has
this name. -/
structure Reads (world : World) (archive : Path) (format : ArchiveFormat) (package : PackageName)
    (file : String) (answer later : Except SupplierError (Option SchemaSource)) : Prop where
  /-- An archive that cannot be opened is an error. -/
  unopened {error : IoError} : world.find archive = .error error →
    answer = .error (.io archive error)
  /-- Something that is no file can be opened and not be read. -/
  notFile {node : Node} : world.find archive = .ok node →
    (∀ content executable, node ≠ .file content executable) →
    answer = .error (.archive archive damagedArchive)
  /-- The first file of the name holds the package, if its content is text, -/
  found {content : Bytes} {executable : Bool} {member : Tar.Member} {text : String} :
    world.find archive = .ok (.file content executable) →
    Tar.FirstNamed (.ofString file) (format.bundle content) member →
    member.content? = some (Bytes.ofString text) →
    answer = .ok (some ⟨package, ⟨.archive, archive⟩, text⟩)
  /-- and it is an error if its content is no text or cannot be read. -/
  notText {content : Bytes} {executable : Bool} {member : Tar.Member} :
    world.find archive = .ok (.file content executable) →
    Tar.FirstNamed (.ofString file) (format.bundle content) member →
    (∀ text, member.content? ≠ some (Bytes.ofString text)) →
    answer = .error (.archive archive .notText) ∨ answer = .error (.archive archive damagedArchive)
  /-- Damage before the first file of the name is an error. -/
  damaged {content : Bytes} {executable : Bool} :
    world.find archive = .ok (.file content executable) →
    Tar.DamagedBefore (.ofString file) (format.bundle content) →
    answer = .error (.archive archive damagedArchive)
  /-- An archive that can be read to its end and has no file of the name leaves the answer to the
  suppliers behind it, -/
  lacks {content : Bytes} {executable : Bool} :
    world.find archive = .ok (.file content executable) →
    Tar.Lacks (.ofString file) (format.bundle content) → answer = later
  /-- and that is all that can be. -/
  searched {content : Bytes} {executable : Bool} :
    world.find archive = .ok (.file content executable) →
    (∃ member, Tar.FirstNamed (.ofString file) (format.bundle content) member) ∨
      Tar.DamagedBefore (.ofString file) (format.bundle content) ∨
      Tar.Lacks (.ofString file) (format.bundle content)

/-- Lookups that come to an archive of a known format read it. -/
theorem reads_of_format (hformat : ArchiveFormat.ofPath? archive = some format)
    (h : ∀ other ∈ before, find ⟨[other], extension⟩ world package = .ok none) :
    Reads world archive format package (package.text ++ "." ++ extension)
      (find ⟨before ++ ⟨.archive, archive⟩ :: after, extension⟩ world package)
      (find ⟨after, extension⟩ world package) := by
  rw [find_behind h, show findOn world ⟨.archive, archive⟩ (package.text ++ "." ++ extension)
    = findInArchive world archive (package.text ++ "." ++ extension) from rfl]
  exact {
    unopened := by
      intro error herror
      rw [findInArchive, hformat]
      dsimp only
      rw [herror]
    notFile := by
      intro node hnode hnofile
      rw [findInArchive, hformat]
      dsimp only
      rw [hnode]
      cases node with
      | file content executable => exact absurd rfl (hnofile content executable)
      | directory entries => rfl
      | link target => rfl
    found := by
      intro content executable member text hfile hfirst hcontent
      have hfound := Tar.find_eq_content_iff.mpr ⟨member, hfirst, hcontent⟩
      rw [findInArchive_of_format hformat hfile, findInBundle_eq_some_iff.mpr hfound]
    notText := by
      intro content executable member hfile hfirst hnotext
      rw [findInArchive_of_format hformat hfile]
      -- the content cannot be read, or it can and is no text
      cases hcontent : member.content? with
      | none =>
        rw [findInBundle, hfirst.find_eq, hcontent]
        exact .inr rfl
      | some bytes =>
        have hfound := Tar.find_eq_content_iff.mpr ⟨member, hfirst, hcontent⟩
        have hbytes : ∀ text, bytes ≠ Bytes.ofString text := by
          rintro text rfl
          exact hnotext text hcontent
        rw [findInBundle_of_no_text hfound hbytes]
        exact .inl rfl
    damaged := by
      intro content executable hfile hdamaged
      rw [findInArchive_of_format hformat hfile, findInBundle, hdamaged.find_eq]
    lacks := by
      intro content executable hfile hlacks
      rw [findInArchive_of_format hformat hfile, findInBundle, hlacks.find_eq]
    searched := fun _ => Tar.searched _ _ }

/-- **An archive whose name ends as the names of archives do** is read by every lookup that comes to
it if all of the name is text, and by none if it is not. -/
theorem reads_archive_iff_text (hname : archive.fileName? = some name) (hends : format.Ends name)
    (hbefore : ∀ other ∈ before, find ⟨[other], extension⟩ world package = .ok none) :
    ((∃ text, name = Bytes.ofString text) →
      Reads world archive format package (package.text ++ "." ++ extension)
        (find ⟨before ++ ⟨.archive, archive⟩ :: after, extension⟩ world package)
        (find ⟨after, extension⟩ world package)) ∧
    ((¬∃ text, name = Bytes.ofString text) →
      find ⟨before ++ ⟨.archive, archive⟩ :: after, extension⟩ world package
        = find ⟨after, extension⟩ world package) := by
  constructor
  · -- the name is a text, so its ending makes it an archive
    intro htext
    have hformat : ArchiveFormat.ofPath? archive = some format := by
      rw [ArchiveFormat.ofPath?, hname, Option.bind_some]
      exact ArchiveFormat.ofFileName?_eq_some_iff.mpr ⟨htext, hends⟩
    exact reads_of_format hformat hbefore
  · -- the name is no text, so the archive has no format
    intro hnotext
    have hnone : ArchiveFormat.ofPath? archive = none := by
      rw [ArchiveFormat.ofPath?, hname, Option.bind_some, Option.eq_none_iff_forall_ne_some]
      intro other hother
      exact hnotext (ArchiveFormat.ofFileName?_eq_some_iff.mp hother).1
    have hmiss : find ⟨[⟨.archive, archive⟩], extension⟩ world package = .ok none :=
      find_unrecognised hnone
    rw [find_behind hbefore, find_singleton_eq_none_iff.mp hmiss]

/-! ### Names in other cases, and names that are no text -/

/-- A world with the bundle of a file under three names: one in an unusual case, one that is no text,
and one that stands for no format. -/
def namedWorld : World where
  files := ⟨[(Bytes.ofString "Ä.TaR", .file fileBundle false), (0xFF :: Bytes.ofString ".tar",
      .file fileBundle false), (Bytes.ofString "a.zip", .file fileBundle false)]⟩
  environment := ⟨[]⟩
  here := .root
  started := []

theorem ends_mixedCase : ArchiveFormat.plain.Ends (Bytes.ofString "Ä.TaR") := by
  refine ⟨".tar", List.mem_cons_self, Bytes.ofString "Ä", Bytes.ofString ".TaR", ?_, ?_⟩
  · decide +kernel
  · decide +kernel

theorem fileBundle_first : ∃ member,
    Tar.FirstNamed (.ofString "a.stema") (.ofBytes fileBundle) member ∧
      member.content? = some (Bytes.ofString "schema") :=
  Tar.find_eq_content_iff.mp find_fileBundle

/-- The archive whose name is in an unusual case is read, behind one that is passed over. -/
theorem reads_archive_iff_text_namedWorld :
    (Path.ofString "/Ä.TaR").fileName? = some (Bytes.ofString "Ä.TaR") ∧
      ArchiveFormat.plain.Ends (Bytes.ofString "Ä.TaR") ∧
      (∀ other ∈ [(⟨.archive, .ofString "/a.zip"⟩ : Supplier)],
        find ⟨[other], "stema"⟩ namedWorld ⟨"a", rfl⟩ = .ok none) ∧
      find ⟨[⟨.archive, .ofString "/a.zip"⟩, ⟨.archive, .ofString "/Ä.TaR"⟩], "stema"⟩ namedWorld
          ⟨"a", rfl⟩
        = .ok (some ⟨⟨"a", rfl⟩, ⟨.archive, .ofString "/Ä.TaR"⟩, "schema"⟩) := by
  have hname : (Path.ofString "/Ä.TaR").fileName? = some (Bytes.ofString "Ä.TaR") := by
    decide +kernel
  have hbefore : ∀ other ∈ [(⟨.archive, .ofString "/a.zip"⟩ : Supplier)],
      find ⟨[other], "stema"⟩ namedWorld ⟨"a", rfl⟩ = .ok none := by
    intro other hother
    rw [List.mem_singleton.mp hother]
    exact find_unrecognised (by decide +kernel)
  have hfile : namedWorld.find (.ofString "/Ä.TaR") = .ok (.file fileBundle false) := by
    rfl
  obtain ⟨member, hfirst, hcontent⟩ := fileBundle_first
  have hreads : Reads namedWorld (.ofString "/Ä.TaR") .plain ⟨"a", rfl⟩ ("a" ++ "." ++ "stema")
      (find ⟨[⟨.archive, .ofString "/a.zip"⟩] ++ ⟨.archive, .ofString "/Ä.TaR"⟩ :: [], "stema"⟩
        namedWorld ⟨"a", rfl⟩)
      (find ⟨[], "stema"⟩ namedWorld ⟨"a", rfl⟩) :=
    (reads_archive_iff_text hname ends_mixedCase hbefore).1 ⟨"Ä.TaR", rfl⟩
  exact ⟨hname, ends_mixedCase, hbefore, hreads.found hfile hfirst hcontent⟩

/-- **An archive may be passed over** although its name ends as the names of archives do and it has
the file: a byte of the name that is no text is enough. -/
theorem archive_passed_over :
    ¬∀ (world : World) (archive : Path) (format : ArchiveFormat) (name content : Bytes)
      (executable : Bool) (extension text : String) (package : PackageName)
      (before after : List Supplier) (member : Tar.Member),
      archive.fileName? = some name → format.Ends name →
      (∀ other ∈ before, find ⟨[other], extension⟩ world package = .ok none) →
      world.find archive = .ok (.file content executable) →
      Tar.FirstNamed (.ofString (package.text ++ "." ++ extension)) (format.bundle content) member →
      member.content? = some (Bytes.ofString text) →
      find ⟨before ++ ⟨.archive, archive⟩ :: after, extension⟩ world package
        = .ok (some ⟨package, ⟨.archive, archive⟩, text⟩) := by
  intro hreads
  have hends : ArchiveFormat.plain.Ends (0xFF :: Bytes.ofString ".tar") :=
    ⟨".tar", List.mem_cons_self, [0xFF], Bytes.ofString ".tar", rfl, by decide +kernel⟩
  have hfile : namedWorld.find ⟨Path.slash :: 0xFF :: Bytes.ofString ".tar"⟩
      = .ok (.file fileBundle false) := by
    rfl
  obtain ⟨member, hfirst, hcontent⟩ := fileBundle_first
  have hfound := hreads namedWorld ⟨Path.slash :: 0xFF :: Bytes.ofString ".tar"⟩ .plain _ fileBundle
    false "stema" "schema" ⟨"a", rfl⟩ [] [] member (by decide +kernel) hends
    (by intro other hother; cases hother) hfile hfirst hcontent
  have hpassed : ArchiveFormat.ofPath? ⟨Path.slash :: 0xFF :: Bytes.ofString ".tar"⟩ = none := by
    decide +kernel
  rw [List.nil_append, find_unrecognised hpassed] at hfound
  cases hfound

end SourceLookup

end SchemaBuild
