import SchemaBuild.Proofs.Archive.Bundles
import SchemaBuild.Proofs.FileSystem.Entries
import SchemaBuild.Proofs.Lookup.Truncation

/-!
# A folder and the bundle of it

A folder is read by putting a name behind its path, and a bundle by going from header to header. If
both hold the same files then a lookup finds the same text in both, or finds that there is none.

* `World.Holds` — the files that a folder holds;
* `SourceLookup.findInFolder_of_holds` and `SourceLookup.findInArchive_of_bundle` — each of the two
  readers finds the text of the file with the name;
* `SourceLookup.interchange` — so they agree, as long as the path of the file in the folder is not
  too long to be followed;
* `SourceLookup.no_interchange_of_long_path` — for a path that is too long they do not.
-/

namespace SchemaBuild

/-- The path leads to a folder that holds exactly these files, each with its text. What the files
are called is said by the list, and in which order the folder has them does not matter. -/
def World.Holds (world : World) (folder : Path) (files : List (Bytes × String)) : Prop :=
  ∃ location entries, world.files.locate world.here folder = .ok (.located location) ∧
    world.files.node? location = some (.directory entries) ∧
    ∀ name, match files.lookup name with
      | some text => ∃ executable, entries.lookup name = some (.file (Bytes.ofString text) executable)
      | none => entries.lookup name = none

/-- The files with their contents as bytes. -/
def contents (files : List (Bytes × String)) : List (Bytes × Bytes) :=
  files.map fun file => (file.1, Bytes.ofString file.2)

theorem lookup_contents (files : List (Bytes × String)) (name : Bytes) :
    (contents files).lookup name = (files.lookup name).map Bytes.ofString := by
  induction files with
  | nil => rfl
  | cons file files ih =>
    obtain ⟨key, text⟩ := file
    rw [contents, List.map_cons, List.lookup_cons, List.lookup_cons]
    cases name == key with
    | true => rfl
    | false => exact ih

theorem isName_of_mem_contents {files : List (Bytes × String)}
    (hnames : ∀ file ∈ files, Path.IsName file.1) : ∀ file ∈ contents files, Path.IsName file.1 := by
  intro file hmem
  obtain ⟨given, hgiven, rfl⟩ := List.mem_map.mp hmem
  exact hnames given hgiven

namespace SourceLookup

variable {world : World} {folder archive : Path} {files : List (Bytes × String)} {bytes : Bytes}
  {executable : Bool} {name : String} {package : PackageName} {extension : String}

/-- The format of an archive is told by the end of its name, if the name is a text. -/
theorem ofPath?_eq (h : archive.fileName? = some (Bytes.ofString name)) :
    ArchiveFormat.ofPath? archive =
      if (Bytes.ofString ".tar.gz").isSuffixOf (Bytes.ofString name).lower
          || (Bytes.ofString ".tgz").isSuffixOf (Bytes.ofString name).lower then some .compressed
      else if (Bytes.ofString ".tar").isSuffixOf (Bytes.ofString name).lower then some .plain
      else none := by
  rw [ArchiveFormat.ofPath?, h, Option.bind_some, ArchiveFormat.ofFileName?,
    Bytes.toString?_ofString]

/-- **A folder** gives the text of the file with the name. -/
theorem findInFolder_of_holds (hnames : ∀ file ∈ files, Path.IsName file.1)
    (hholds : world.Holds folder files) (hslash : Path.slash ∉ Bytes.ofString name)
    (hne : Bytes.ofString name ≠ [])
    (hpath : (folder.join (.ofString name)).bytes.length < pathLimit) :
    findInFolder world folder name = .ok (files.lookup (Bytes.ofString name)) := by
  obtain ⟨location, entries, hfolder, hnode, hentries⟩ := hholds
  have hentry := hentries (Bytes.ofString name)
  cases hlookup : files.lookup (Bytes.ofString name) with
  | none =>
    rw [hlookup] at hentry
    refine findInFolder_eq_none_iff.mpr fun content executable => ?_
    exact FileSystem.find_join_of_no_entry hfolder hnode hslash hne hentry
  | some text =>
    rw [hlookup] at hentry
    obtain ⟨executable, hentry⟩ := hentry
    -- the file is one of those that the folder holds, so its name is the name of a file
    have hname : Path.IsName (Bytes.ofString name) := by
      obtain ⟨front, rest, hfiles, -⟩ := List.lookup_eq_some_iff.mp hlookup
      exact hnames (Bytes.ofString name, text) (by simp [hfiles])
    have hlength : (Bytes.ofString name).length ≤ nameLimit :=
      Nat.le_trans hname.length_le (by decide)
    exact findInFolder_eq_some_iff.mpr ⟨executable, FileSystem.find_join_of_file hfolder hnode hslash
      hne hname.ne_dot hname.ne_dotDot hname.noNul hlength hpath hentry⟩

/-- Nothing is found where the path of the file would be too long. -/
theorem findOn_folder_of_long_path (world : World)
    (h : pathLimit ≤ (folder.join (.ofString name)).bytes.length) :
    findOn world ⟨.folder, folder⟩ name = .ok none := by
  have hanswer : findInFolder world folder name = .ok none := by
    refine findInFolder_eq_none_iff.mpr fun content executable hfind => ?_
    exact Nat.not_lt.mpr h (FileSystem.length_lt_of_find hfind)
  exact hanswer

/-- **A bundle** gives the text of the file with the name. -/
theorem findInArchive_of_bundle (hnames : ∀ file ∈ files, Path.IsName file.1)
    (hformat : ArchiveFormat.ofPath? archive = some .plain)
    (harchive : world.find archive = .ok (.file bytes executable))
    (hbundle : Tar.IsBundle (contents files) bytes) (hslash : Path.slash ∉ Bytes.ofString name)
    (hne : Bytes.ofString name ≠ []) :
    findInArchive world archive name = .ok (files.lookup (Bytes.ofString name)) := by
  have hfound := hbundle.find_eq (isName_of_mem_contents hnames) hslash hne
  rw [lookup_contents] at hfound
  rw [findInArchive_of_plain hformat harchive, findInBundle,
    show Tar.find _ (.ofString name) = _ from hfound]
  cases files.lookup (Bytes.ofString name) with
  | none =>
    -- the bundle has no such file
    rfl
  | some text =>
    -- the file is a text
    simp [Bytes.toString?_ofString]

/-- The name of a package's file is not empty, and it has a slash only if the extension has one. -/
theorem fileName_plain (package : PackageName) (hextension : '/' ∉ extension.toList) :
    Path.slash ∉ Bytes.ofString (package.text ++ "." ++ extension) ∧
      Bytes.ofString (package.text ++ "." ++ extension) ≠ [] := by
  have hchars : (package.text ++ "." ++ extension).toList
      = package.text.toList ++ ['.'] ++ extension.toList := by
    rw [String.toList_append, String.toList_append]
    rfl
  -- a slash is one of the separators that no package name holds
  have hpackage : '/' ∉ package.text.toList := by
    intro hmem
    have hsound := package.sound
    have hseparator : package.text.toList.any PackageName.isSeparator = true :=
      List.any_eq_true.mpr ⟨'/', hmem, by decide⟩
    rw [PackageName.flaw?, if_pos hseparator] at hsound
    split at hsound
    · cases hsound
    · split at hsound <;> cases hsound
  constructor
  · -- a slash would stand in the package or in the extension
    intro hmem
    have hslash := Utf8.mem_of_ascii_mem_encode (c := '/') (by decide) hmem
    rw [hchars] at hslash
    simp [hpackage, hextension] at hslash
  · -- there is a dot in the name at least
    intro hnil
    have hdot : Bytes.ascii '.' ∈ Bytes.ofString (package.text ++ "." ++ extension) := by
      rw [Bytes.ofString, hchars]
      exact List.mem_flatMap.mpr ⟨'.', by simp, by decide⟩
    rw [hnil] at hdot
    cases hdot

/-- **A folder and the bundle of it are interchangeable.** -/
theorem interchange (hnames : ∀ file ∈ files, Path.IsName file.1)
    (hholds : world.Holds folder files) (hformat : ArchiveFormat.ofPath? archive = some .plain)
    (harchive : world.find archive = .ok (.file bytes executable))
    (hbundle : Tar.IsBundle (contents files) bytes) (hextension : '/' ∉ extension.toList)
    (hpath : (folder.join (.ofString (package.text ++ "." ++ extension))).bytes.length < pathLimit) :
    (find ⟨[⟨.folder, folder⟩], extension⟩ world package).map (·.map (·.text))
        = .ok (files.lookup (Bytes.ofString (package.text ++ "." ++ extension))) ∧
      (find ⟨[⟨.archive, archive⟩], extension⟩ world package).map (·.map (·.text))
        = .ok (files.lookup (Bytes.ofString (package.text ++ "." ++ extension))) := by
  obtain ⟨hslash, hne⟩ := fileName_plain package hextension
  constructor
  · -- what the folder has
    have hanswer : findOn world ⟨.folder, folder⟩ (package.text ++ "." ++ extension) = _ :=
      findInFolder_of_holds hnames hholds hslash hne hpath
    rw [find_singleton, hanswer]
    cases files.lookup (Bytes.ofString (package.text ++ "." ++ extension)) <;> rfl
  · -- what the bundle has
    have hanswer : findOn world ⟨.archive, archive⟩ (package.text ++ "." ++ extension) = _ :=
      findInArchive_of_bundle hnames hformat harchive hbundle hslash hne
    rw [find_singleton, hanswer]
    cases files.lookup (Bytes.ofString (package.text ++ "." ++ extension)) <;> rfl

/-! ### Two files in a folder and in a bundle -/

/-- The bundle of a file. -/
def fileBundle : Bytes := Tar.bundleOf [(Bytes.ofString "a.stema", Bytes.ofString "schema")]

/-- The files of a folder and of a bundle. -/
def bundledFiles : List (Bytes × String) :=
  [(Bytes.ofString "b.stema", "other"), (Bytes.ofString "a.stema", "schema")]

/-- A bundle of both files. The path of the first one leads to it from the directory itself. -/
def pairBundle : Bytes :=
  Tar.headerOf (Path.dot ++ Path.slash :: Bytes.ofString "b.stema") 5
    ++ (Bytes.ofString "other" ++ (List.replicate (Tar.fill 5) 0 ++ fileBundle))

/-- A world with the files in a folder, in another order, and with the bundle of them. -/
def bundledWorld : World where
  files := ⟨[(Bytes.ofString "d", .directory [
      (Bytes.ofString "a.stema", .file (Bytes.ofString "schema") false),
      (Bytes.ofString "b.stema", .file (Bytes.ofString "other") true)]),
    (Bytes.ofString "a.tar", .file pairBundle false)]⟩
  environment := ⟨[]⟩
  here := .root
  started := []

/-- What the names are as bytes. -/
theorem ofString_folderName : Bytes.ofString "d" = [100] :=
  rfl

theorem ofString_fileName : Bytes.ofString "a.stema" = [97, 46, 115, 116, 101, 109, 97] :=
  rfl

theorem isName_fileName : Path.IsName (Bytes.ofString "a.stema") := by
  rw [ofString_fileName]
  constructor <;> decide

theorem bundledWorld_isName : ∀ file ∈ bundledFiles, Path.IsName file.1 := by
  have hother : Bytes.ofString "b.stema" = [98, 46, 115, 116, 101, 109, 97] := rfl
  refine List.forall_mem_cons.mpr ⟨?_, List.forall_mem_singleton.mpr isName_fileName⟩
  show Path.IsName (Bytes.ofString "b.stema")
  rw [hother]
  constructor <;> decide

theorem schema_length_lt : (Bytes.ofString "schema").length < 8 ^ 11 :=
  show 6 < 8 ^ 11 by decide

theorem fileBundle_isBundle :
    Tar.IsBundle [(Bytes.ofString "a.stema", Bytes.ofString "schema")] fileBundle :=
  Tar.isBundle_bundleOf (List.forall_mem_singleton.mpr ⟨isName_fileName, schema_length_lt⟩)

theorem bundledWorld_isBundle : Tar.IsBundle (contents bundledFiles) pairBundle := by
  have hheader : Tar.IsFileHeader
      (Tar.headerOf (Path.dot ++ Path.slash :: Bytes.ofString "b.stema") 5)
      (Path.dot ++ Path.slash :: Bytes.ofString "b.stema") (Bytes.ofString "other").length :=
    Tar.headerOf_isFileHeader (show 9 ≤ 100 by decide)
      (show (0 : UInt8) ∉ [46, 47, 98, 46, 115, 116, 101, 109, 97] by decide)
      (show 5 < 8 ^ 11 by decide)
  exact .cons hheader (.inr rfl) fileBundle_isBundle

theorem ofPath?_bundle : ArchiveFormat.ofPath? (.ofString "/a.tar") = some .plain := by
  rw [ofPath?_eq (show _ = some (Bytes.ofString "a.tar") from rfl)]
  rfl

theorem slash_notMem_extension : '/' ∉ "stema".toList := by
  decide

theorem bundledWorld_find : bundledWorld.find (.ofString "/a.tar") = .ok (.file pairBundle false) :=
  rfl

/-- The path of the folder, with further slashes in front. -/
def slashedFolder (more : Nat) : Path := ⟨List.replicate (more + 1) Path.slash ++ Bytes.ofString "d"⟩

theorem slashedFolder_length (more : Nat) : (slashedFolder more).bytes.length = more + 2 := by
  rw [slashedFolder, List.length_append, List.length_replicate]
  rfl

/-- However many slashes there are, the path leads to the folder, as long as it is not too long. -/
theorem bundledWorld_holds {more : Nat} (h : more + 2 < pathLimit) :
    bundledWorld.Holds (slashedFolder more) bundledFiles := by
  have herror : FileSystem.pathError? (slashedFolder more) = none := by
    refine FileSystem.pathError?_eq_none_iff.mpr ⟨?_, ?_, ?_⟩
    · -- no NUL is among the slashes or in the name
      intro hzero
      obtain hslash | hname := List.mem_append.mp hzero
      · exact absurd (List.eq_of_mem_replicate hslash) (by decide)
      · rw [ofString_folderName] at hname
        exact absurd hname (by decide)
    · simp [slashedFolder]
    · -- the path is short enough
      rwa [slashedFolder_length]
  have hsteps : (slashedFolder more).steps = [.enter (Bytes.ofString "d")] := by
    have hend : (slashedFolder more).endsInSlash = false := by
      have hlast : (slashedFolder more).bytes.getLast? = (Bytes.ofString "d").getLast? := by
        rw [slashedFolder, List.getLast?_append]
        rfl
      rw [Path.endsInSlash, hlast]
      rfl
    have hplain : (slashedFolder more).plainSteps = [.enter (Bytes.ofString "d")] := by
      rw [slashedFolder, Path.plainSteps_slashes]
      rfl
    rw [Path.steps, hplain, hend]
    rfl
  have hwalk : bundledWorld.files.walk linkLimit .root [.enter (Bytes.ofString "d")]
      = .ok (.located [Bytes.ofString "d"]) :=
    FileSystem.walk_enter_directory rfl (by rw [ofString_folderName]; decide) rfl linkLimit false
  refine ⟨[Bytes.ofString "d"], [(Bytes.ofString "a.stema", .file (Bytes.ofString "schema") false),
    (Bytes.ofString "b.stema", .file (Bytes.ofString "other") true)], ?_, rfl, ?_⟩
  · -- all slashes in front are one root
    rw [FileSystem.locate, herror, hsteps]
    exact hwalk
  · -- a name is that of one file or of the other, or of none
    intro name
    by_cases hfirst : name = Bytes.ofString "a.stema"
    · subst hfirst
      exact ⟨false, rfl⟩
    by_cases hsecond : name = Bytes.ofString "b.stema"
    · subst hsecond
      exact ⟨true, rfl⟩
    · rw [bundledFiles, List.lookup_cons, List.lookup_cons, List.lookup_cons, List.lookup_cons,
        beq_eq_false_iff_ne.mpr hfirst, beq_eq_false_iff_ne.mpr hsecond]
      rfl

/-- Both files are found in the folder and in the bundle. -/
theorem interchange_bundledWorld :
    ((find ⟨[⟨.folder, slashedFolder 0⟩], "stema"⟩ bundledWorld ⟨"a", rfl⟩).map (·.map (·.text))
        = .ok (some "schema") ∧
      (find ⟨[⟨.archive, .ofString "/a.tar"⟩], "stema"⟩ bundledWorld ⟨"a", rfl⟩).map (·.map (·.text))
        = .ok (some "schema")) ∧
    (find ⟨[⟨.folder, slashedFolder 0⟩], "stema"⟩ bundledWorld ⟨"b", rfl⟩).map (·.map (·.text))
        = .ok (some "other") ∧
      (find ⟨[⟨.archive, .ofString "/a.tar"⟩], "stema"⟩ bundledWorld ⟨"b", rfl⟩).map (·.map (·.text))
        = .ok (some "other") := by
  have hholds := bundledWorld_holds (show 0 + 2 < pathLimit by decide)
  have hschema : bundledFiles.lookup (Bytes.ofString ("a" ++ "." ++ "stema")) = some "schema" := rfl
  have hother : bundledFiles.lookup (Bytes.ofString ("b" ++ "." ++ "stema")) = some "other" := rfl
  constructor
  · -- the file behind the other one
    rw [← hschema]
    exact interchange bundledWorld_isName hholds ofPath?_bundle bundledWorld_find
      bundledWorld_isBundle slash_notMem_extension (show 10 < 4096 by decide)
  · -- the first file, whose path in the bundle begins with a dot
    rw [← hother]
    exact interchange bundledWorld_isName hholds ofPath?_bundle bundledWorld_find
      bundledWorld_isBundle slash_notMem_extension (show 10 < 4096 by decide)

/-- **A path that is too long** hides a file in a folder, and the bundle of the folder has it. -/
theorem no_interchange_of_long_path :
    ¬∀ (world : World) (folder archive : Path) (files : List (Bytes × String)) (bytes : Bytes)
      (executable : Bool) (extension : String) (package : PackageName),
      (∀ file ∈ files, Path.IsName file.1) → world.Holds folder files →
      ArchiveFormat.ofPath? archive = some .plain →
      world.find archive = .ok (.file bytes executable) →
      Tar.IsBundle (contents files) bytes → '/' ∉ extension.toList →
      (find ⟨[⟨.folder, folder⟩], extension⟩ world package).map (·.map (·.text))
        = (find ⟨[⟨.archive, archive⟩], extension⟩ world package).map (·.map (·.text)) := by
  intro hagree
  have hholds := bundledWorld_holds (show 4088 + 2 < pathLimit by decide)
  have hsame := hagree bundledWorld (slashedFolder 4088) (.ofString "/a.tar") _ pairBundle false
    "stema" ⟨"a", rfl⟩ bundledWorld_isName hholds ofPath?_bundle bundledWorld_find bundledWorld_isBundle
    slash_notMem_extension
  have hname : "a" ++ "." ++ "stema" = "a.stema" := rfl
  have hslash := isName_fileName.noSlash
  have hne := isName_fileName.ne_nil
  have harchive : findOn bundledWorld ⟨.archive, .ofString "/a.tar"⟩ "a.stema"
      = .ok (bundledFiles.lookup (Bytes.ofString "a.stema")) :=
    findInArchive_of_bundle bundledWorld_isName ofPath?_bundle bundledWorld_find bundledWorld_isBundle
      hslash hne
  -- with the name of the file behind it, the path of the folder is too long
  have hlong : pathLimit ≤ ((slashedFolder 4088).join (.ofString "a.stema")).bytes.length := by
    obtain ⟨front, hbytes, hfront⟩ :=
      Path.join_bytes_eq_append (slashedFolder 4088) (Path.isAbsolute_of_noSlash hslash hne)
    have hfront : 4090 ≤ front.length := by
      obtain rfl | rfl := hfront <;> simp [slashedFolder_length]
    have hseven : (Bytes.ofString "a.stema").length = 7 := rfl
    rw [Path.ofString, hbytes, List.length_append, hseven, pathLimit]
    omega
  have hfolder := findOn_folder_of_long_path bundledWorld hlong
  rw [find_singleton, find_singleton, hname, hfolder, harchive] at hsame
  cases hsame

end SourceLookup

end SchemaBuild
