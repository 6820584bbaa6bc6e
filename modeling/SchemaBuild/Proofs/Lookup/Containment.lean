import SchemaBuild.Proofs.Archive.Members
import SchemaBuild.Proofs.Lookup.Interchange
import SchemaBuild.Proofs.Path.Text

/-!
# Sources at the root of a supplier

The source of a package is meant to be a file directly in a folder, or a member at the root of an
archive. The name of that file is made of the name of the package, in which there is no separator, and
of the extension, which may be any text. A folder follows the name as a path, and an archive compares
its components with those of a member's name. So it is up to the extension whether a source is read
from the root: with a slash in it the name may lead into directories below, and out of the folder.

* `Path.components_join` — the components of a path behind a base;
* `SchemaSource.ReadAt` — the place below the root of a supplier where a source was read;
* `SourceLookup.KeepsToRoot` — the names of files that are one name;
* `SourceLookup.find_readAt` — every source was read at the place that the name of the file means,
  and `SourceLookup.find_outside`: that place may be outside of the folder.
-/

namespace SchemaBuild

/-! ### The components of a joined path -/

namespace Path

/-- How a path begins is told by its first stretch. -/
theorem parts_start (path : Path) : path.parts.1 =
    if path.isAbsolute then .root
    else if path.segments.head? = some dot then .current else .plain := by
  obtain ⟨first, rest, hsegments, hparts⟩ := path.exists_parts
  rw [hparts, hsegments, List.head?_cons]
  split
  · -- the path begins at the root
    rfl
  · -- the first segment may be a dot
    by_cases hdot : first = dot
    · rw [if_pos hdot, if_pos (congrArg some hdot)]
    · rw [if_neg hdot, if_neg fun hsome => hdot (Option.some.inj hsome)]

theorem Component.ofSegment?_eq_none_iff {segment : Bytes} :
    ofSegment? segment = none ↔ isFiller segment = true := by
  unfold ofSegment?
  split
  · next hfiller =>
    -- a filler is no component
    exact ⟨fun _ => hfiller, fun _ => rfl⟩
  · next hfiller =>
    -- everything else is a parent or a name
    refine ⟨fun hnone => ?_, fun h => absurd h hfiller⟩
    split at hnone <;> cases hnone

/-- What a path begins with is no component among its stretches. -/
theorem components_eq (path : Path) : path.components
    = path.parts.1.components ++ path.segments.filterMap Component.ofSegment? := by
  have hnone : path.parts.1.segments.filterMap Component.ofSegment? = [] :=
    List.filterMap_eq_nil_iff.mpr fun segment hmem =>
      Component.ofSegment?_eq_none_iff.mpr (Start.isFiller_of_mem hmem)
  rw [segments_eq, List.filterMap_append, hnone, List.nil_append]
  rfl

/-- Empty stretches are no components. -/
theorem filterMap_ofSegment?_filter (segments : List Bytes) :
    (segments.filter (!·.isEmpty)).filterMap Component.ofSegment?
      = segments.filterMap Component.ofSegment? := by
  rw [List.filterMap_filter]
  congr 1
  funext segment
  cases hempty : segment.isEmpty with
  | true =>
    -- an empty segment is no component either
    simp [Component.ofSegment?, isFiller, hempty]
  | false => rfl

variable {base path : Path}

/-- A path is put behind a base and a slash, which is the last one of the base if it ends in one. -/
theorem exists_front_join (hpath : path.isAbsolute = false) (hbase : base.bytes ≠ []) :
    ∃ front, (base.join path).bytes = front ++ slash :: path.bytes ∧
      (base.bytes = front ∨ base.bytes = front ++ [slash]) := by
  have hempty : base.isEmpty = false := by simpa [isEmpty] using hbase
  cases hslash : base.endsInSlash with
  | false =>
    -- a slash is put between the two
    have hopen : (base.isEmpty || base.endsInSlash) = false := by rw [hempty, hslash]; rfl
    exact ⟨base.bytes, join_bytes_of_open hpath hopen, .inl rfl⟩
  | true =>
    -- the base has ended in a slash before
    have hlast : base.bytes.getLast? = some slash := by simpa [endsInSlash] using hslash
    obtain ⟨front, hfront⟩ := List.getLast?_eq_some_iff.mp hlast
    refine ⟨front, ?_, .inr hfront⟩
    rw [join, hpath, if_neg Bool.false_ne_true, if_pos (by rw [hslash, Bool.or_true]), hfront,
      List.append_assoc]
    rfl

/-- The first stretch of a base is not changed by what is put behind it. -/
theorem head?_segments_join (hpath : path.isAbsolute = false) (hbase : base.bytes ≠ []) :
    (base.join path).segments.head? = base.segments.head? := by
  obtain ⟨front, hjoin, hbefore⟩ := exists_front_join hpath hbase
  obtain ⟨first, rest, hsplit⟩ := List.exists_cons_of_ne_nil (Bytes.split_ne_nil slash front)
  rw [segments, hjoin, Bytes.split_append, hsplit, segments]
  obtain hopen | hslashed := hbefore
  · -- the base is what stands before the slash
    rw [hopen, hsplit]
    rfl
  · -- the base is what stands before the slash, with a slash of its own
    rw [hslashed, Bytes.split_append, hsplit]
    rfl

theorem isAbsolute_join_eq (hpath : path.isAbsolute = false) (hbase : base.bytes ≠ []) :
    (base.join path).isAbsolute = base.isAbsolute := by
  obtain ⟨front, hjoin, hopen | hslashed⟩ := exists_front_join hpath hbase
  · -- the first byte is that of the base
    obtain ⟨b, bytes, hbytes⟩ := List.exists_cons_of_ne_nil hbase
    rw [isAbsolute, isAbsolute, hjoin, ← hopen, hbytes]
    rfl
  · -- the base is the root at least
    rw [isAbsolute, isAbsolute, hjoin, hslashed]
    cases front <;> rfl

/-- A path behind a base begins as the base does, unless it is all there is. -/
theorem parts_start_join (hpath : path.isAbsolute = false)
    (hdot : path.segments.head? ≠ some dot) : (base.join path).parts.1 = base.parts.1 := by
  by_cases hempty : base.bytes = []
  · -- behind an empty base the path stands alone
    have hjoin : base.join path = path := by
      rw [join, hpath, if_neg Bool.false_ne_true, if_pos (by simp [isEmpty, hempty]), hempty]
      rfl
    have hbase : base = ⟨[]⟩ := congrArg Path.mk hempty
    rw [hjoin, parts_start, hpath, if_neg Bool.false_ne_true, if_neg hdot, hbase]
    rfl
  · -- behind any other base the first segment is that of the base
    rw [parts_start, parts_start, head?_segments_join hpath hempty, isAbsolute_join_eq hpath hempty]

/-- **The components of a path behind a base** are those of the base and then those of the path, if the
path is relative and does not begin with a dot of its own. -/
theorem components_join (hpath : path.isAbsolute = false)
    (hdot : path.segments.head? ≠ some dot) :
    (base.join path).components = base.components ++ path.components := by
  have hplain : path.parts.1 = .plain := by
    rw [parts_start, hpath, if_neg Bool.false_ne_true, if_neg hdot]
  -- the two lists of stretches are the same but for empty ones, which are no components
  have hjoined : (base.join path).segments.filter (!·.isEmpty)
      = base.segments.filter (!·.isEmpty) ++ path.segments.filter (!·.isEmpty) := segments_join hpath
  have hsegments := congrArg (List.filterMap Component.ofSegment?) hjoined
  rw [List.filterMap_append, filterMap_ofSegment?_filter, filterMap_ofSegment?_filter,
    filterMap_ofSegment?_filter] at hsegments
  rw [components_eq, parts_start_join hpath hdot, hsegments, components_eq base, components_eq path,
    hplain, List.append_assoc]
  rfl

end Path

/-! ### The name of the file of a package -/

theorem PackageName.text_ne_empty (package : PackageName) : package.text ≠ "" := by
  intro hempty
  have hsound := package.sound
  rw [hempty] at hsound
  cases hsound

namespace SourceLookup

variable {lookup : SourceLookup} {package : PackageName}

/-- **The name of the file of a package is one name**: the stretches of the extension behind its first
slash are fillers, and what stands before it does not make the name `..`. -/
def KeepsToRoot (lookup : SourceLookup) (package : PackageName) : Prop :=
  ∃ first rest, (Path.ofString lookup.extension).segments = first :: rest ∧
    (∀ segment ∈ rest, Path.isFiller segment = true) ∧ ¬(package.text = "." ∧ first = [])

/-- The first stretch of the name of the file is the package with a dot and what the extension has
before its first slash; the other stretches are those of the extension. -/
theorem exists_segments_fileName (lookup : SourceLookup) (package : PackageName) :
    ∃ first rest, (Path.ofString lookup.extension).segments = first :: rest ∧
      (Path.ofString (lookup.fileName package)).segments
        = (Bytes.ofString package.text ++ Bytes.ascii '.' :: first) :: rest := by
  have hempty : '/' ∉ "".toList := List.not_mem_nil
  have hslash := (fileName_plain package hempty).1
  rw [String.append_empty, Bytes.ofString_append] at hslash
  obtain ⟨first, rest, hextension, hname⟩ :=
    Bytes.split_append_of_not_mem hslash (Bytes.ofString lookup.extension)
  refine ⟨first, rest, hextension, ?_⟩
  rw [Path.segments, Path.ofString, fileName, Bytes.ofString_append, Bytes.ofString_append]
  dsimp only
  rw [hname, List.append_assoc]
  rfl

theorem ofString_text_ne_nil (package : PackageName) : Bytes.ofString package.text ≠ [] :=
  fun hnil => package.text_ne_empty (Bytes.ofString_inj.mp hnil)

/-- The first stretch of the name of a file is longer than a dot, so it stands for a name or for the
directory above, the latter only if nothing is in it but the dot that is put behind a package. -/
theorem ofSegment?_first (package : PackageName) (first : Bytes) :
    Path.Component.ofSegment? (Bytes.ofString package.text ++ Bytes.ascii '.' :: first) =
      if package.text = "." ∧ first = [] then some .parent
      else some (.name (Bytes.ofString package.text ++ Bytes.ascii '.' :: first)) := by
  obtain ⟨b, bytes, htext⟩ := List.exists_cons_of_ne_nil (ofString_text_ne_nil package)
  have hfiller :
      Path.isFiller (Bytes.ofString package.text ++ Bytes.ascii '.' :: first) = false := by
    rw [htext]
    simp [Path.isFiller, Path.dot]
  have hparent : Bytes.ofString package.text ++ Bytes.ascii '.' :: first = Path.dotDot ↔
      package.text = "." ∧ first = [] := by
    constructor
    · -- a name of two bytes has one of them from the package and the other is the dot
      intro h
      have hone : bytes = [] ∧ first = [] := by
        have hlength := congrArg List.length h
        rw [htext] at hlength
        simp only [List.length_append, List.length_cons, Path.dotDot, List.length_nil] at hlength
        exact ⟨List.length_eq_zero_iff.mp (by omega), List.length_eq_zero_iff.mp (by omega)⟩
      refine ⟨?_, hone.2⟩
      rw [htext, hone.1, hone.2] at h
      refine Bytes.ofString_inj.mp ?_
      rw [htext, hone.1, show b = Bytes.ascii '.' from (List.cons.inj h).1]
      rfl
    · -- a dot and another dot
      rintro ⟨hdot, rfl⟩
      rw [hdot]
      rfl
  rw [Path.Component.ofSegment?, if_neg (by simp [hfiller])]
  exact if_congr hparent rfl rfl

/-- The name of a file is a relative path that does not begin with a dot of its own. -/
theorem fileName_begins (lookup : SourceLookup) (package : PackageName) :
    (Path.ofString (lookup.fileName package)).isAbsolute = false ∧
      (Path.ofString (lookup.fileName package)).segments.head? ≠ some Path.dot := by
  obtain ⟨first, rest, -, hname⟩ := exists_segments_fileName lookup package
  obtain ⟨b, bytes, htext⟩ := List.exists_cons_of_ne_nil (ofString_text_ne_nil package)
  constructor
  · -- the file name does not begin with a slash
    cases habsolute : (Path.ofString (lookup.fileName package)).isAbsolute with
    | false => rfl
    | true =>
      -- nothing would stand before its first slash
      obtain ⟨behind, hbytes⟩ := Path.exists_of_isAbsolute habsolute
      rw [Path.segments_of_isAbsolute hbytes, htext] at hname
      cases hname
  · -- the file name does not begin with a segment that is a dot
    rw [hname, htext, List.head?_cons]
    simp [Path.dot]

/-- **One name** is what the name of a file means exactly if it keeps to the root. -/
theorem keepsToRoot_iff : lookup.KeepsToRoot package ↔
    ∃ name, (Path.ofString (lookup.fileName package)).components = [.name name] := by
  obtain ⟨first, rest, hextension, hname⟩ := exists_segments_fileName lookup package
  obtain ⟨habsolute, hdot⟩ := fileName_begins lookup package
  have hplain : (Path.ofString (lookup.fileName package)).parts.1 = .plain := by
    rw [Path.parts_start, habsolute, if_neg Bool.false_ne_true, if_neg hdot]
  have hrest : rest.filterMap Path.Component.ofSegment? = [] ↔
      ∀ segment ∈ rest, Path.isFiller segment = true := by
    rw [List.filterMap_eq_nil_iff]
    exact forall₂_congr fun segment _ => Path.Component.ofSegment?_eq_none_iff
  have hkeeps : lookup.KeepsToRoot package ↔
      (∀ segment ∈ rest, Path.isFiller segment = true) ∧ ¬(package.text = "." ∧ first = []) := by
    constructor
    · -- the segments are those of the extension
      rintro ⟨other, others, hsame, hkeeps⟩
      rw [hextension] at hsame
      obtain ⟨rfl, rfl⟩ := List.cons.inj hsame
      exact hkeeps
    · exact fun hkeeps => ⟨first, rest, hextension, hkeeps⟩
  rw [hkeeps, ← hrest, Path.components_eq, hplain, hname, List.filterMap_cons, ofSegment?_first]
  by_cases hup : package.text = "." ∧ first = []
  · -- the first segment is the parent
    rw [if_pos hup]
    simp [hup, Path.Start.components]
  · -- the first segment is a name, and nothing else follows unless the rest has a component
    rw [if_neg hup]
    simp [hup, Path.Start.components]

end SourceLookup

/-! ### Where a source is read -/

/-- **A source was read at a place** below the root of its supplier, by the name of a file: the place
is what follows the folder in the path of the file, or what leads from the root of the archive to the
first member of that name. -/
inductive SchemaSource.ReadAt (world : World) (name : String) (source : SchemaSource)
    (place : List Path.Component) : Prop
  | folder {executable : Bool} (kind : source.origin.kind = .folder)
      (file : world.find (source.origin.path.join (.ofString name))
        = .ok (.file (.ofString source.text) executable))
      (path : (source.origin.path.join (.ofString name)).components
        = source.origin.path.components ++ place)
  | archive {format : ArchiveFormat} {content : Bytes} {executable : Bool} {member : Tar.Member}
      (kind : source.origin.kind = .archive)
      (recognised : ArchiveFormat.ofPath? source.origin.path = some format)
      (file : world.find source.origin.path = .ok (.file content executable))
      (first : Tar.FirstNamed (.ofString name) (format.bundle content) member)
      (text : member.content? = some (.ofString source.text))
      (path : (Path.mk member.name).componentsInside = place)

/-- The first member of a name is called by it. -/
theorem Tar.FirstNamed.isNamed {name : Path} {bundle : Stream} {member : Member}
    (h : FirstNamed name bundle member) : member.isNamed name = true := by
  induction h with
  | here _ named => exact (Bool.and_eq_true_iff.mp named).2
  | later _ _ _ _ ih => exact ih

namespace SourceLookup

variable {lookup : SourceLookup} {world : World} {package : PackageName} {source : SchemaSource}

/-- What a bundle gives is the content of the first member of the name. -/
theorem exists_member_of_findInBundle {archive : Path} {bundle : Stream} {name text : String}
    (h : findInBundle archive bundle name = .ok (some text)) :
    ∃ member, Tar.FirstNamed (.ofString name) bundle member ∧
      member.content? = some (.ofString text) :=
  Tar.find_eq_content_iff.mp (findInBundle_eq_some_iff.mp h)

/-- **Every source was read at the place that the name of its file means**, on one of the suppliers.
The place is a name at the root of the supplier exactly if the name of the file keeps to the root. -/
theorem find_readAt (h : lookup.find world package = .ok (some source)) :
    source.origin ∈ lookup.suppliers ∧
      ∃ place, source.ReadAt world (lookup.fileName package) place ∧
        ((∃ name, place = [.name name]) ↔ lookup.KeepsToRoot package) := by
  obtain ⟨hpackage, hsearch⟩ := find_eq_some_iff_search.mp h
  obtain ⟨before, after, hsuppliers, -, hfound⟩ := search_eq_some_iff.mp hsearch
  refine ⟨by rw [hsuppliers]; simp, (Path.ofString (lookup.fileName package)).components, ?_,
    keepsToRoot_iff.symm⟩
  obtain ⟨found, ⟨kind, origin⟩, text⟩ := source
  cases kind with
  | folder =>
    -- the file of the folder is the one that its path leads to
    obtain ⟨executable, hfile⟩ := findInFolder_eq_some_iff.mp hfound
    obtain ⟨habsolute, hdot⟩ := fileName_begins lookup package
    exact .folder rfl hfile (Path.components_join habsolute hdot)
  | archive =>
    change findInArchive world origin (lookup.fileName package) = _ at hfound
    unfold findInArchive at hfound
    split at hfound
    · -- an archive of no recognised format is passed
      cases hfound
    · next format hformat =>
      split at hfound
      · -- the archive cannot be read
        cases hfound
      · next content executable hfile =>
        -- the archive is a file, and the entry is its first one of that name
        obtain ⟨member, hfirst, htext⟩ := exists_member_of_findInBundle hfound
        exact .archive rfl hformat hfile hfirst htext (beq_iff_eq.mp hfirst.isNamed)
      · obtain ⟨member, hfirst, -⟩ := exists_member_of_findInBundle hfound
        -- nothing can be read from what is no file
        cases hfirst with
        | here next => cases next
        | later next => cases next

/-- A folder `s` that has a source and a directory, and a file beside the folder. -/
def neighbourWorld : World where
  files := ⟨[(.ofString "s", .directory [(.ofString "a.stema", .file (.ofString "schema") false),
      (.ofString "a.d", .directory [])]), (.ofString "b", .file (.ofString "other") false)]⟩
  environment := ⟨[]⟩
  here := .root
  started := []

/-- The search path of the folder. -/
def neighbourLookup : SourceLookup := { suppliers := [⟨.folder, .ofString "/s"⟩] }

/-- With the usual extension the source is read in the folder. -/
theorem find_readAt_neighbourWorld :
    ∃ place, SchemaSource.ReadAt neighbourWorld "a.stema"
        ⟨⟨"a", rfl⟩, ⟨.folder, .ofString "/s"⟩, "schema"⟩ place ∧
      ((∃ name, place = [.name name]) ↔ neighbourLookup.KeepsToRoot ⟨"a", rfl⟩) := by
  have hfound : neighbourLookup.find neighbourWorld ⟨"a", rfl⟩
      = .ok (some ⟨⟨"a", rfl⟩, ⟨.folder, .ofString "/s"⟩, "schema"⟩) := by
    decide +kernel
  exact (find_readAt hfound).2

/-- **A source can be read outside of the folder**: the extension leads through a directory in the
folder to the file beside it. -/
theorem find_outside :
    (neighbourLookup.withExtension "d/../../b").find neighbourWorld ⟨"a", rfl⟩
        = .ok (some ⟨⟨"a", rfl⟩, ⟨.folder, .ofString "/s"⟩, "other"⟩) ∧
      (Path.join (.ofString "/s") (.ofString "a.d/../../b")).components
        = (Path.ofString "/s").components
          ++ [.name (.ofString "a.d"), .parent, .parent, .name (.ofString "b")] :=
  ⟨by decide +kernel, by decide +kernel⟩

end SourceLookup

end SchemaBuild
