import SchemaBuild.Proofs.Archive.Headers
import SchemaBuild.Proofs.Archive.Members
import SchemaBuild.Proofs.Path.Segments

/-!
# Bundles of given files

A bundle as it is written: for every file its header, its content and zeros up to the next block, and
two blocks of zeros at the end (`Tar.IsBundle`). Looking for a file in such a bundle finds the content
of the file, or that there is none of that name: `Tar.IsBundle.find_eq`. All files whose names and
sizes fit have such a bundle: `Tar.isBundle_bundleOf`.
-/

namespace SchemaBuild

/-! ### Names -/

/-- A name that a file can have and that fits in a header. -/
structure Path.IsName (name : Bytes) : Prop where
  ne_nil : name ≠ []
  length_le : name.length ≤ 98
  noSlash : Path.slash ∉ name
  noNul : 0 ∉ name
  ne_dot : name ≠ Path.dot
  ne_dotDot : name ≠ Path.dotDot

namespace Path

variable {name : Bytes}

theorem Component.ofSegment?_of_ne (hne : name ≠ []) (hdot : name ≠ dot) :
    Component.ofSegment? name = if name = dotDot then some .parent else some (.name name) := by
  have hfiller : ¬isFiller name = true := by simpa [isFiller, hne] using hdot
  rw [Component.ofSegment?, if_neg hfiller]

/-- A path of one stretch has one component. -/
theorem components_of_noSlash (hslash : slash ∉ name) (hne : name ≠ []) :
    (Path.mk name).components
      = if name = dot then [.current] else if name = dotDot then [.parent] else [.name name] := by
  have hsegments : (Path.mk name).segments = [name] := Bytes.split_of_not_mem hslash
  have habsolute := isAbsolute_of_noSlash hslash hne
  have hparts : (Path.mk name).parts = if name = dot then (.current, []) else (.plain, [name]) := by
    rw [parts, hsegments, habsolute]
    rfl
  rw [components, hparts]
  by_cases hdot : name = dot
  · -- a dot is the directory itself
    rw [if_pos hdot, if_pos hdot]
    rfl
  · -- two dots are the directory above, and anything else is a name
    rw [if_neg hdot, if_neg hdot]
    dsimp only [Start.components, List.nil_append]
    rw [List.filterMap_cons, Component.ofSegment?_of_ne hne hdot]
    by_cases hparent : name = dotDot <;> simp [hparent]

namespace IsName

/-- The name of a file leads to it. -/
theorem componentsInside (h : IsName name) : (Path.mk name).componentsInside = [.name name] := by
  rw [Path.componentsInside, components_of_noSlash h.noSlash h.ne_nil, if_neg h.ne_dot,
    if_neg h.ne_dotDot]

/-- It leads there from the directory itself, too. -/
theorem componentsInside_dot (h : IsName name) :
    (Path.mk (dot ++ slash :: name)).componentsInside = [.name name] := by
  have hsegments : (Path.mk (dot ++ slash :: name)).segments = [dot, name] := by
    rw [segments, Bytes.split_append, Bytes.split_of_not_mem h.noSlash]
    rfl
  have hparts : (Path.mk (dot ++ slash :: name)).parts = (.current, [name]) := by
    rw [parts, hsegments]
    rfl
  have hcomponents : (Path.mk (dot ++ slash :: name)).components = [.current, .name name] := by
    rw [Path.components, hparts]
    dsimp only [Start.components]
    rw [List.filterMap_cons, Component.ofSegment?_of_ne h.ne_nil h.ne_dot, if_neg h.ne_dotDot]
    rfl
  rw [Path.componentsInside, hcomponents]

end IsName

end Path

namespace Stream

variable {front rest : Bytes} {n : Nat}

/-- The front of a source is a block of it, however the source ends. -/
theorem block?_front (intact : Bool) (h : front.length = n) :
    (Stream.mk (front ++ rest) intact).block? n = some (some (front, ⟨rest, intact⟩)) := by
  subst h
  simp only [block?, drop, List.take_left, List.drop_left, if_pos]

/-- The front of a source can be passed over. -/
theorem skip?_front (intact : Bool) (h : front.length = n) :
    (Stream.mk (front ++ rest) intact).skip? n = some ⟨rest, intact⟩ := by
  subst h
  simp only [skip?, drop, List.take_left, List.drop_left, if_pos]

theorem block?_append (h : front.length = n) :
    (ofBytes (front ++ rest)).block? n = some (some (front, ofBytes rest)) :=
  block?_front true h

theorem skip?_append (h : front.length = n) :
    (ofBytes (front ++ rest)).skip? n = some (ofBytes rest) :=
  skip?_front true h

end Stream

namespace Tar

/-! ### Bundles -/

/-- How many bytes fill up the last block of a content of `n` bytes. -/
def fill (n : Nat) : Nat := (blockSize - n % blockSize) % blockSize

/-- **A bundle of the given files**, in their order. The path in a header is the name of the file,
or leads to it from the directory itself. -/
inductive IsBundle : List (Bytes × Bytes) → Bytes → Prop
  | nil : IsBundle [] (List.replicate (2 * blockSize) 0)
  | cons {name path content block rest : Bytes} {files : List (Bytes × Bytes)}
      (header : IsFileHeader block path content.length)
      (named : path = name ∨ path = Path.dot ++ Path.slash :: name) (behind : IsBundle files rest) :
      IsBundle ((name, content) :: files)
        (block ++ (content ++ (List.replicate (fill content.length) 0 ++ rest)))

theorem padded_eq (n : Nat) : padded n = n + fill n := by
  unfold padded fill blockSize
  omega

section Header

variable {block path rest : Bytes} {size : Nat}

/-- The entry that a header begins. -/
def fileEntry (block rest : Bytes) (size : Nat) : Entry := ⟨⟨block⟩, size, .ofBytes rest⟩

theorem headed?_of_fileHeader (h : IsFileHeader block path size) :
    headed? (.ofBytes (block ++ rest)) none = some (some (fileEntry block rest size)) := by
  have hsize : size + (blockSize - 1) < numberLimit := by
    have hlt := h.size_lt
    unfold blockSize numberLimit
    omega
  rw [headed?, Stream.block?_append (show block.length = blockSize from h.length)]
  dsimp only
  rw [h.not_all_zero, h.isSound, h.size?_eq, if_neg Bool.false_ne_true, if_pos rfl]
  exact if_pos hsize

/-- The header of an ordinary file is read as a member of its own, since it describes nothing. -/
theorem nextMember?_of_fileHeader (h : IsFileHeader block path size) :
    nextMember? (.ofBytes (block ++ rest)) = some (some ⟨fileEntry block rest size, {}⟩) := by
  have hlayout : ¬(fileEntry block rest size).header.layout = .old := by
    rw [show (fileEntry block rest size).header.layout = .ustar from h.layout_eq]
    decide
  refine nextMemberFrom?_of_heads (.plain (headed?_of_fileHeader h) hlayout ?_)
  -- ordinary files are of two kinds, and neither is one of these
  obtain hkind | hkind := h.kind_eq <;>
  · rw [show (fileEntry block rest size).header.kind = _ from hkind]
    decide

end Header

/-- A block of zeros ends a bundle, and nothing behind it matters. -/
theorem find_of_zeros {rest : Bytes} (intact : Bool) (path : Path) :
    Tar.find ⟨List.replicate blockSize 0 ++ rest, intact⟩ path = .absent := by
  have hzeros : (List.replicate blockSize (0 : UInt8)).all (· = 0) = true := by
    rw [List.all_eq_true]
    intro b hmem
    simpa using List.eq_of_mem_replicate hmem
  have hnext : nextMember? ⟨List.replicate blockSize 0 ++ rest, intact⟩ = some none := by
    rw [nextMember?, nextMemberFrom?, headed?, Stream.block?_front intact List.length_replicate]
    dsimp only
    rw [hzeros]
    rfl
  rw [Tar.find_eq, hnext]

section File

variable {block path other content rest name : Bytes}

/-- **A file in a bundle** has the name that is looked for, or the search goes on behind it. -/
theorem find_of_fileHeader (header : IsFileHeader block path content.length)
    (hother : Path.IsName other) (named : path = other ∨ path = Path.dot ++ Path.slash :: other)
    (hslash : Path.slash ∉ name) (hne : name ≠ []) :
    Tar.find (.ofBytes (block ++ (content ++ (List.replicate (fill content.length) 0 ++ rest))))
        ⟨name⟩
      = if name = other then .content content else Tar.find (.ofBytes rest) ⟨name⟩ := by
  let member : Member := ⟨fileEntry block
    (content ++ (List.replicate (fill content.length) 0 ++ rest)) content.length, {}⟩
  have hfile : member.isFile = true := by
    obtain hkind | hkind := header.kind_eq <;>
      simp [member, Member.isFile, fileEntry, hkind]
  -- the path in the header leads to the file, however it is spelled
  have hpath : (Path.mk member.name).componentsInside = [.name other] := by
    rw [show member.name = path from header.name_eq]
    obtain rfl | rfl := named
    · exact hother.componentsInside
    · exact hother.componentsInside_dot
  have hnamed : member.isNamed ⟨name⟩ = decide (name = other) := by
    rw [Member.isNamed, hpath, Path.components_of_noSlash hslash hne, Bool.eq_iff_iff, beq_iff_eq,
      decide_eq_true_iff]
    have hdot := hother.ne_dot
    have hdotDot := hother.ne_dotDot
    split
    · next hname =>
      -- the dot is no name, so it is none of the file
      simp [hname, hdot.symm]
    · split
      · next hname => simp [hname, hdotDot.symm]
      · -- any other name is told by its bytes
        simp [eq_comm]
  have hcontent : member.content? = some content := by
    rw [show member.content? = (Stream.ofBytes _).read? content.length from rfl,
      Stream.read?_ofBytes, List.take_left]
  have hafter : member.entry.after? = some (.ofBytes rest) := by
    have hlength : (content ++ List.replicate (fill content.length) 0).length
        = padded content.length := by
      rw [List.length_append, List.length_replicate, padded_eq]
    rw [Entry.after?, show member.entry.content = .ofBytes _ from rfl, ← List.append_assoc]
    exact Stream.skip?_append hlength
  rw [Tar.find_eq, nextMember?_of_fileHeader header]
  dsimp only
  rw [show (⟨fileEntry _ _ _, {}⟩ : Member) = member from rfl, hfile, hnamed, Bool.true_and,
    hcontent, hafter]
  by_cases hname : name = other <;> simp [hname]

end File

/-- **Looking for a file** in a bundle of files finds its content, or that there is none. -/
theorem IsBundle.find_eq {files : List (Bytes × Bytes)} {bytes name : Bytes}
    (h : IsBundle files bytes) (hnames : ∀ file ∈ files, Path.IsName file.1)
    (hslash : Path.slash ∉ name) (hne : name ≠ []) :
    Tar.find (.ofBytes bytes) ⟨name⟩ =
      match files.lookup name with
      | some content => .content content
      | none => .absent := by
  induction h with
  | nil =>
    -- blocks of zeros end the bundle
    have hzeros : List.replicate (2 * blockSize) (0 : UInt8)
        = List.replicate blockSize 0 ++ List.replicate blockSize 0 := by
      rw [Nat.two_mul, List.replicate_append_replicate]
    rw [hzeros]
    exact find_of_zeros true ⟨name⟩
  | @cons other path content block rest files header named behind ih =>
    obtain ⟨hother, hnames⟩ := List.forall_mem_cons.mp hnames
    rw [find_of_fileHeader header hother named hslash hne, List.lookup_cons]
    by_cases hname : name = other
    · -- the first file is the one that is looked for
      rw [if_pos hname, beq_iff_eq.mpr hname]
    · -- another file is passed with its filling
      rw [if_neg hname, beq_eq_false_iff_ne.mpr hname]
      exact ih hnames

/-- The end of a source ends a search, too. -/
theorem find_nil (path : Path) : Tar.find (.ofBytes []) path = .absent := by
  rw [Tar.find_eq]
  rfl

/-! ### Writing a bundle -/

/-- A file as it stands in a bundle. -/
def fileBlocks (name content : Bytes) : Bytes :=
  headerOf name content.length ++ (content ++ List.replicate (fill content.length) 0)

/-- The bundle of the files. -/
def bundleOf (files : List (Bytes × Bytes)) : Bytes :=
  files.flatMap (fun file => fileBlocks file.1 file.2) ++ List.replicate (2 * blockSize) 0

/-- The header of a file whose name and size fit. -/
theorem headerOf_isFileHeader_of_isName {name content : Bytes} (hname : Path.IsName name)
    (hsize : content.length < 8 ^ 11) :
    IsFileHeader (headerOf name content.length) name content.length :=
  headerOf_isFileHeader (Nat.le_trans hname.length_le (by decide)) hname.noNul hsize

theorem fileBlocks_length {name content : Bytes} (hname : Path.IsName name)
    (hsize : content.length < 8 ^ 11) :
    (fileBlocks name content).length = 512 + padded content.length := by
  rw [fileBlocks, List.length_append, (headerOf_isFileHeader_of_isName hname hsize).length,
    List.length_append, List.length_replicate, padded_eq]

/-- **A file at the front** has the name that is looked for, or the search goes on behind it. -/
theorem find_fileBlocks {other content rest name : Bytes} (hother : Path.IsName other)
    (hsize : content.length < 8 ^ 11) (hslash : Path.slash ∉ name) (hne : name ≠ []) :
    Tar.find (.ofBytes (fileBlocks other content ++ rest)) ⟨name⟩
      = if name = other then .content content else Tar.find (.ofBytes rest) ⟨name⟩ := by
  rw [fileBlocks, List.append_assoc, List.append_assoc]
  exact find_of_fileHeader (headerOf_isFileHeader_of_isName hother hsize) hother (.inl rfl) hslash hne

/-- **Every list of files has a bundle.** -/
theorem isBundle_bundleOf {files : List (Bytes × Bytes)}
    (h : ∀ file ∈ files, Path.IsName file.1 ∧ file.2.length < 8 ^ 11) :
    IsBundle files (bundleOf files) := by
  induction files with
  | nil => exact .nil
  | cons file files ih =>
    obtain ⟨⟨hname, hsize⟩, hfiles⟩ := List.forall_mem_cons.mp h
    have hbundle := IsBundle.cons (headerOf_isFileHeader_of_isName hname hsize) (.inl rfl) (ih hfiles)
    have hbytes : bundleOf (file :: files) = headerOf file.1 file.2.length
        ++ (file.2 ++ (List.replicate (fill file.2.length) 0 ++ bundleOf files)) := by
      simp only [bundleOf, fileBlocks, List.flatMap_cons, List.append_assoc]
    rw [hbytes]
    exact hbundle

end Tar

end SchemaBuild
