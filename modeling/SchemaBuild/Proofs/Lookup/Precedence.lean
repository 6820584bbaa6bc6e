import SchemaBuild.Lookup
import SchemaBuild.Proofs.Text.Utf8

/-!
# Which supplier wins

Looking a package up on a search path is a walk along the suppliers that ends at the first answer,
be it a text or an error. So a search path is decided from the front: what stands behind the first
answer is never looked at.

* `SourceLookup.search_append` — a search over two paths one after the other goes on with the second
  one only if the first gives no answer;
* `SourceLookup.search_eq_some_iff` — a text is found exactly if some supplier gives it and those
  before it give no answer;
* `SourceLookup.Precedence` — the law for whole lookups, down to the files in folders;
* `SourceLookup.precedence` — every lookup obeys it.
-/

namespace SchemaBuild.SourceLookup

variable {world : World} {name : String} {suppliers : List Supplier} {origin : Supplier}
  {text : String}

/-! ### Searching -/

/-- The first answer decides: a search goes on only where there was none. -/
theorem search_append (world : World) (name : String) (xs ys : List Supplier) :
    search world name (xs ++ ys) =
      match search world name xs with
      | .ok none => search world name ys
      | decided => decided := by
  induction xs with
  | nil => rfl
  | cons x xs ih =>
    rw [List.cons_append, search, search]
    cases findOn world x name with
    | error error =>
      -- an error decides
      rfl
    | ok answer =>
      cases answer with
      | none =>
        -- a miss leaves it to the suppliers behind
        exact ih
      | some text =>
        -- a text decides
        rfl

/-- Searching one supplier is asking it. -/
theorem search_singleton (world : World) (name : String) (supplier : Supplier) :
    search world name [supplier] = (findOn world supplier name).map (·.map (supplier, ·)) := by
  rw [search]
  cases findOn world supplier name with
  | error error => rfl
  | ok answer => cases answer <;> rfl

theorem search_eq_none_iff : search world name suppliers = .ok none ↔
    ∀ supplier ∈ suppliers, findOn world supplier name = .ok none := by
  induction suppliers with
  | nil => simp [search]
  | cons first suppliers ih =>
    rw [List.forall_mem_cons, search]
    cases findOn world first name with
    | error error =>
      -- an error is no miss
      simp
    | ok answer =>
      cases answer with
      | none =>
        -- a miss says nothing about the suppliers behind
        simp [ih]
      | some text =>
        -- a text is no miss
        simp

/-- **A text is found** exactly on the first supplier that gives an answer. -/
theorem search_eq_some_iff : search world name suppliers = .ok (some (origin, text)) ↔
    ∃ before after, suppliers = before ++ origin :: after ∧
      (∀ supplier ∈ before, findOn world supplier name = .ok none) ∧
      findOn world origin name = .ok (some text) := by
  constructor
  · intro h
    -- along the path, up to the supplier that gives the text
    induction suppliers with
    | nil => cases h
    | cons first suppliers ih =>
      rw [search] at h
      split at h
      · -- the first supplier is in error
        cases h
      · next found hfound =>
        -- the first supplier has the text
        cases h
        exact ⟨[], suppliers, rfl, by simp, hfound⟩
      · next hmiss =>
        -- the first supplier has none, and a later one has it
        obtain ⟨before, after, rfl, hbefore, hfound⟩ := ih h
        exact ⟨first :: before, after, rfl, List.forall_mem_cons.mpr ⟨hmiss, hbefore⟩, hfound⟩
  · -- the suppliers before have none, so the search comes to this one
    rintro ⟨before, after, rfl, hbefore, hfound⟩
    rw [search_append, search_eq_none_iff.mpr hbefore, search, hfound]

/-! ### Folders -/

/-- What a folder can answer when its file would be at `candidate`. -/
inductive FolderAnswer (world : World) (candidate : Path) :
    Except SupplierError (Option String) → Prop
  /-- There is no file, or what is there is none. -/
  | absent (no_file : ∀ content executable, world.find candidate ≠ .ok (.file content executable)) :
      FolderAnswer world candidate (.ok none)
  /-- The file is a text, and the text is all of it. -/
  | whole {text : String} {executable : Bool}
      (file : world.find candidate = .ok (.file (Bytes.ofString text) executable)) :
      FolderAnswer world candidate (.ok (some text))
  /-- The file is no text. -/
  | unreadable {content : Bytes} {executable : Bool}
      (file : world.find candidate = .ok (.file content executable))
      (no_text : ∀ text, content ≠ Bytes.ofString text) :
      FolderAnswer world candidate (.error (.io candidate .notText))

section Folder

variable {folder : Path}

theorem findInFolder_of_file {content : Bytes} {executable : Bool}
    (h : world.find (folder.join (.ofString name)) = .ok (.file content executable)) :
    findInFolder world folder name =
      match content.toString? with
      | some text => .ok (some text)
      | none => .error (.io (folder.join (.ofString name)) .notText) := by
  have hfile : world.isFile (folder.join (.ofString name)) = true := by
    rw [World.isFile, h]
    rfl
  have hread : world.read (folder.join (.ofString name)) = .ok content := by rw [World.read, h]
  rw [findInFolder]
  simp only [hfile, if_true, World.readText, hread]
  cases content.toString? <;> rfl

theorem findInFolder_of_no_file
    (h : ∀ content executable,
      world.find (folder.join (.ofString name)) ≠ .ok (.file content executable)) :
    findInFolder world folder name = .ok none := by
  have hfile : world.isFile (folder.join (.ofString name)) = false := by
    unfold World.isFile
    split
    · next node hfind =>
      -- what is found is no file
      cases node with
      | file content executable => exact absurd hfind (h content executable)
      | directory entries => rfl
      | link target => rfl
    · -- nothing is found
      rfl
  rw [findInFolder]
  simp only [hfile, Bool.false_eq_true, if_false]

/-- **A folder's answer** is one of these. -/
theorem folderAnswer (world : World) (folder : Path) (name : String) :
    FolderAnswer world (folder.join (.ofString name)) (findInFolder world folder name) := by
  by_cases hfile : ∃ content executable,
      world.find (folder.join (.ofString name)) = .ok (.file content executable)
  · -- there is a file, and its text decides
    obtain ⟨content, executable, hfind⟩ := hfile
    rw [findInFolder_of_file hfind]
    cases hcontent : content.toString? with
    | some text =>
      rw [Bytes.toString?_eq_some_iff.mp hcontent] at hfind
      exact .whole hfind
    | none =>
      refine .unreadable hfind ?_
      intro text htext
      rw [Bytes.toString?_eq_some_iff.mpr htext] at hcontent
      cases hcontent
  · -- there is no file, whatever else is there
    have hnone : ∀ content executable,
        world.find (folder.join (.ofString name)) ≠ .ok (.file content executable) :=
      fun content executable hfind => hfile ⟨content, executable, hfind⟩
    rw [findInFolder_of_no_file hnone]
    exact .absent hnone

theorem findInFolder_eq_none_iff : findInFolder world folder name = .ok none ↔
    ∀ content executable,
      world.find (folder.join (.ofString name)) ≠ .ok (.file content executable) := by
  refine ⟨fun h => ?_, findInFolder_of_no_file⟩
  have hanswer := folderAnswer world folder name
  rw [h] at hanswer
  cases hanswer with
  | absent no_file => exact no_file

theorem findInFolder_eq_some_iff : findInFolder world folder name = .ok (some text) ↔
    ∃ executable, world.find (folder.join (.ofString name))
      = .ok (.file (Bytes.ofString text) executable) := by
  constructor
  · -- of all that a folder may answer only a whole file gives a text
    intro h
    have hanswer := folderAnswer world folder name
    rw [h] at hanswer
    cases hanswer with
    | whole file => exact ⟨_, file⟩
  · -- a text is read as it is written
    rintro ⟨executable, hfind⟩
    rw [findInFolder_of_file hfind, Bytes.toString?_ofString]

theorem findInFolder_eq_error_iff {error : SupplierError} :
    findInFolder world folder name = .error error ↔
      error = .io (folder.join (.ofString name)) .notText ∧ ∃ content executable,
        world.find (folder.join (.ofString name)) = .ok (.file content executable) ∧
          ∀ text, content ≠ Bytes.ofString text := by
  constructor
  · -- of all that a folder may answer only a file that is no text is an error
    intro h
    have hanswer := folderAnswer world folder name
    rw [h] at hanswer
    cases hanswer with
    | unreadable file no_text => exact ⟨rfl, _, _, file, no_text⟩
  · -- a file that is no text cannot be read as one
    rintro ⟨rfl, content, executable, hfind, hno_text⟩
    have hcontent : content.toString? = none := by
      rw [Option.eq_none_iff_forall_ne_some]
      exact fun text htext => hno_text text (Bytes.toString?_eq_some_iff.mp htext)
    rw [findInFolder_of_file hfind, hcontent]

end Folder

/-! ### Whole lookups -/

variable {extension : String} {package : PackageName}

/-- A lookup is a search for the file that is named for the package. -/
theorem find_eq (suppliers : List Supplier) (extension : String) (world : World)
    (package : PackageName) :
    find ⟨suppliers, extension⟩ world package =
      (search world (package.text ++ "." ++ extension) suppliers).map
        (·.map fun found => ⟨package, found.1, found.2⟩) := by
  unfold find fileName
  split
  · next hsearch => rw [hsearch]; rfl
  · next hsearch => rw [hsearch]; rfl
  · next hsearch => rw [hsearch]; rfl

theorem find_append (extension : String) (world : World) (package : PackageName)
    (xs ys : List Supplier) :
    find ⟨xs ++ ys, extension⟩ world package =
      match find ⟨xs, extension⟩ world package with
      | .ok none => find ⟨ys, extension⟩ world package
      | decided => decided := by
  rw [find_eq, find_eq xs, find_eq ys, search_append]
  cases search world (package.text ++ "." ++ extension) xs with
  | error error => rfl
  | ok found => cases found <;> rfl

/-- Looking up on one supplier is asking it. -/
theorem find_singleton (extension : String) (world : World) (package : PackageName)
    (supplier : Supplier) :
    find ⟨[supplier], extension⟩ world package
      = (findOn world supplier (package.text ++ "." ++ extension)).map
        (·.map fun text => ⟨package, supplier, text⟩) := by
  rw [find_eq, search_singleton]
  cases findOn world supplier (package.text ++ "." ++ extension) with
  | error error => rfl
  | ok answer => cases answer <;> rfl

theorem find_singleton_eq_none_iff {supplier : Supplier} :
    find ⟨[supplier], extension⟩ world package = .ok none ↔
      findOn world supplier (package.text ++ "." ++ extension) = .ok none := by
  rw [find_singleton]
  cases findOn world supplier (package.text ++ "." ++ extension) with
  | error error => simp [Except.map]
  | ok answer => cases answer <;> simp [Except.map]

theorem find_singleton_eq_some_iff {supplier : Supplier} {source : SchemaSource} :
    find ⟨[supplier], extension⟩ world package = .ok (some source) ↔
      source.package = package ∧ source.origin = supplier ∧
        findOn world supplier (package.text ++ "." ++ extension) = .ok (some source.text) := by
  rw [find_singleton]
  cases findOn world supplier (package.text ++ "." ++ extension) with
  | error error =>
    -- an error finds nothing
    simp [Except.map]
  | ok answer =>
    cases answer with
    | none =>
      -- a miss finds nothing
      simp [Except.map]
    | some text =>
      -- all that is found is told by the source
      constructor
      · intro h
        cases h
        exact ⟨rfl, rfl, rfl⟩
      · rintro ⟨rfl, rfl, h⟩
        cases h
        rfl

theorem find_singleton_eq_error_iff {supplier : Supplier} {error : SupplierError} :
    find ⟨[supplier], extension⟩ world package = .error error ↔
      findOn world supplier (package.text ++ "." ++ extension) = .error error := by
  rw [find_singleton]
  cases findOn world supplier (package.text ++ "." ++ extension) with
  | error error => simp [Except.map]
  | ok answer => cases answer <;> simp [Except.map]

theorem find_eq_some_iff_search {source : SchemaSource} :
    find ⟨suppliers, extension⟩ world package = .ok (some source) ↔
      source.package = package ∧ search world (package.text ++ "." ++ extension) suppliers
        = .ok (some (source.origin, source.text)) := by
  rw [find_eq]
  cases search world (package.text ++ "." ++ extension) suppliers with
  | error error =>
    -- an error finds nothing
    simp [Except.map]
  | ok found =>
    cases found with
    | none =>
      -- a miss finds nothing
      simp [Except.map]
    | some found =>
      -- all that is found is told by the source
      constructor
      · intro h
        cases h
        exact ⟨rfl, rfl⟩
      · rintro ⟨rfl, h⟩
        cases h
        rfl

/-- **A hit** carries the package and the first supplier that gives an answer. -/
theorem find_eq_some_iff {source : SchemaSource} :
    find ⟨suppliers, extension⟩ world package = .ok (some source) ↔
      source.package = package ∧ ∃ before after, suppliers = before ++ source.origin :: after ∧
        (∀ supplier ∈ before, find ⟨[supplier], extension⟩ world package = .ok none) ∧
        find ⟨[source.origin], extension⟩ world package = .ok (some source) := by
  rw [find_eq_some_iff_search, search_eq_some_iff]
  -- what is left is the difference between asking a supplier and looking up on it alone
  simp only [find_singleton_eq_none_iff, find_singleton_eq_some_iff, true_and]
  constructor
  · rintro ⟨hpackage, before, after, hsplit, hbefore, hfound⟩
    exact ⟨hpackage, before, after, hsplit, hbefore, hpackage, hfound⟩
  · rintro ⟨hpackage, before, after, hsplit, hbefore, -, hfound⟩
    exact ⟨hpackage, before, after, hsplit, hbefore, hfound⟩

/-- An archive of no known format gives no answer. -/
theorem find_unrecognised {archive : Path} (h : ArchiveFormat.ofPath? archive = none) :
    find ⟨[⟨.archive, archive⟩], extension⟩ world package = .ok none := by
  rw [find_singleton_eq_none_iff]
  show findInArchive world archive _ = _
  rw [findInArchive, h]

/-! ### The law -/

/-- **The law of precedence** for the lookups of a package in a world. -/
structure Precedence (extension : String) (world : World) (package : PackageName) : Prop where
  /-- Two paths one after the other: the first decides if it gives an answer. -/
  append : ∀ xs ys, find ⟨xs ++ ys, extension⟩ world package =
    match find ⟨xs, extension⟩ world package with
    | .ok none => find ⟨ys, extension⟩ world package
    | decided => decided
  /-- A hit is for the package that was asked for and comes from the first supplier that has it: the
  suppliers before that one have nothing and are no failures either. -/
  hit_iff : ∀ suppliers source,
    find ⟨suppliers, extension⟩ world package = .ok (some source) ↔
      source.package = package ∧ ∃ before after, suppliers = before ++ source.origin :: after ∧
        (∀ supplier ∈ before, find ⟨[supplier], extension⟩ world package = .ok none) ∧
        find ⟨[source.origin], extension⟩ world package = .ok (some source)
  /-- A folder has a package exactly if there is a file of that name, with links followed, and then
  the text is all of its content. -/
  folder_hit_iff : ∀ folder source,
    find ⟨[⟨.folder, folder⟩], extension⟩ world package = .ok (some source) ↔
      source.package = package ∧ source.origin = ⟨.folder, folder⟩ ∧ ∃ executable,
        world.find (folder.join (.ofString (package.text ++ "." ++ extension)))
          = .ok (.file (Bytes.ofString source.text) executable)
  folder_miss_iff : ∀ folder,
    find ⟨[⟨.folder, folder⟩], extension⟩ world package = .ok none ↔
      ∀ content executable,
        world.find (folder.join (.ofString (package.text ++ "." ++ extension)))
          ≠ .ok (.file content executable)
  /-- A folder fails only on a file that is no text. -/
  folder_error_iff : ∀ folder error,
    find ⟨[⟨.folder, folder⟩], extension⟩ world package = .error error ↔
      error = .io (folder.join (.ofString (package.text ++ "." ++ extension))) .notText ∧
        ∃ content executable,
          world.find (folder.join (.ofString (package.text ++ "." ++ extension)))
            = .ok (.file content executable) ∧ ∀ text, content ≠ Bytes.ofString text
  /-- An archive of no known format may as well not be there, wherever it stands. -/
  unrecognised : ∀ archive xs ys, ArchiveFormat.ofPath? archive = none →
    find ⟨xs ++ ⟨.archive, archive⟩ :: ys, extension⟩ world package
      = find ⟨xs ++ ys, extension⟩ world package
  /-- A hit stays the same whatever stands behind it, also in another world: only the suppliers up
  to the hit have a say. -/
  settled : ∀ xs ys source world', find ⟨xs, extension⟩ world package = .ok (some source) →
    (∀ supplier ∈ xs, find ⟨[supplier], extension⟩ world' package
      = find ⟨[supplier], extension⟩ world package) →
    find ⟨xs ++ ys, extension⟩ world' package = .ok (some source)

/-- **Every lookup obeys the law of precedence.** -/
theorem precedence (extension : String) (world : World) (package : PackageName) :
    Precedence extension world package where
  append := find_append extension world package
  hit_iff _ _ := find_eq_some_iff
  folder_hit_iff folder source := by
    rw [find_singleton_eq_some_iff]
    show _ ∧ _ ∧ findInFolder world folder _ = _ ↔ _
    rw [findInFolder_eq_some_iff]
  folder_miss_iff folder := by
    rw [find_singleton_eq_none_iff]
    exact findInFolder_eq_none_iff
  folder_error_iff folder error := by
    rw [find_singleton_eq_error_iff]
    exact findInFolder_eq_error_iff
  unrecognised archive xs ys hformat := by
    have hskip : find ⟨⟨.archive, archive⟩ :: ys, extension⟩ world package
        = find ⟨ys, extension⟩ world package := by
      have happend := find_append extension world package [⟨.archive, archive⟩] ys
      rw [find_unrecognised hformat] at happend
      exact happend
    rw [find_append, find_append, hskip]
  settled xs ys source world' hhit hsame := by
    -- the hit splits the path, and both worlds agree on the suppliers up to it
    obtain ⟨hpackage, before, after, hxs, hbefore, hfound⟩ := find_eq_some_iff.mp hhit
    have hmem : ∀ supplier, supplier ∈ before ∨ supplier = source.origin → supplier ∈ xs := by
      intro supplier h
      rw [hxs]
      simp only [List.mem_append, List.mem_cons]
      exact h.imp_right .inl
    refine find_eq_some_iff.mpr ⟨hpackage, before, after ++ ys, ?_, ?_, ?_⟩
    · rw [hxs, List.append_assoc, List.cons_append]
    · intro supplier hsupplier
      rw [hsame supplier (hmem supplier (.inl hsupplier)), hbefore supplier hsupplier]
    · rw [hsame source.origin (hmem source.origin (.inr rfl)), hfound]

end SchemaBuild.SourceLookup
