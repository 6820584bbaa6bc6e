import SchemaBuild.CommandLine.Options
import SchemaBuild.Proofs.Classpath.Listing
import SchemaBuild.Proofs.Config.Said
import SchemaBuild.Proofs.Path.Text
import SchemaBuild.Proofs.Resolution.Placed

/-!
# Ways to write a classpath

The entries of a classpath can be written in the configuration itself, in a path list behind an option or
in a variable, or on the lines of a listing file. Each way has marks of its own: a path list is cut at
colons, and on a line the blanks around an entry go and a `#` at its beginning makes it a comment. And
each has directories of its own that relative paths are meant from. Absolute paths that none of the marks
is part of can be written in all of these ways, and they are the same search path then.

* `Path.IsListable` — the path can be written in every way;
* `Path.splitList_intercalate` — such paths come out of a path list, and
  `Classpath.listed_of_isListable` — out of a listing file;
* `Config.Finds` — a configuration leads to a search path;
* `Config.routes_agree` — in all four ways to the same.
-/

namespace SchemaBuild

/-! ### Path lists -/

namespace Bytes

/-- The bytes of texts with a character below 128 between each two. -/
theorem ofString_intercalate {separator : Char} (hascii : separator.toNat < 0x80)
    (texts : List String) :
    ofString ((String.singleton separator).intercalate texts)
      = join (ascii separator) (texts.map ofString) := by
  have hseparator : ofString (String.singleton separator) = [ascii separator] := by
    rw [ofString, String.toList_singleton, Utf8.encode, List.flatMap_singleton,
      Utf8.encodeChar_ascii hascii]
  induction texts with
  | nil => rfl
  | cons text texts ih =>
    cases texts with
    | nil => rw [String.intercalate_singleton, List.map_singleton, join]
    | cons next texts =>
      rw [String.intercalate_cons_cons, ofString_append, ofString_append, hseparator, ih,
        List.append_assoc, List.singleton_append]
      rfl

end Bytes

namespace Path

/-- **A path that can be written in every way**: it is absolute, there is no colon and no line feed in
it, and there are no blanks around it. -/
structure IsListable (text : String) : Prop where
  absolute : (ofString text).isAbsolute = true
  noColon : ':' ∉ text.toList
  noFeed : '\n' ∉ text.toList
  trimmed : Text.trimString text = text

/-- **A path list** has the paths that it was put together from. -/
theorem splitList_intercalate {texts : List String} (h : ∀ text ∈ texts, IsListable text) :
    splitList (.ofString (":".intercalate texts)) = texts.map ofString := by
  have hkept : (texts.map Bytes.ofString).filterMap
      (fun piece => if piece.isEmpty then none else some (⟨piece⟩ : Path)) = texts.map ofString := by
    rw [List.filterMap_map, ← List.filterMap_eq_map]
    refine List.filterMap_congr fun text hmem => if_neg ?_
    exact Bool.eq_false_iff.mp (World.isEmpty_of_isAbsolute (h text hmem).absolute)
  rw [splitList, show (":" : String) = String.singleton ':' from rfl,
    Bytes.ofString_intercalate (by decide)]
  cases texts with
  | nil => rfl
  | cons text texts =>
    rw [Bytes.split_join, hkept]
    · -- no colon stands in an entry, so the list is cut where entries end
      rintro _ hpiece
      obtain ⟨other, hother, rfl⟩ := List.mem_map.mp hpiece
      exact Bytes.ascii_not_mem_ofString (by decide) (h other hother).noColon
    · exact List.cons_ne_nil _ _

end Path

/-! ### Listing files -/

namespace Classpath

/-- Such a path is an entry on its line. -/
theorem entryOn?_of_isListable {text : String} (h : Path.IsListable text) :
    entryOn? text.toList = some text.toList := by
  have htrim : Text.trim text.toList = text.toList := by
    have htext := congrArg String.toList h.trimmed
    rwa [Text.trimString, String.toList_ofList] at htext
  have habsolute := h.absolute
  rw [Path.isAbsolute, Path.ofString, Bytes.ofString] at habsolute
  rw [entryOn?, htrim]
  -- neither nothing nor a comment begins with a slash
  split
  · next hnothing =>
    rw [hnothing] at habsolute
    cases habsolute
  · next hcomment =>
    rw [hcomment] at habsolute
    cases habsolute
  · rfl

/-- **A listing file** lists the paths on its lines. -/
theorem listed_of_isListable {texts : List String} (h : ∀ text ∈ texts, Path.IsListable text)
    {listing : String} (hlines : HasLines (texts.map String.toList) listing.toList) (base : Path) :
    listed base listing = texts.map Path.ofString := by
  rw [listed_of_joined hlines.joined, List.filterMap_map]
  · -- each line is one of the entries
    have hentries : texts.filterMap (entryOn? ∘ String.toList) = texts.map String.toList := by
      rw [← List.filterMap_eq_map]
      exact List.filterMap_congr fun text hmem => entryOn?_of_isListable (h text hmem)
    rw [hentries, List.map_map]
    refine List.map_congr_left fun text hmem => ?_
    exact Path.join_of_isAbsolute (h text hmem).absolute base
  · -- no line feed stands in an entry
    rintro _ hline
    obtain ⟨text, hmem, rfl⟩ := List.mem_map.mp hline
    exact (h text hmem).noFeed

end Classpath

/-! ### The search path -/

namespace Config

/-- In this world, the configuration of a project leads to this search path. -/
def Finds (read : Config) (project : Path) (world : World) (suppliers : List Supplier) : Prop :=
  Supplier.resolve world (read.resolvePaths project).resources
    (read.resolvePaths project).classpathChain = .ok suppliers

/-- The search path of a project whose classpath has these entries. -/
def searchPath (read : Config) (project : Path) (world : World) (entries : List Path) :
    List Supplier :=
  Supplier.ofResources world (project.join read.resources)
    ++ entries.filterMap (Supplier.ofPath? world)

/-- A search path depends on the files and the working directory of a world, and on nothing else. -/
theorem searchPath_congr {world other : World} (hfiles : world.files = other.files)
    (hhere : world.here = other.here) (read : Config) (project : Path) (entries : List Path) :
    read.searchPath project world entries = read.searchPath project other entries := by
  obtain ⟨files, _, here, _, _⟩ := world
  obtain rfl : files = other.files := hfiles
  obtain rfl : here = other.here := hhere
  rfl

variable {read : Config} {project : Path} {world : World} {texts : List String}

/-- What is placed and what the variable holds make the search path. -/
theorem finds_searchPath {placed said : List Path}
    (hplaced : read.placedEntries project world = .ok placed)
    (hsaid : read.variableEntries world = .ok said) :
    read.Finds project world (read.searchPath project world (placed ++ said)) := by
  rw [Finds, Supplier.resolve, entries_resolvePaths, hplaced, hsaid]
  rfl

/-- Such paths are placed where they are. -/
theorem own_of_isListable (h : ∀ text ∈ texts, Path.IsListable text) (project : Path) :
    ((texts.map Path.ofString).filter fun entry => !entry.isEmpty).map project.join
      = texts.map Path.ofString :=
  Path.map_join_of_isAbsolute (List.forall_mem_map.mpr fun text hmem => (h text hmem).absolute) project

/-- As entries of the configuration. -/
theorem finds_of_entries (h : ∀ text ∈ texts, Path.IsListable text) (read : Config) (project : Path)
    (world : World) :
    ({ read with classpath := { entries := texts.map .ofString } } : Config).Finds project world
      (read.searchPath project world (texts.map .ofString)) := by
  have hplaced : ({ read with classpath := { entries := texts.map .ofString } } : Config).placedEntries
      project world = .ok (texts.map Path.ofString) :=
    congrArg Except.ok (own_of_isListable h project)
  have hfinds := finds_searchPath hplaced rfl
  rwa [List.append_nil] at hfinds

/-- As a path list on the command line. -/
theorem exists_finds_of_option (h : ∀ text ∈ texts, Path.IsListable text) {layers : List Layer}
    (hread : Layer.toConfig layers = .ok read) (hnone : read.classpath = {}) (project : Path)
    (world : World) :
    ∃ config,
      Layer.toConfig (layers
        ++ ({ classpath := some (.ofString (":".intercalate texts)) } : SourceOptions).overrides.layers)
          = .ok config ∧
      config.Finds project world (read.searchPath project world (texts.map .ofString)) := by
  have hentries : ({ classpath := some (.ofString (":".intercalate texts)) } : SourceOptions).overrides
      = { classpathEntries := texts.map Path.ofString } := by
    rw [← Path.splitList_intercalate h]
    rfl
  have htext : ({ classpathEntries := texts.map Path.ofString } : Overrides).AreText := by
    intro path hpath
    obtain ⟨text, -, rfl⟩ : ∃ text ∈ texts, Path.ofString text = path := by
      simpa [Overrides.paths] using hpath
    exact Path.isText_iff.mp (Path.isText_ofString text)
  obtain ⟨classpath, plugin, hclasspath, -, hmade⟩ := toConfig_onto hread htext
  -- there is nothing below, so it does not matter whether it is kept
  obtain rfl : classpath = {} := hclasspath.elim (·.trans hnone) id
  have hconfig : ({ classpathEntries := texts.map Path.ofString } : Overrides).onto
      { read with classpath := {}, plugin }
        = { read with plugin, classpath := { entries := texts.map Path.ofString } } := by
    cases texts <;> rfl
  rw [hentries, hmade, hconfig]
  exact ⟨_, rfl, finds_of_entries h { read with plugin } project world⟩

/-- As a path list in a variable. -/
theorem finds_of_variable (h : ∀ text ∈ texts, Path.IsListable text) (read : Config) (project : Path)
    {name : String} (hvalue : world.environment.get? (.ofString name)
      = some (.ofString (":".intercalate texts))) :
    ({ read with classpath := { variableName := some name } } : Config).Finds project world
      (read.searchPath project world (texts.map .ofString)) := by
  have hsaid : Classpath.variableEntries world (.ofString name) = .ok (texts.map Path.ofString) := by
    rw [Classpath.variableEntries, hvalue]
    dsimp only
    rw [Bytes.toString?_ofString, Path.splitList_intercalate h]
  exact @finds_searchPath { read with classpath := { variableName := some name } } project world []
    _ rfl hsaid

/-- On the lines of a listing file. -/
theorem finds_of_listing (h : ∀ text ∈ texts, Path.IsListable text) (read : Config) {file : Path}
    {listing : String} (hlisting : world.readText (project.join file) = .ok listing)
    (hlines : Classpath.HasLines (texts.map String.toList) listing.toList) :
    ({ read with classpath := { file := some file } } : Config).Finds project world
      (read.searchPath project world (texts.map .ofString)) := by
  have hplaced : ({ read with classpath := { file := some file } } : Config).placedEntries project world
      = .ok (texts.map Path.ofString) := by
    show (Classpath.listingEntries world (project.join file)).map ([] ++ ·) = _
    rw [Classpath.listingEntries, hlisting]
    exact congrArg Except.ok (Classpath.listed_of_isListable h hlines _)
  have hfinds := finds_searchPath hplaced rfl
  rwa [List.append_nil] at hfinds

/-- **All ways to write a classpath agree.** Let no source of entries be configured, and take any absolute
paths without colons, line feeds and blanks around them. Whether they become

* the entries of the configuration,
* the path list of the option, on top of layers that make the configuration,
* the path list in the variable that is configured, or
* the lines of the listing file that is configured, however these end,

every world with the same files and the same working directory has the same search path for them. -/
theorem routes_agree (h : ∀ text ∈ texts, Path.IsListable text) (hnone : read.classpath = {})
    (project : Path) (files : FileSystem) (here : Place) :
    ∃ suppliers, ∀ world : World, world.files = files → world.here = here →
      ({ read with classpath := { entries := texts.map .ofString } } : Config).Finds project world
          suppliers ∧
        (∀ layers, Layer.toConfig layers = .ok read →
          ∃ config,
            Layer.toConfig (layers ++ ({ classpath := some (.ofString (":".intercalate texts)) } :
              SourceOptions).overrides.layers) = .ok config ∧
            config.Finds project world suppliers) ∧
        (∀ name, world.environment.get? (.ofString name)
            = some (.ofString (":".intercalate texts)) →
          ({ read with classpath := { variableName := some name } } : Config).Finds project world
            suppliers) ∧
        ∀ file listing, world.readText (project.join file) = .ok listing →
          Classpath.HasLines (texts.map String.toList) listing.toList →
          ({ read with classpath := { file := some file } } : Config).Finds project world
            suppliers := by
  -- the search path of any such world will do, so it is that of one with nothing else in it
  let plain : World := { files, environment := ⟨[]⟩, here, started := [] }
  refine ⟨read.searchPath project plain (texts.map .ofString), ?_⟩
  intro world hfiles hhere
  rw [← searchPath_congr hfiles hhere]
  refine ⟨finds_of_entries h read project world, ?_, ?_, ?_⟩
  · intro layers hread
    exact exists_finds_of_option h hread hnone project world
  · intro name hvalue
    exact finds_of_variable h read project hvalue
  · intro file listing hlisting hlines
    exact finds_of_listing h read hlisting hlines

/-- A world with a project, a library, and a listing file and a variable for a classpath: one line of
the file ends with a carriage return, and the other one does not end. -/
def writtenWorld : World where
  files := ⟨[(Bytes.ofString "lib", .directory []),
    (Bytes.ofString "p", .directory [(Bytes.ofString "schemas", .directory []),
      (Bytes.ofString "list", .file (Bytes.ofString "/lib\r\n/absent") false)])]⟩
  environment := ⟨[(Bytes.ofString "LIBRARIES", Bytes.ofString "/lib:/absent")]⟩
  here := .located []
  started := []

/-- There, all ways lead to the library, and none to the path that does not exist. -/
theorem routes_agree_writtenWorld :
    let texts := ["/lib", "/absent"]
    let found : List Supplier := [⟨.folder, .ofString "/lib"⟩]
    let options : SourceOptions := { classpath := some (.ofString (":".intercalate texts)) }
    ({ classpath := { entries := texts.map .ofString } } : Config).Finds (.ofString "/p") writtenWorld
        found ∧
      (∃ config, Layer.toConfig options.overrides.layers = .ok config ∧
        config.Finds (.ofString "/p") writtenWorld found) ∧
      ({ classpath := { variableName := some "LIBRARIES" } } : Config).Finds (.ofString "/p")
        writtenWorld found ∧
      ({ classpath := { file := some (.ofString "list") } } : Config).Finds (.ofString "/p")
        writtenWorld found := by
  intro texts found options
  have hlistable : ∀ text ∈ texts, Path.IsListable text := by
    refine List.forall_mem_cons.mpr ⟨?_, List.forall_mem_singleton.mpr ?_⟩
    · exact ⟨by decide, by decide, by decide, by decide⟩
    · exact ⟨by decide, by decide, by decide, by decide⟩
  obtain ⟨suppliers, hagree⟩ := @routes_agree {} texts hlistable rfl (.ofString "/p")
    writtenWorld.files writtenWorld.here
  obtain ⟨hentries, hoption, hvariable, hlisting⟩ := hagree writtenWorld rfl rfl
  have hfound : ({ classpath := { entries := texts.map .ofString } } : Config).Finds (.ofString "/p")
      writtenWorld found := by
    show _ = _
    decide +kernel
  obtain rfl : suppliers = found := Except.ok.inj (hentries.symm.trans hfound)
  refine ⟨hfound, ?_, ?_, ?_⟩
  · -- the list behind an option
    exact hoption [] rfl
  · -- the variable
    exact hvariable "LIBRARIES" (by decide)
  · -- the listing file, one of whose lines ends with a return as well
    refine hlisting (.ofString "list") "/lib\r\n/absent" (by decide +kernel) ?_
    exact .line (.inr rfl) (.last (by decide))

end Config

end SchemaBuild
