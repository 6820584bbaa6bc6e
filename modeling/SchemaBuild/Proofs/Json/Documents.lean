import Mathlib.Data.List.Forall2
import SchemaBuild.CommandLine.Commands
import SchemaBuild.Config.Document
import SchemaBuild.Proofs.Path.Text

/-!
# Documents with paths in them

What is written as JSON holds paths, and there is no JSON of a path that is no text. So a search path, a
classpath, the request for a plugin and the answer of a build can be written exactly if the paths in them
are text, and there is one reason only why they cannot.

* `Path.toJson_eq_ok_iff`, `Supplier.listToJson_eq_ok_iff` — paths and search paths;
  `Supplier.listToJson_same_iff`: what is written tells them apart;
* `ClasspathConfig.toJson_eq_ok_iff`, `ClasspathConfig.exists_toJson_iff` — classpaths;
* `GenerationRequest.exists_document_iff`, `GenerationRequest.document_of_not_isText` — the request for
  a plugin;
* `responseJson_eq_ok_iff`, `responseJson_of_not_isText` — the answer of a build.
-/

namespace SchemaBuild

/-- The member of an object with a name. -/
def Json.member? : Json → String → Option Json
  | .object fields, name => fields.lookup name
  | _, _ => none

/-! ### Lists -/

section Lists

variable {ε α β : Type} {f : α → Except ε β} {items : List α}

/-- A list is written item by item, -/
theorem mapM_eq_ok_iff {results : List β} :
    items.mapM f = .ok results ↔ List.Forall₂ (fun item result => f item = .ok result) items results := by
  induction items generalizing results with
  | nil =>
    constructor
    · rintro ⟨⟩
      exact .nil
    · rintro ⟨⟩
      rfl
  | cons item items ih =>
    rw [List.mapM_cons]
    constructor
    · intro h
      -- neither the first item nor one behind it has failed
      cases hitem : f item with
      | error error =>
        rw [hitem] at h
        cases h
      | ok result =>
        cases hitems : items.mapM f with
        | error error =>
          rw [hitem, hitems] at h
          cases h
        | ok others =>
          rw [hitem, hitems] at h
          cases h
          exact .cons hitem (ih.mp hitems)
    · -- the other way round, each item is written by itself
      rintro (_ | ⟨hitem, hitems⟩)
      rw [hitem, ih.mpr hitems]
      rfl

/-- and it can be written if every item can. -/
theorem exists_mapM_iff :
    (∃ results, items.mapM f = .ok results) ↔ ∀ item ∈ items, ∃ result, f item = .ok result := by
  simp only [mapM_eq_ok_iff]
  induction items with
  | nil => exact iff_of_true ⟨[], .nil⟩ (List.forall_mem_nil _)
  | cons item items ih =>
    rw [List.forall_mem_cons, ← ih]
    constructor
    · -- what the first item and those behind it give is taken apart
      rintro ⟨_, _ | ⟨hitem, hitems⟩⟩
      exact ⟨⟨_, hitem⟩, ⟨_, hitems⟩⟩
    · rintro ⟨⟨result, hitem⟩, ⟨results, hitems⟩⟩
      exact ⟨result :: results, .cons hitem hitems⟩

end Lists

/-! ### Paths -/

theorem Path.toJson_eq_ok_iff {path : Path} {json : Json} :
    path.toJson = .ok json ↔ ∃ text, path = .ofString text ∧ json = .string text := by
  unfold Path.toJson
  cases htext : path.toString? with
  | none =>
    constructor
    · nofun
    · -- what is written is text, so there is a text after all
      rintro ⟨text, rfl, -⟩
      have hsome : (ofString text).toString? = some text := Bytes.toString?_eq_some_iff.mpr rfl
      rw [hsome] at htext
      cases htext
  | some text =>
    have hpath : path = .ofString text := by
      have hbytes : path.bytes = Bytes.ofString text := Bytes.toString?_eq_some_iff.mp htext
      rw [Path.ofString, ← hbytes]
    constructor
    · intro h
      exact ⟨text, hpath, (Except.ok.inj h).symm⟩
    · -- a path is that of one text only
      rintro ⟨other, rfl, rfl⟩
      have hsame : (ofString other).toString? = some other := Bytes.toString?_eq_some_iff.mpr rfl
      rw [hsame] at htext
      rw [Option.some.inj htext]

theorem Path.toJson_of_isText {path : Path} (h : path.IsText) : ∃ json, path.toJson = .ok json := by
  obtain ⟨text, htext⟩ := h
  exact ⟨.string text, toJson_eq_ok_iff.mpr ⟨text, congrArg Path.mk htext, rfl⟩⟩

theorem Path.isText_of_toJson {path : Path} {json : Json} (h : path.toJson = .ok json) :
    path.IsText := by
  obtain ⟨text, rfl, -⟩ := toJson_eq_ok_iff.mp h
  exact isText_ofString text

/-- **A path can be written** if it is text, -/
theorem Path.exists_toJson_iff {path : Path} : (∃ json, path.toJson = .ok json) ↔ path.IsText :=
  ⟨fun ⟨_, hjson⟩ => isText_of_toJson hjson, toJson_of_isText⟩

/-- and there is one reason only why it cannot. -/
theorem Path.toJson_of_not_isText {path : Path} (h : ¬ path.IsText) :
    path.toJson = .error .pathNotText := by
  rw [isText_iff, Option.not_isSome_iff_eq_none] at h
  rw [Path.toJson, h]

/-! ### Search paths -/

namespace Supplier

theorem toJson_eq_ok_iff {supplier : Supplier} {json : Json} :
    supplier.toJson = .ok json ↔ ∃ text, supplier.path = .ofString text ∧
      json = .object [("kind", .string supplier.kind.word), ("path", .string text)] := by
  unfold toJson
  cases hpath : supplier.path.toJson with
  | error error =>
    refine ⟨nofun, ?_⟩
    rintro ⟨text, htext, -⟩
    rw [Path.toJson_eq_ok_iff.mpr ⟨text, htext, rfl⟩] at hpath
    cases hpath
  | ok written =>
    obtain ⟨text, htext, rfl⟩ := Path.toJson_eq_ok_iff.mp hpath
    constructor
    · -- the fields are those of the path and the kind
      intro h
      exact ⟨text, htext, (Except.ok.inj h).symm⟩
    · -- the path is written, and so is the whole
      rintro ⟨other, hother, rfl⟩
      rw [Path.toJson_eq_ok_iff.mpr ⟨other, hother, rfl⟩] at hpath
      cases hpath
      rfl

theorem toJson_of_isText {supplier : Supplier} (h : supplier.path.IsText) :
    ∃ json, supplier.toJson = .ok json := by
  obtain ⟨text, htext⟩ := h
  exact ⟨_, toJson_eq_ok_iff.mpr ⟨text, congrArg Path.mk htext, rfl⟩⟩

theorem isText_of_toJson {supplier : Supplier} {json : Json} (h : supplier.toJson = .ok json) :
    supplier.path.IsText := by
  obtain ⟨text, htext, -⟩ := toJson_eq_ok_iff.mp h
  rw [htext]
  exact Path.isText_ofString text

theorem toJson_of_not_isText {supplier : Supplier} (h : ¬ supplier.path.IsText) :
    supplier.toJson = .error .pathNotText := by
  rw [toJson, Path.toJson_of_not_isText h]
  rfl

theorem exists_toJson_iff {supplier : Supplier} :
    (∃ json, supplier.toJson = .ok json) ↔ supplier.path.IsText :=
  ⟨fun ⟨_, hjson⟩ => isText_of_toJson hjson, toJson_of_isText⟩

/-- A supplier can be told from how it is written. -/
theorem toJson_injective {first second : Supplier} {json : Json} (h : first.toJson = .ok json)
    (h' : second.toJson = .ok json) : first = second := by
  obtain ⟨text, hfirst, rfl⟩ := toJson_eq_ok_iff.mp h
  obtain ⟨other, hsecond, hsame⟩ := toJson_eq_ok_iff.mp h'
  simp only [Json.object.injEq, List.cons.injEq, Prod.mk.injEq, Json.string.injEq, true_and,
    and_true] at hsame
  obtain ⟨hword, rfl⟩ := hsame
  have hkind : first.kind = second.kind := by
    revert hword
    cases first.kind <;> cases second.kind <;> decide
  obtain ⟨kind, path⟩ := first
  obtain ⟨kind', path'⟩ := second
  obtain rfl : kind = kind' := hkind
  obtain rfl : path = path' := hfirst.trans hsecond.symm
  rfl

/-- A search path is written as a list, an item for each supplier. -/
theorem listToJson_eq_ok_iff {suppliers : List Supplier} {json : Json} :
    listToJson suppliers = .ok json ↔
      ∃ items, suppliers.mapM toJson = .ok items ∧ json = .array items := by
  unfold listToJson
  cases suppliers.mapM toJson with
  | error error => exact ⟨nofun, by rintro ⟨_, ⟨⟩, -⟩⟩
  | ok items =>
    constructor
    · intro h
      exact ⟨items, rfl, (Except.ok.inj h).symm⟩
    · rintro ⟨_, ⟨⟩, rfl⟩
      rfl

/-- **A search path can be written** if all paths are text, -/
theorem mapM_toJson_of_isText {suppliers : List Supplier}
    (h : ∀ supplier ∈ suppliers, supplier.path.IsText) :
    ∃ items, suppliers.mapM toJson = .ok items :=
  exists_mapM_iff.mpr fun supplier hmem => toJson_of_isText (h supplier hmem)

/-- and not if one is no text. -/
theorem mapM_toJson_of_not_isText {suppliers : List Supplier} {supplier : Supplier}
    (hmem : supplier ∈ suppliers) (h : ¬ supplier.path.IsText) :
    suppliers.mapM toJson = .error .pathNotText := by
  induction suppliers with
  | nil => cases hmem
  | cons first suppliers ih =>
    rw [List.mapM_cons]
    -- the first path that is no text stops the writing, and all of them stop it alike
    by_cases hfirst : first.path.IsText
    · -- the path is text, so it is not the one that stops
      obtain ⟨item, hitem⟩ := toJson_of_isText hfirst
      obtain rfl | hlater := List.mem_cons.mp hmem
      · exact absurd hfirst h
      · rw [hitem, ih hlater]
        rfl
    · -- the path is no text, and it stops the writing
      rw [toJson_of_not_isText hfirst]
      rfl

theorem mapM_toJson_injective {first second : List Supplier} {items : List Json}
    (h : first.mapM toJson = .ok items) (h' : second.mapM toJson = .ok items) : first = second := by
  have hunique : Relator.LeftUnique fun (supplier : Supplier) item => supplier.toJson = .ok item :=
    fun _ _ _ hfirst hsecond => toJson_injective hfirst hsecond
  exact hunique.forall₂ (mapM_eq_ok_iff.mp h) (mapM_eq_ok_iff.mp h')

/-- A search path can be told from how it is written. -/
theorem listToJson_same_iff {first second : List Supplier} {one other : Json}
    (h : listToJson first = .ok one) (h' : listToJson second = .ok other) :
    one = other ↔ first = second := by
  constructor
  · -- equal documents list equal items, and an item tells its supplier
    rintro rfl
    obtain ⟨items, hfirst, rfl⟩ := listToJson_eq_ok_iff.mp h
    obtain ⟨items', hsecond, hsame⟩ := listToJson_eq_ok_iff.mp h'
    obtain rfl : items = items' := Json.array.inj hsame
    exact mapM_toJson_injective hfirst hsecond
  · rintro rfl
    exact Except.ok.inj (h.symm.trans h')

theorem exists_listToJson_iff {suppliers : List Supplier} :
    (∃ json, listToJson suppliers = .ok json) ↔ ∀ supplier ∈ suppliers, supplier.path.IsText := by
  constructor
  · -- a path that is no text would have stopped it
    rintro ⟨json, hjson⟩ supplier hmem
    refine Decidable.byContradiction fun hnot => ?_
    obtain ⟨items, hitems, -⟩ := listToJson_eq_ok_iff.mp hjson
    rw [mapM_toJson_of_not_isText hmem hnot] at hitems
    cases hitems
  · -- each of them can be written, so the list can
    intro h
    obtain ⟨items, hitems⟩ := mapM_toJson_of_isText h
    exact ⟨.array items, listToJson_eq_ok_iff.mpr ⟨items, hitems, rfl⟩⟩

theorem listToJson_of_not_isText {suppliers : List Supplier} {supplier : Supplier}
    (hmem : supplier ∈ suppliers) (h : ¬ supplier.path.IsText) :
    listToJson suppliers = .error .pathNotText := by
  rw [listToJson, mapM_toJson_of_not_isText hmem h]
  rfl

end Supplier

/-! ### Classpaths -/

namespace ClasspathConfig

/-- The paths of a classpath. -/
def paths (classpath : ClasspathConfig) : List Path := classpath.entries ++ classpath.file.toList

/-- The listing file as JSON. -/
def fileJson (file : Option Path) : Except IoError Json :=
  match file with
  | none => .ok .null
  | some file => file.toJson

/-- The name of the variable as JSON. -/
def variableJson (name : Option String) : Json :=
  match name with
  | none => .null
  | some name => .string name

/-- A classpath is written as an object of its three parts. -/
theorem toJson_eq_ok_iff {classpath : ClasspathConfig} {json : Json} :
    classpath.toJson = .ok json ↔ ∃ entries file, classpath.entries.mapM Path.toJson = .ok entries ∧
      fileJson classpath.file = .ok file ∧
      json = .object [("entries", .array entries), ("file", file),
        ("env", variableJson classpath.variableName)] := by
  have htoJson : classpath.toJson = (do
      let entries ← classpath.entries.mapM Path.toJson
      let file ← fileJson classpath.file
      return .object [("entries", .array entries), ("file", file),
        ("env", variableJson classpath.variableName)]) := by
    unfold toJson fileJson
    cases classpath.file <;> rfl
  rw [htoJson]
  cases classpath.entries.mapM Path.toJson with
  | error error => exact ⟨nofun, by rintro ⟨_, _, ⟨⟩, -⟩⟩
  | ok entries =>
    cases fileJson classpath.file with
    | error error => exact ⟨nofun, by rintro ⟨_, _, -, ⟨⟩, -⟩⟩
    | ok file =>
      constructor
      · -- both parts are written, and they are what the document holds
        intro h
        exact ⟨entries, file, rfl, rfl, (Except.ok.inj h).symm⟩
      · -- there is one way only to write each part
        rintro ⟨_, _, ⟨⟩, ⟨⟩, rfl⟩
        rfl

/-- **A classpath can be written** if all of its paths are text. -/
theorem exists_toJson_iff {classpath : ClasspathConfig} :
    (∃ json, classpath.toJson = .ok json) ↔ ∀ path ∈ classpath.paths, path.IsText := by
  have hentries : (∃ entries, classpath.entries.mapM Path.toJson = .ok entries) ↔
      ∀ entry ∈ classpath.entries, entry.IsText := by
    simp only [exists_mapM_iff, Path.exists_toJson_iff]
  have hfile : (∃ file, fileJson classpath.file = .ok file) ↔
      ∀ file ∈ classpath.file.toList, file.IsText := by
    cases classpath.file with
    | none => exact iff_of_true ⟨.null, rfl⟩ (List.forall_mem_nil _)
    | some file => exact Path.exists_toJson_iff.trans List.forall_mem_singleton.symm
  rw [paths, List.forall_mem_append, ← hentries, ← hfile]
  simp only [toJson_eq_ok_iff]
  constructor
  · -- what is written tells of each part
    rintro ⟨_, entries, file, hwritten, hfound, -⟩
    exact ⟨⟨entries, hwritten⟩, ⟨file, hfound⟩⟩
  · -- the parts that are written make the whole
    rintro ⟨⟨entries, hwritten⟩, ⟨file, hfound⟩⟩
    exact ⟨_, entries, file, hwritten, hfound, rfl⟩

end ClasspathConfig

/-! ### Requests for plugins -/

namespace GenerationRequest

/-- A request is written as an object of its five parts. -/
theorem toJson_eq_ok_iff {request : GenerationRequest} {json : Json} :
    request.toJson = .ok json ↔ ∃ origin output, request.source.origin.toJson = .ok origin ∧
      request.output.toJson = .ok output ∧
      json = .object [("package", request.source.package.toJson), ("origin", origin),
        ("source", .string request.source.text), ("options", request.options.toJson),
        ("output_dir", output)] := by
  unfold toJson
  cases request.source.origin.toJson with
  | error error => exact ⟨nofun, by rintro ⟨_, _, ⟨⟩, -⟩⟩
  | ok origin =>
    cases request.output.toJson with
    | error error => exact ⟨nofun, by rintro ⟨_, _, -, ⟨⟩, -⟩⟩
    | ok output =>
      -- both paths are written, and they are what the document holds
      constructor
      · intro h
        exact ⟨origin, output, rfl, rfl, (Except.ok.inj h).symm⟩
      · rintro ⟨_, _, ⟨⟩, ⟨⟩, rfl⟩
        rfl

theorem document_eq_ok_iff {request : GenerationRequest} {document : String} :
    request.document = .ok document ↔ ∃ json, request.toJson = .ok json ∧ document = json.compact := by
  unfold GenerationRequest.document
  cases request.toJson with
  | error error => exact ⟨nofun, by rintro ⟨_, ⟨⟩, -⟩⟩
  | ok json =>
    constructor
    · intro h
      exact ⟨json, rfl, (Except.ok.inj h).symm⟩
    · rintro ⟨_, ⟨⟩, rfl⟩
      rfl

/-- **A request can be written** if both of its paths are text, -/
theorem exists_document_iff {request : GenerationRequest} :
    (∃ document, request.document = .ok document) ↔
      request.source.origin.path.IsText ∧ request.output.IsText := by
  constructor
  · -- a document is the text of what is written, and both paths are in that
    rintro ⟨document, hdocument⟩
    obtain ⟨json, hjson, -⟩ := document_eq_ok_iff.mp hdocument
    obtain ⟨origin, output, horigin, houtput, -⟩ := toJson_eq_ok_iff.mp hjson
    exact ⟨Supplier.isText_of_toJson horigin, Path.isText_of_toJson houtput⟩
  · -- both paths can be written, and nothing else can fail
    rintro ⟨horigin, houtput⟩
    obtain ⟨origin, horigin⟩ := Supplier.toJson_of_isText horigin
    obtain ⟨output, houtput⟩ := Path.toJson_of_isText houtput
    have hjson := toJson_eq_ok_iff.mpr ⟨origin, output, horigin, houtput, rfl⟩
    exact ⟨_, document_eq_ok_iff.mpr ⟨_, hjson, rfl⟩⟩

/-- and there is one reason only why it cannot. -/
theorem document_of_not_isText {request : GenerationRequest}
    (h : ¬ (request.source.origin.path.IsText ∧ request.output.IsText)) :
    request.document = .error .pathNotText := by
  rw [GenerationRequest.document, GenerationRequest.toJson]
  by_cases horigin : request.source.origin.path.IsText
  · -- the origin can be written, so it is the output directory that cannot
    obtain ⟨origin, hwritten⟩ := Supplier.toJson_of_isText horigin
    rw [hwritten, Path.toJson_of_not_isText fun houtput => h ⟨horigin, houtput⟩]
    rfl
  · -- the origin comes first, and it cannot be written
    rw [Supplier.toJson_of_not_isText horigin]
    rfl

end GenerationRequest

/-! ### Answers of builds -/

/-- One root is written as a list of one path. -/
theorem RootSet.toJson_singleton {root : Path} {json : Json} :
    (RootSet.mk [root]).toJson = .ok json ↔
      ∃ text, root = .ofString text ∧ json = .array [.string text] := by
  unfold RootSet.toJson
  rw [List.mapM_cons]
  constructor
  · -- the one path in the list is text, since it is written
    intro h
    cases hroot : root.toJson with
    | error error =>
      rw [hroot] at h
      cases h
    | ok written =>
      rw [hroot] at h
      obtain ⟨text, htext, rfl⟩ := Path.toJson_eq_ok_iff.mp hroot
      exact ⟨text, htext, (Except.ok.inj h).symm⟩
  · -- a text can be written
    rintro ⟨text, rfl, rfl⟩
    rw [Path.toJson_eq_ok_iff.mpr ⟨text, rfl, rfl⟩]
    rfl

/-- What is said of a successful build: its report first, and the roots behind it. -/
theorem responseJson_eq_ok_iff {report : BuildReport} {roots : RootSet} {json : Json} :
    responseJson report roots = .ok json ↔
      ∃ suppliers output sourceRoots, Supplier.listToJson report.suppliers = .ok suppliers ∧
        report.output.toJson = .ok output ∧ roots.toJson = .ok sourceRoots ∧
        json = .object [("suppliers", suppliers),
          ("packages", .array (report.packages.map PackageName.toJson)),
          ("output_directory", output), ("source_roots", sourceRoots)] := by
  unfold responseJson BuildReport.jsonFields
  cases Supplier.listToJson report.suppliers with
  | error error => exact ⟨nofun, by rintro ⟨_, _, _, ⟨⟩, -⟩⟩
  | ok suppliers =>
    cases report.output.toJson with
    | error error => exact ⟨nofun, by rintro ⟨_, _, _, -, ⟨⟩, -⟩⟩
    | ok output =>
      cases roots.toJson with
      | error error => exact ⟨nofun, by rintro ⟨_, _, _, -, -, ⟨⟩, -⟩⟩
      | ok sourceRoots =>
        constructor
        · -- nothing failed, so the parts are the ones that are written
          intro h
          exact ⟨suppliers, output, sourceRoots, rfl, rfl, rfl, (Except.ok.inj h).symm⟩
        · rintro ⟨_, _, _, ⟨⟩, ⟨⟩, ⟨⟩, rfl⟩
          rfl

/-- A supplier that is no text is a reason to say nothing at all. -/
theorem responseJson_of_not_isText {report : BuildReport} {roots : RootSet} {supplier : Supplier}
    (hmem : supplier ∈ report.suppliers) (h : ¬ supplier.path.IsText) :
    responseJson report roots = .error .pathNotText := by
  rw [responseJson, BuildReport.jsonFields, Supplier.listToJson_of_not_isText hmem h]
  rfl

end SchemaBuild
