import SchemaBuild.Proofs.Json.Documents
import SchemaBuild.Proofs.Json.ReadBack

/-!
# Values that are read back

The names, paths, suppliers, options and classpaths of a build are written as JSON and read again, and
so is the request for a plugin, which is made of them. Each reader gives back the value that was written,
provided that there is something to read: a path that is no text has no JSON.

* `PackageName.reads`, `Path.reads`, `Supplier.reads`, `GenerationOptions.reads` — the values that others
  are made of;
* `ClasspathConfig.reads` — classpaths;
* `GenerationRequest.read` — a reader for the other side, with `GenerationRequest.reads` and
  `GenerationRequest.readDocument_document`.
-/

namespace SchemaBuild

/-- The text of a name breaks no rule, so the check of the reader lets it through. -/
theorem PackageName.reads (name : PackageName) : Json.Reads read name.toJson name := by
  intro blanks text hblanks hspells rest
  rw [read, Json.readString_reads "a string" name.text hblanks hspells rest]
  simp only [bind, Except.bind, ofString?_text]
  rfl

theorem Path.reads {path : Path} {json : Json} (h : path.toJson = .ok json) :
    Json.Reads read json path := by
  obtain ⟨found, rfl, rfl⟩ := toJson_eq_ok_iff.mp h
  intro blanks text hblanks hspells rest
  rw [read, Json.readString_reads "path string" found hblanks hspells rest]
  rfl

theorem SupplierKind.reads (kind : SupplierKind) : Json.Reads read kind.toJson kind := by
  cases kind
  · exact Json.readWord_reads rfl
  · exact Json.readWord_reads rfl

theorem Supplier.reads {supplier : Supplier} {json : Json} (h : supplier.toJson = .ok json) :
    Json.Reads read json supplier := by
  obtain ⟨found, hpath, rfl⟩ := toJson_eq_ok_iff.mp h
  have hkind : Json.Reads SupplierKind.read (.string supplier.kind.word) supplier.kind :=
    supplier.kind.reads
  have hread : Json.Reads Path.read (.string found) supplier.path :=
    Path.reads (Path.toJson_eq_ok_iff.mpr ⟨found, hpath, rfl⟩)
  have hfills : Json.Fills fields ⟨none, none⟩
      [("kind", .string supplier.kind.word), ("path", .string found)]
      ⟨some supplier.kind, some supplier.path⟩ :=
    .cons rfl rfl (hkind.field _ _ _ _ _) (.cons rfl rfl (hread.field _ _ _ _ _) (.nil _))
  have hrecord := hfills.reads (by simp [fields, Json.field]) "SupplierDescriptor"
  intro blanks text hblanks hspells rest
  rw [read, hrecord hblanks hspells rest]
  rfl

theorem GenerationOptions.reads (options : GenerationOptions) :
    Json.Reads read options.toJson options := by
  have hgetters := Json.readBool_reads options.getters
  have hupdaters := Json.readBool_reads options.updaters
  have hfills : Json.Fills fields ⟨none, none⟩
      [("generate_getters", .bool options.getters), ("generate_updaters", .bool options.updaters)]
      ⟨some options.getters, some options.updaters⟩ :=
    .cons rfl rfl (hgetters.field _ _ _ _ _) (.cons rfl rfl (hupdaters.field _ _ _ _ _) (.nil _))
  have hrecord := hfills.reads (by simp [fields, Json.field]) "GenerationOptions"
  intro blanks text hblanks hspells rest
  rw [read, hrecord hblanks hspells rest]
  rfl

/-! ### Classpaths -/

namespace ClasspathConfig

/-- A listing file is read if it is there, and `null` if it is not. -/
theorem fileJson_reads {file : Option Path} {json : Json} (h : fileJson file = .ok json) :
    Json.Reads (Json.readOption Path.read) json file := by
  cases file with
  | none =>
    cases h
    exact Json.readOption_null _
  | some file =>
    -- the text of a path stands between quotes, so it cannot be taken for `null`
    obtain ⟨found, -, rfl⟩ := Path.toJson_eq_ok_iff.mp h
    exact Json.readOption_reads (Path.reads h) (show '"' ≠ 'n' by decide)

theorem variableJson_reads (name : Option String) :
    Json.Reads (Json.readOption (Json.readString "a string")) (variableJson name) name := by
  cases name with
  | none => exact Json.readOption_null _
  | some name =>
    exact Json.readOption_reads (Json.readString_reads "a string" name) (show '"' ≠ 'n' by decide)

/-- **A classpath is read**, with all three parts. -/
theorem reads {classpath : ClasspathConfig} {json : Json} (h : classpath.toJson = .ok json) :
    Json.Reads read json classpath := by
  obtain ⟨entries, file, hentries, hfile, rfl⟩ := toJson_eq_ok_iff.mp h
  have hlist : Json.Reads (Json.readList Path.read) (.array entries) classpath.entries :=
    Json.readList_reads ((mapM_eq_ok_iff.mp hentries).flip.imp fun _ _ hentry => Path.reads hentry)
  have hfills : Json.Fills fields ⟨none, none, none⟩
      [("entries", .array entries), ("file", file), ("env", variableJson classpath.variableName)]
      ⟨some classpath.entries, some classpath.file, some classpath.variableName⟩ :=
    .cons rfl rfl (hlist.field _ _ _ _ _) <|
    .cons rfl rfl ((fileJson_reads hfile).field _ _ _ _ _) <|
    .cons rfl rfl ((variableJson_reads classpath.variableName).field _ _ _ _ _) (.nil _)
  have hrecord := hfills.reads (by simp [fields, Json.field]) "ClasspathConfig"
  intro blanks text hblanks hspells rest
  rw [read, hrecord hblanks hspells rest]
  rfl

end ClasspathConfig

/-! ### Requests for plugins -/

namespace GenerationRequest

/-- What has been read of a request. -/
structure Draft where
  package : Option PackageName
  origin : Option Supplier
  text : Option String
  options : Option GenerationOptions
  output : Option Path

/-- The fields of a request. -/
def fields : List (Json.Field Draft) :=
  [Json.field "package" false (·.package) (fun draft package => { draft with package := some package })
      PackageName.read,
    Json.field "origin" false (·.origin) (fun draft origin => { draft with origin := some origin })
      Supplier.read,
    Json.field "source" false (·.text) (fun draft text => { draft with text := some text })
      (Json.readString "a string"),
    Json.field "options" false (·.options) (fun draft options => { draft with options := some options })
      GenerationOptions.read,
    Json.field "output_dir" false (·.output) (fun draft output => { draft with output := some output })
      Path.read]

/-- Read a request, as a plugin does. -/
def read : Json.Reader GenerationRequest := fun text => do
  let (draft, rest) ← Json.readRecord "GenerationRequest" fields ⟨none, none, none, none, none⟩ text
  match draft with
  | ⟨some package, some origin, some text, some options, some output⟩ =>
    return (⟨⟨package, origin, text⟩, options, output⟩, rest)
  | _ => throw .malformed

/-- **A request is read**, with all that it holds. -/
theorem reads {request : GenerationRequest} {json : Json} (h : request.toJson = .ok json) :
    Json.Reads read json request := by
  obtain ⟨origin, output, horigin, houtput, rfl⟩ := toJson_eq_ok_iff.mp h
  obtain ⟨source, options, directory⟩ := request
  have htext := Json.readString_reads "a string" source.text
  have hfills : Json.Fills fields ⟨none, none, none, none, none⟩
      [("package", source.package.toJson), ("origin", origin), ("source", .string source.text),
        ("options", options.toJson), ("output_dir", output)]
      ⟨some source.package, some source.origin, some source.text, some options, some directory⟩ :=
    .cons rfl rfl (source.package.reads.field _ _ _ _ _) <|
    .cons rfl rfl ((Supplier.reads horigin).field _ _ _ _ _) <|
    .cons rfl rfl (htext.field _ _ _ _ _) <|
    .cons rfl rfl (options.reads.field _ _ _ _ _) <|
    .cons rfl rfl ((Path.reads houtput).field _ _ _ _ _) (.nil _)
  have hrecord := hfills.reads (by simp [fields, Json.field]) "GenerationRequest"
  intro blanks text hblanks hspells rest
  rw [read, hrecord hblanks hspells rest]
  rfl

/-- The text that a plugin reads says what it is asked for. -/
theorem readDocument_document {request : GenerationRequest} {document : String}
    (h : request.document = .ok document) : Json.readDocument read document = .ok request := by
  obtain ⟨json, hjson, rfl⟩ := document_eq_ok_iff.mp h
  exact (reads hjson).readDocument (Json.compact_spells json)

end GenerationRequest

end SchemaBuild
