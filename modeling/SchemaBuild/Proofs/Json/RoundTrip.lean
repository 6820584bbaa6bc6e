import SchemaBuild.Proofs.Json.Values

/-!
# Round trips

What is written as JSON is read as what it was, with the same bytes in every name and path. Nothing but
a path that is no text keeps a value from being written. A package name is checked when it is read, and
the check is the one that every name has to pass: a document is a package name if it is a string that
denotes one.

* `Json.RoundTrips` — values that are written and read again;
* `PackageName.readDocument_eq_ok_iff` — the documents that are package names;
* `Json.roundTrips_values` — names, suppliers, options and classpaths.
-/

namespace SchemaBuild

namespace Json

variable {α : Type}

/-- **Values that return**: one cannot be written exactly if one of its paths is no text, and what is
written, be it on one line or over several, is read as the value. -/
structure RoundTrips (write : α → Except IoError Json) (read : Reader α) (paths : α → List Path) :
    Prop where
  fails_iff (value : α) : (∃ error, write value = .error error) ↔ ∃ path ∈ paths value, ¬ path.IsText
  compact {value : α} {json : Json} (h : write value = .ok json) :
    readDocument read json.compact = .ok value
  pretty {value : α} {json : Json} (h : write value = .ok json) :
    readDocument read json.pretty = .ok value

/-- A value cannot be written exactly if it is not written. -/
theorem exists_error_iff {ε : Type} (result : Except ε α) :
    (∃ error, result = .error error) ↔ ¬ ∃ value, result = .ok value := by
  cases result with
  | error error => exact iff_of_true ⟨error, rfl⟩ nofun
  | ok value => exact iff_of_false nofun (not_not_intro ⟨value, rfl⟩)

theorem RoundTrips.of_reads {write : α → Except IoError Json} {read : Reader α}
    {paths : α → List Path}
    (hwrites : ∀ value, (∃ json, write value = .ok json) ↔ ∀ path ∈ paths value, path.IsText)
    (hreads : ∀ value json, write value = .ok json → Reads read json value) :
    RoundTrips write read paths where
  fails_iff value := by
    rw [exists_error_iff, hwrites]
    push Not
    rfl
  compact {value json} h := (hreads value json h).readDocument (compact_spells json)
  pretty {value json} h := (hreads value json h).readDocument (pretty_spells json)

/-- A text is a document of one string at most. -/
theorem SpellsDocument.string_unique {text a b : String} (ha : SpellsDocument (.string a) text)
    (hb : SpellsDocument (.string b) text) : a = b :=
  Except.ok.inj (((readString_reads "" a).readDocument ha).symm.trans
    ((readString_reads "" b).readDocument hb))

end Json

namespace PackageName

/-- A name is read from the string that is its text. -/
theorem read_eq_ok_iff {text rest : List Char} {name : PackageName} :
    read text = .ok (name, rest) ↔ Json.readString "a string" text = .ok (name.text, rest) := by
  unfold read
  cases hread : Json.readString "a string" text with
  | error error => exact iff_of_false nofun nofun
  | ok found =>
    obtain ⟨found, behind⟩ := found
    simp only [bind, Except.bind]
    constructor
    · -- what was read passes the check of names
      intro h
      split at h
      · next other hname =>
        cases h
        rw [ofString?_eq_ok_iff.mp hname]
      · cases h
    · -- a name passes its own check
      intro h
      cases h
      rw [ofString?_text]
      rfl

/-- **The documents that are package names** are the strings that denote the text of one. -/
theorem readDocument_eq_ok_iff {text : String} {name : PackageName} :
    Json.readDocument read text = .ok name ↔ Json.SpellsDocument (.string name.text) text := by
  constructor
  · -- the blanks and the string are what the reader has passed over
    intro h
    obtain ⟨rest, hread, hrest⟩ := Json.readDocument_eq_ok_iff.mp h
    obtain ⟨blanks, inside, hblanks, hinside, htext⟩ :=
      Json.readString_eq_ok_iff.mp (read_eq_ok_iff.mp hread)
    exact ⟨blanks, inside, rest, hblanks, hinside, hrest, htext⟩
  · -- every spelling of the string is read
    exact name.reads.readDocument

end PackageName

namespace Json

/-- **Round trips** of the values that a build is made of: package names, suppliers, options and
classpaths. What they hold may be any text. And a document is read as a package name exactly if it is a
string, and what that denotes, however it is spelled, may be a package name, which then it is. -/
theorem roundTrips_values :
    RoundTrips (fun name => .ok name.toJson) PackageName.read (fun _ => []) ∧
    RoundTrips Supplier.toJson Supplier.read (fun supplier => [supplier.path]) ∧
    RoundTrips (fun options => .ok options.toJson) GenerationOptions.read (fun _ => []) ∧
    RoundTrips ClasspathConfig.toJson ClasspathConfig.read ClasspathConfig.paths ∧
    (∀ text denoted, SpellsDocument (.string denoted) text → ∀ name,
      (readDocument PackageName.read text = .ok name ↔ PackageName.ofString? denoted = .ok name) ∧
      (PackageName.ofString? denoted = .ok name → name.text = denoted)) ∧
    ∀ text name, readDocument PackageName.read text = .ok name →
      SpellsDocument (.string name.text) text := by
  refine ⟨?_, ?_, ?_, ?_, ?_, fun _ _ => PackageName.readDocument_eq_ok_iff.mp⟩
  · -- names: they are always written
    refine .of_reads (fun name => ?_) ?_
    · exact iff_of_true ⟨_, rfl⟩ (List.forall_mem_nil _)
    · rintro name _ ⟨⟩
      exact name.reads
  · -- suppliers: they are written if the path is text
    refine .of_reads (fun supplier => ?_) fun _ _ => Supplier.reads
    rw [List.forall_mem_singleton]
    exact Supplier.exists_toJson_iff
  · -- options: they are always written
    refine .of_reads (fun options => ?_) ?_
    · exact iff_of_true ⟨_, rfl⟩ (List.forall_mem_nil _)
    · rintro options _ ⟨⟩
      exact options.reads
  · -- classpaths: they are written if all paths are text
    exact .of_reads (fun _ => ClasspathConfig.exists_toJson_iff) fun _ _ => ClasspathConfig.reads
  · -- a string is read as the name that it denotes, however it is spelled
    intro text denoted htext name
    refine ⟨?_, PackageName.ofString?_eq_ok_iff.mp⟩
    rw [PackageName.readDocument_eq_ok_iff, PackageName.ofString?_eq_ok_iff]
    constructor
    · -- a spelling denotes one string only
      exact fun hname => hname.string_unique htext
    · rintro rfl
      exact htext

/-- A classpath whose texts have all that is written with a backslash. -/
def escapedClasspath : ClasspathConfig where
  entries := [.ofString "a\"b\\c", .ofString "\n\x01/é😀", ⟨[]⟩]
  variableName := some ""

/-- It returns, and does not with a listing file that is no text; and a name may be spelled by numbers. -/
theorem roundTrips_values_escaped :
    (∃ json, escapedClasspath.toJson = .ok json ∧
      readDocument ClasspathConfig.read json.compact = .ok escapedClasspath ∧
      readDocument ClasspathConfig.read json.pretty = .ok escapedClasspath) ∧
    (∃ error, { escapedClasspath with file := some ⟨[0xFF]⟩ }.toJson = .error error) ∧
    readDocument PackageName.read " \"p\\u002e\\ud83d\\ude00\"\n" = .ok ⟨"p.😀", rfl⟩ ∧
    (∀ name, readDocument PackageName.read "\"a\\/b\"" ≠ .ok name) := by
  obtain ⟨-, -, -, hclasspath, hname, -⟩ := roundTrips_values
  refine ⟨?_, ?_, ?_, ?_⟩
  · -- both forms are read back
    obtain ⟨json, hjson⟩ : ∃ json, escapedClasspath.toJson = .ok json :=
      ClasspathConfig.exists_toJson_iff.mpr (by decide +kernel)
    exact ⟨json, hjson, hclasspath.compact hjson, hclasspath.pretty hjson⟩
  · -- a path that is no text stops the writing
    exact (hclasspath.fails_iff _).mpr ⟨⟨[0xFF]⟩, by decide +kernel, by decide +kernel⟩
  · -- a number, and two numbers for one character
    have hspells : SpellsDocument (.string "p.😀") " \"p\\u002e\\ud83d\\ude00\"\n" := by
      refine ⟨[' '], '"' :: (['p', '\\', 'u', '0', '0', '2', 'e', '\\', 'u', 'd', '8', '3', 'd',
        '\\', 'u', 'd', 'e', '0', '0'] ++ ['"']), ['\n'], by decide, .string ?_, by decide, by decide⟩
      have hpair : Denotes ['\\', 'u', 'd', '8', '3', 'd', '\\', 'u', 'd', 'e', '0', '0'] ['😀'] :=
        @Denotes.pair _ _ _ _ _ _ _ _ 0xD83D 0xDE00 _ _ rfl rfl (by decide) (by decide) .nil
      show Denotes _ ['p', '.', '😀']
      exact .plain (by decide) (by decide) (by decide) (.number rfl rfl hpair)
    exact (hname _ _ hspells _).1.mpr rfl
  · -- the string denotes a text with a slash, which no name has
    intro name
    have hspells : SpellsDocument (.string "a/b") "\"a\\/b\"" := by
      refine ⟨[], '"' :: (['a', '\\', '/', 'b'] ++ ['"']), [], by decide, .string ?_, by decide,
        by decide⟩
      show Denotes _ ['a', '/', 'b']
      exact .plain (by decide) (by decide) (by decide) (.escape rfl
        (.plain (by decide) (by decide) (by decide) .nil))
    rw [ne_eq, (hname _ _ hspells _).1]
    nofun

end Json

end SchemaBuild
