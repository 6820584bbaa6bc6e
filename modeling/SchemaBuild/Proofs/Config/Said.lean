import SchemaBuild.Proofs.Config.Parts

/-!
# Leaves that the command line decides

The command line is the highest layer. A leaf that it says anything about is in the configuration what
it says, whatever the layers below have for that leaf, be it of a wrong kind or no table where the leaf
has its section. And the command line does no harm: where the layers below make a configuration they
still do with the command line on top of them.

* `Config.decoded_at` — what stands at the end of a leaf's path is what the leaf is read from;
* `Config.get_of_said` — a leaf that is said has the value that is said, and so
  `Config.packages_of_said`: the packages of the command line, if it names any;
* `Config.toConfig_onto` — the configuration with the command line on top of one without. What is not
  said is kept, or has its default: a section that is written as a list gives way as a whole to a
  leaf of it that is said.
-/

namespace SchemaBuild

open Setting

/-! ### Leaves from settings -/

namespace Decoder

variable {α σ : Type}

/-- Decode what may be missing. -/
def optional (decoder : Decoder α) : Decoder (Option α) :=
  fun key setting => (decoder key setting).map some

/-- A field that may be missing is a field with an optional value. -/
theorem field_some (name : String) (decoder : Decoder α) (put : σ → Option α → σ) :
    field name decoder (fun record value => put record (some value))
      = field name decoder.optional put := by
  unfold field optional
  congr 1
  funext key setting record
  cases decoder key setting <;> rfl

end Decoder

namespace Leaf

/-- How the leaf is read from a setting. -/
def decoder : (leaf : Leaf) → Decoder leaf.Value
  | output => .path
  | resources => .path
  | packages => .list .text
  | classpathEntries => .list .path
  | classpathFile => .optional .path
  | classpathVariable => .optional .text
  | getters => .flag
  | updaters => .flag
  | extension => .text
  | plugin => .list .text

/-- What a setting says is read from it. -/
theorem decoder_of_says {leaf : Leaf} {setting : Setting} {value : leaf.Value}
    (h : leaf.Says setting value) (key : SettingKey) : leaf.decoder key setting = .ok value := by
  cases leaf with
  | output => exact Decoder.path_eq_ok setting value h key
  | resources => exact Decoder.path_eq_ok setting value h key
  | packages => exact Decoder.list_eq_ok Decoder.text_eq_ok setting value h key
  | classpathEntries => exact Decoder.list_eq_ok Decoder.path_eq_ok setting value h key
  | classpathFile =>
    obtain ⟨file, hfile, rfl⟩ := h
    exact congrArg (Except.map some) (Decoder.path_eq_ok setting file hfile key)
  | classpathVariable =>
    obtain ⟨name, hname, rfl⟩ := h
    exact congrArg (Except.map some) (Decoder.text_eq_ok setting name hname key)
  | getters => exact Decoder.flag_eq_ok setting value h key
  | updaters => exact Decoder.flag_eq_ok setting value h key
  | extension => exact Decoder.text_eq_ok setting value h key
  | plugin => exact Decoder.list_eq_ok Decoder.text_eq_ok setting value h key

/-- A leaf of a section stands right below it. -/
theorem exists_path_eq {leaf : Leaf} {part : Config.Part}
    (hsection : part = .classpath ∨ part = .plugin) (hhead : leaf.path.head? = some part.name) :
    ∃ next, leaf.path = [part.name, next] := by
  obtain rfl | rfl := hsection
  all_goals
    cases leaf <;> first
      | exact ⟨_, rfl⟩
      | exact absurd hhead (by decide)

/-- What a table has for a name of a leaf, or the leaf's default. -/
def partOf (leaf : Leaf) (key : SettingKey) (entries : Entries) (name : String) :
    Except Mismatch leaf.Value :=
  leaf.decoder.part (leaf.get {}) key entries name

end Leaf

/-! ### Sections -/

/-- **A classpath that is written as a table**, leaf by leaf. -/
theorem ClasspathConfig.named_eq_ok_iff {key : SettingKey} {inside : Entries}
    {made : ClasspathConfig} :
    Decoder.named key inside [entriesField, variableField, fileField] {} = .ok made ↔
      Leaf.classpathEntries.partOf key inside "entries" = .ok made.entries ∧
        Leaf.classpathVariable.partOf key inside "env" = .ok made.variableName ∧
        Leaf.classpathFile.partOf key inside "file" = .ok made.file := by
  have hvariable : variableField = Decoder.field "env" (.optional .text) fun record variableName =>
      { record with variableName } :=
    Decoder.field_some "env" .text fun (record : ClasspathConfig) variableName =>
      { record with variableName }
  have hfile : fileField = Decoder.field "file" (.optional .path) fun record file =>
      { record with file } :=
    Decoder.field_some "file" .path fun (record : ClasspathConfig) file => { record with file }
  rw [hvariable, hfile]
  constructor
  · -- a record that is read has each field read in turn
    intro h
    obtain ⟨entries, hentries, h⟩ := (Decoder.named_field_eq_ok_iff [] rfl).mp h
    obtain ⟨name, hname, h⟩ := (Decoder.named_field_eq_ok_iff none rfl).mp h
    obtain ⟨file, hfile, h⟩ := (Decoder.named_field_eq_ok_iff none rfl).mp h
    obtain rfl := Except.ok.inj h
    exact ⟨hentries, hname, hfile⟩
  · -- each field that is read is put into the record
    rintro ⟨hentries, hname, hfile⟩
    refine (Decoder.named_field_eq_ok_iff _ rfl).mpr ⟨_, hentries, ?_⟩
    refine (Decoder.named_field_eq_ok_iff _ rfl).mpr ⟨_, hname, ?_⟩
    exact (Decoder.named_field_eq_ok_iff _ rfl).mpr ⟨_, hfile, rfl⟩

/-- **What is generated, written as a table**, leaf by leaf. -/
theorem GenerationConfig.named_eq_ok_iff {key : SettingKey} {inside : Entries}
    {made : GenerationConfig} :
    Decoder.named key inside settings {} = .ok made ↔
      Leaf.getters.partOf key inside "generate_getters" = .ok made.options.getters ∧
        Leaf.updaters.partOf key inside "generate_updaters" = .ok made.options.updaters ∧
        Leaf.extension.partOf key inside "source_extension" = .ok made.extension := by
  constructor
  · -- a record that is read has each field read in turn
    intro h
    obtain ⟨getters, hgetters, h⟩ :=
      (Decoder.named_field_eq_ok_iff (Leaf.getters.get {}) rfl).mp h
    obtain ⟨updaters, hupdaters, h⟩ :=
      (Decoder.named_field_eq_ok_iff (Leaf.updaters.get {}) rfl).mp h
    obtain ⟨extension, hextension, h⟩ :=
      (Decoder.named_field_eq_ok_iff (Leaf.extension.get {}) rfl).mp h
    obtain rfl := Except.ok.inj h
    exact ⟨hgetters, hupdaters, hextension⟩
  · -- each field that is read is put into the record
    rintro ⟨hgetters, hupdaters, hextension⟩
    refine (Decoder.named_field_eq_ok_iff _ rfl).mpr ⟨_, hgetters, ?_⟩
    refine (Decoder.named_field_eq_ok_iff _ rfl).mpr ⟨_, hupdaters, ?_⟩
    exact (Decoder.named_field_eq_ok_iff _ rfl).mpr ⟨_, hextension, rfl⟩

/-- **A plugin that is written as a table** is its one leaf. -/
theorem Config.named_plugin_eq_ok_iff {key : SettingKey} {inside : Entries} {made : List String} :
    Decoder.named key inside pluginSettings [] = .ok made ↔
      Leaf.plugin.partOf key inside "command" = .ok made := by
  constructor
  · intro h
    obtain ⟨command, hcommand, h⟩ := (Decoder.named_field_eq_ok_iff [] rfl).mp h
    obtain rfl := Except.ok.inj h
    exact hcommand
  · exact fun h => (Decoder.named_field_eq_ok_iff _ rfl).mpr ⟨_, h, rfl⟩

/-- What stands below a name and another one stands in a table. -/
theorem Setting.exists_table_of_at? {entries : Entries} {name next : String} {setting : Setting}
    (h : at? entries [name, next] = some setting) :
    ∃ source inside, entries.lookup name = some (.table source inside) ∧
      inside.lookup next = some setting := by
  unfold at? at h
  split at h
  · next source inside hsection =>
    -- the section is a table
    exact ⟨source, inside, hsection, h⟩
  · -- nothing stands below what is no table
    cases h

namespace Decoder

variable {σ : Type} {called : String} {fields positions : List (Field σ)} {start value : σ}
  {key : SettingKey} {entries : Entries} {name : String}

theorem part_of_lookup {α : Type} {decoder : Decoder α} {default : α} {setting : Setting}
    (h : entries.lookup name = some setting) :
    part decoder default key entries name = decoder (key ++ [name]) setting := by
  rw [part, h]

/-- A section that can be read can be read from its table alone, if it is one. If it is none then there
is nothing in its table, which gives the section as it starts. -/
theorem exists_within (h : part (.record called fields positions start) start key entries name
      = .ok value) :
    ∃ found, named (key ++ [name]) (within entries name) fields start = .ok found ∧
      (found = value ∨ found = start) := by
  unfold within
  cases hsection : entries.lookup name with
  | none =>
    -- without the section nothing is read, and the start stays
    exact ⟨start, named_nil .., .inr rfl⟩
  | some setting =>
    rw [part_of_lookup hsection] at h
    cases setting with
    | table source inside =>
      -- the section is a table, and it is read
      exact ⟨value, h, .inl rfl⟩
    | _ =>
      -- a section that is no table leaves the start as it is
      exact ⟨start, named_nil .., .inr rfl⟩

end Decoder

/-- **What stands at the end of a leaf's path** is what the leaf of the configuration is read from. -/
theorem Config.decoded_at {entries : Entries} {config : Config} (h : ofSettings entries = .ok config)
    {leaf : Leaf} {setting : Setting} (hat : at? entries leaf.path = some setting) :
    leaf.decoder leaf.path setting = .ok (leaf.get config) := by
  have hread := ofSettings_eq_ok_iff.mp h
  -- a leaf of a section is read where the section is, which is a table then
  have hsection : ∀ {part : Part} {next : String}, at? entries [part.name, next] = some setting →
      ∃ source inside, part.decoder [part.name] (.table source inside) = .ok (part.get config) ∧
        inside.lookup next = some setting := by
    intro part next hat
    obtain ⟨source, inside, hname, hnext⟩ := exists_table_of_at? hat
    have hpart := hread part
    rw [Part.read, Decoder.part_of_lookup hname] at hpart
    exact ⟨source, inside, hpart, hnext⟩
  cases leaf with
  | output => exact (Decoder.part_of_lookup hat).symm.trans (hread .output)
  | resources => exact (Decoder.part_of_lookup hat).symm.trans (hread .resources)
  | packages => exact (Decoder.part_of_lookup hat).symm.trans (hread .packages)
  | classpathEntries =>
    obtain ⟨source, inside, hmade, hnext⟩ := @hsection .classpath _ hat
    exact (Decoder.part_of_lookup hnext).symm.trans (ClasspathConfig.named_eq_ok_iff.mp hmade).1
  | classpathVariable =>
    obtain ⟨source, inside, hmade, hnext⟩ := @hsection .classpath _ hat
    exact (Decoder.part_of_lookup hnext).symm.trans (ClasspathConfig.named_eq_ok_iff.mp hmade).2.1
  | classpathFile =>
    obtain ⟨source, inside, hmade, hnext⟩ := @hsection .classpath _ hat
    exact (Decoder.part_of_lookup hnext).symm.trans (ClasspathConfig.named_eq_ok_iff.mp hmade).2.2
  | getters =>
    obtain ⟨source, inside, hmade, hnext⟩ := @hsection .generation _ hat
    exact (Decoder.part_of_lookup hnext).symm.trans (GenerationConfig.named_eq_ok_iff.mp hmade).1
  | updaters =>
    obtain ⟨source, inside, hmade, hnext⟩ := @hsection .generation _ hat
    exact (Decoder.part_of_lookup hnext).symm.trans (GenerationConfig.named_eq_ok_iff.mp hmade).2.1
  | extension =>
    obtain ⟨source, inside, hmade, hnext⟩ := @hsection .generation _ hat
    exact (Decoder.part_of_lookup hnext).symm.trans (GenerationConfig.named_eq_ok_iff.mp hmade).2.2
  | plugin =>
    obtain ⟨source, inside, hmade, hnext⟩ := @hsection .plugin _ hat
    exact (Decoder.part_of_lookup hnext).symm.trans (named_plugin_eq_ok_iff.mp hmade)

/-! ### The command line on top -/

namespace Overrides

variable {overrides : Overrides}

/-- **On top of any layers** stands at the end of a leaf's path what the command line says there, and
where it says nothing what stood there below. -/
theorem at?_onto (h : overrides.AreText) (leaf : Leaf) (lower : Entries) :
    at? (overrides.stack.foldl mergeEntries lower) leaf.path
      = (overrides.setting? leaf).or (at? lower leaf.path) := by
  have hleads : Leads leaf.path overrides.stack := by
    intro layer hmem
    obtain ⟨hsound, htyped⟩ := stack_typed h layer hmem
    exact htyped.leads hsound leaf
  rw [at?_stack hleads, highest_stack]

/-- A leaf for which there is a value is said, and else it is not. -/
theorem setting?_of_value? (h : overrides.AreText) (leaf : Leaf) :
    match overrides.value? leaf with
    | some value => ∃ setting, overrides.setting? leaf = some setting ∧ leaf.Says setting value
    | none => overrides.setting? leaf = none := by
  unfold setting?
  cases hvalue : overrides.value? leaf with
  | none =>
    -- nothing is said about the leaf
    rw [said_of_no_value hvalue]
  | some value =>
    -- what is said can be read
    obtain ⟨setting, hsaid, hsays⟩ := said_of_value? h hvalue
    exact ⟨setting, by rw [hsaid], hsays⟩

/-- A table that has what the command line says about a leaf, or else what another table has, gives the
value of the command line, or else that of the other table. -/
theorem partOf_onto (h : overrides.AreText) {leaf : Leaf} {key : SettingKey} {lower upper : Entries}
    {name : String} {value : leaf.Value}
    (hlookup : upper.lookup name = (overrides.setting? leaf).or (lower.lookup name))
    (hlower : leaf.partOf key lower name = .ok value) :
    leaf.partOf key upper name = .ok ((overrides.value? leaf).getD value) := by
  have hsaid := setting?_of_value? h leaf
  cases hvalue : overrides.value? leaf with
  | none =>
    -- nothing is said, so the lower table decides
    rw [hvalue] at hsaid
    rw [show overrides.setting? leaf = none from hsaid, Option.none_or] at hlookup
    rw [Leaf.partOf, Decoder.part, hlookup]
    exact hlower
  | some said =>
    -- what is said comes first
    rw [hvalue] at hsaid
    obtain ⟨setting, hsetting, hsays⟩ := hsaid
    rw [hsetting, Option.some_or] at hlookup
    rw [Leaf.partOf, Decoder.part_of_lookup hlookup, Leaf.decoder_of_says hsays]
    rfl

/-- What is said about other leaves is as good as nothing for a name. -/
theorem lookup_onto {name : String}
    (hunsaid : ∀ leaf : Leaf, leaf.path.head? = some name → overrides.setting? leaf = none)
    (lower : Entries) :
    (overrides.stack.foldl mergeEntries lower).lookup name = lower.lookup name := by
  have hsame := lookup_leaves (fun leaf (_ : leaf ∈ Leaf.all) hbelow => hunsaid leaf hbelow)
    (rfl : lower.lookup name = _)
  have hnothing : (Leaf.all.flatMap fun leaf =>
      ((none : Option Setting).map leaf.layer).toList) = [] := rfl
  rw [stack, hsame, hnothing]
  rfl

/-- **A section** is as it is below if nothing is said about its leaves, and else it is a table, with
what is said and what was in the table below. -/
theorem section_onto (h : overrides.AreText) {name : String}
    (hsection : ∀ leaf : Leaf, leaf.path.head? = some name → ∃ next, leaf.path = [name, next])
    (lower : Entries) :
    ((∀ leaf : Leaf, leaf.path.head? = some name → overrides.value? leaf = none) ∧
        (overrides.stack.foldl mergeEntries lower).lookup name = lower.lookup name) ∨
      ∃ source inside,
        (overrides.stack.foldl mergeEntries lower).lookup name = some (.table source inside) ∧
        ∀ {leaf : Leaf} {next : String}, leaf.path = [name, next] →
          inside.lookup next = (overrides.setting? leaf).or ((within lower name).lookup next) := by
  by_cases hsaid : ∃ leaf : Leaf, leaf.path.head? = some name ∧ (overrides.setting? leaf).isSome
  · -- a leaf that is said stands in a table, and so do the others then
    obtain ⟨leaf, hhead, hsome⟩ := hsaid
    obtain ⟨next, hpath⟩ := hsection leaf hhead
    obtain ⟨setting, hsetting⟩ := Option.isSome_iff_exists.mp hsome
    have hat := at?_onto h leaf lower
    rw [hsetting, Option.some_or, hpath] at hat
    obtain ⟨source, inside, htable, -⟩ := exists_table_of_at? hat
    refine .inr ⟨source, inside, htable, ?_⟩
    intro other next hother
    have hat := at?_onto h other lower
    rwa [hother, at?_pair, at?_pair, within, htable] at hat
  · -- nothing is said below this name, and it stays as it was
    have hunsaid : ∀ leaf : Leaf, leaf.path.head? = some name → overrides.setting? leaf = none := by
      intro leaf hhead
      rw [← Option.not_isSome_iff_eq_none]
      exact fun hsome => hsaid ⟨leaf, hhead, hsome⟩
    refine .inl ⟨?_, ?_⟩
    · intro leaf hhead
      have hsays := setting?_of_value? h leaf
      rw [hunsaid leaf hhead] at hsays
      split at hsays
      · obtain ⟨_, ⟨⟩, -⟩ := hsays
      · assumption
    · exact lookup_onto hunsaid lower

/-- A list is said if there is something in it. -/
theorem said_of_ne_nil {α : Type} {list : List α} (h : list ≠ []) :
    (if list.isEmpty then none else some list) = some list :=
  if_neg (by rwa [List.isEmpty_iff])

/-- A configuration with what the command line says in the place of what it had. -/
def onto (overrides : Overrides) (base : Config) : Config :=
  Leaf.toConfig fun leaf => (overrides.value? leaf).getD (leaf.get base)

end Overrides

namespace Config

variable {layers : List Layer} {overrides : Overrides}

/-- **A leaf that is said** has the value that is said. -/
theorem get_of_said {config : Config}
    (h : Layer.toConfig (layers ++ overrides.layers) = .ok config) {leaf : Leaf} {value : leaf.Value}
    (hvalue : overrides.value? leaf = some value) : leaf.get config = value := by
  obtain ⟨entries, hentries, hread⟩ := of_toConfig h
  obtain ⟨stack, rfl, htext, rfl⟩ := Overrides.merged hentries
  have hsaid := Overrides.setting?_of_value? htext leaf
  rw [hvalue] at hsaid
  obtain ⟨setting, hsetting, hsays⟩ := hsaid
  -- the setting of the command line is what stands at the end of the path, whatever is below
  have hat := Overrides.at?_onto htext leaf (stack.foldl mergeEntries [])
  rw [hsetting, Option.some_or] at hat
  have hdecoded := decoded_at (ofSettings_eq_ok_iff.mpr hread) hat
  exact Except.ok.inj (hdecoded.symm.trans (Leaf.decoder_of_says hsays _))

/-- The packages are those of the command line, in its order, if it names any. -/
theorem packages_of_said {config : Config}
    (h : Layer.toConfig (layers ++ overrides.layers) = .ok config)
    (hsaid : overrides.packages ≠ []) : config.packages = overrides.packages :=
  @get_of_said _ _ _ h .packages _ (Overrides.said_of_ne_nil hsaid)

/-- The classpath below is kept or starts anew, and what is said replaces its leaves. -/
theorem classpath_onto (htext : overrides.AreText) {lower : Entries} {found : ClasspathConfig}
    (hlower : Part.classpath.read lower = .ok found) :
    ∃ base, (base = found ∨ base = {}) ∧
      Part.classpath.read (overrides.stack.foldl mergeEntries lower)
        = .ok (overrides.onto { classpath := base }).classpath := by
  obtain ⟨hunsaid, hsame⟩ | ⟨source, inside, htable, hinside⟩ :=
    Overrides.section_onto htext (fun _ => Leaf.exists_path_eq (.inl rfl)) lower
  · -- nothing is said about the section
    refine ⟨found, .inl rfl, ?_⟩
    rw [Part.read_congr hsame, hlower]
    show _ = Except.ok (⟨(overrides.value? .classpathEntries).getD _,
      (overrides.value? .classpathFile).getD _, found.variableName⟩ : ClasspathConfig)
    rw [hunsaid .classpathEntries rfl, hunsaid .classpathFile rfl]
    rfl
  · -- the section is a table now: a leaf that is not said is read from the table below, if that is one
    obtain ⟨base, hbase, hfound⟩ := Decoder.exists_within hlower
    obtain ⟨hentries, hvariable, hfile⟩ := ClasspathConfig.named_eq_ok_iff.mp hbase
    refine ⟨base, hfound, ?_⟩
    rw [Part.read]
    refine (Decoder.part_of_lookup htable).trans (ClasspathConfig.named_eq_ok_iff.mpr ⟨?_, ?_, ?_⟩)
    · exact Overrides.partOf_onto htext (hinside rfl) hentries
    · exact Overrides.partOf_onto htext (hinside rfl) hvariable
    · exact Overrides.partOf_onto htext (hinside rfl) hfile

/-- So is the command of the plugin. -/
theorem plugin_onto (htext : overrides.AreText) {lower : Entries} {found : List String}
    (hlower : Part.plugin.read lower = .ok found) :
    ∃ base, (base = found ∨ base = []) ∧
      Part.plugin.read (overrides.stack.foldl mergeEntries lower)
        = .ok (overrides.onto { plugin := base }).plugin := by
  obtain ⟨hunsaid, hsame⟩ | ⟨source, inside, htable, hinside⟩ :=
    Overrides.section_onto htext (fun _ => Leaf.exists_path_eq (.inr rfl)) lower
  · -- nothing is said about the section
    refine ⟨found, .inl rfl, ?_⟩
    rw [Part.read_congr hsame, hlower]
    show _ = Except.ok ((overrides.value? .plugin).getD _)
    rw [hunsaid .plugin rfl]
    rfl
  · -- the section is a table now
    obtain ⟨base, hbase, hfound⟩ := Decoder.exists_within hlower
    refine ⟨base, hfound, ?_⟩
    rw [Part.read]
    refine (Decoder.part_of_lookup htable).trans (named_plugin_eq_ok_iff.mpr ?_)
    exact Overrides.partOf_onto htext (hinside rfl) (named_plugin_eq_ok_iff.mp hbase)

/-- **The command line on top of a configuration**: where the layers below make one, and all paths of
the command line are text, there is one with the command line as well. It has what the command line
says, and for the rest what the one below has, or in a section that gave way the default. -/
theorem toConfig_onto {lower : Config} (hlower : Layer.toConfig layers = .ok lower)
    (htext : overrides.AreText) :
    ∃ classpath plugin, (classpath = lower.classpath ∨ classpath = {}) ∧
      (plugin = lower.plugin ∨ plugin = []) ∧
      Layer.toConfig (layers ++ overrides.layers)
        = .ok (overrides.onto { lower with classpath, plugin }) := by
  obtain ⟨entries, hentries, hread⟩ := of_toConfig hlower
  obtain ⟨stack, rfl, rfl⟩ := Layer.mergeOnto_eq_ok_iff.mp hentries
  obtain ⟨classpath, hclasspath, hfoundClasspath⟩ := classpath_onto htext (hread .classpath)
  obtain ⟨plugin, hplugin, hfoundPlugin⟩ := plugin_onto htext (hread .plugin)
  refine ⟨classpath, plugin, hclasspath, hplugin, ?_⟩
  rw [Overrides.layers_of_text htext, ← List.map_append, Layer.toConfig, Layer.mergeOnto_ok,
    List.foldl_append]
  refine ofSettings_eq_ok_iff.mpr fun part => ?_
  have hat := fun leaf => Overrides.at?_onto htext leaf (stack.foldl mergeEntries [])
  cases part with
  | classpath => exact hfoundClasspath
  | plugin => exact hfoundPlugin
  | generation =>
    -- the command line has no word on what is generated
    have hunsaid : ∀ leaf : Leaf, leaf.path.head? = some Part.generation.name →
        overrides.setting? leaf = none := by
      intro leaf hhead
      cases leaf <;> first
        | rfl
        | exact absurd hhead (by decide)
    rw [Part.read_congr (Overrides.lookup_onto hunsaid _)]
    exact hread .generation
  | output => exact Overrides.partOf_onto htext (hat .output) (hread .output)
  | packages => exact Overrides.partOf_onto htext (hat .packages) (hread .packages)
  | resources => exact Overrides.partOf_onto htext (hat .resources) (hread .resources)

end Config

end SchemaBuild
