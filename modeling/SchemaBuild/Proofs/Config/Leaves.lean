import Mathlib.Data.List.Forall2
import SchemaBuild.Config.Decode
import SchemaBuild.Proofs.Settings.Distinct

/-!
# The leaves of a configuration

What a configuration says is ten values, its **leaves**. Each of them stands at the end of a path, is
said by settings of one kind, and has a default. `Config.ofSettings` goes through the sections and
their fields; `Config.ofSettings_eq_ok` says what comes out of that leaf by leaf, without the
sections: the value that is said, or the default, for every leaf on its own.
-/

namespace SchemaBuild

/-! ### Kinds of settings -/

namespace Setting

variable {α : Type}

/-- The setting is a text. -/
def IsText (setting : Setting) (value : String) : Prop := ∃ source, setting = .text source value

/-- The setting is a path, which is written as a text. -/
def IsPath (setting : Setting) (value : Path) : Prop :=
  ∃ text, setting.IsText text ∧ value = .ofString text

/-- The setting is a truth value. -/
def IsFlag (setting : Setting) (value : Bool) : Prop := ∃ source, setting = .flag source value

/-- The setting is a list of items of a kind. -/
def IsList (kind : Setting → α → Prop) (setting : Setting) (values : List α) : Prop :=
  ∃ source items, setting = .list source items ∧ List.Forall₂ kind items values

/-- The value when the given setting, if any, is what is said: what it says, or the default. -/
def Settled (kind : Setting → α → Prop) (default : α) (said : Option Setting) (value : α) : Prop :=
  match said with
  | some setting => kind setting value
  | none => value = default

theorem IsText.isPlain {setting : Setting} {value : String} (h : setting.IsText value) :
    setting.IsPlain := by
  obtain ⟨source, rfl⟩ := h
  nofun

theorem IsPath.isPlain {setting : Setting} {value : Path} (h : setting.IsPath value) :
    setting.IsPlain := by
  obtain ⟨text, htext, -⟩ := h
  exact htext.isPlain

theorem IsFlag.isPlain {setting : Setting} {value : Bool} (h : setting.IsFlag value) :
    setting.IsPlain := by
  obtain ⟨source, rfl⟩ := h
  nofun

theorem IsList.isPlain {kind : Setting → α → Prop} {setting : Setting} {values : List α}
    (h : setting.IsList kind values) : setting.IsPlain := by
  obtain ⟨source, items, rfl, -⟩ := h
  nofun

end Setting

/-! ### Decoding -/

namespace Decoder

variable {α σ : Type}

theorem text_eq_ok (setting : Setting) (value : String) (h : setting.IsText value)
    (key : SettingKey) : text key setting = .ok value := by
  obtain ⟨source, rfl⟩ := h
  rfl

theorem path_eq_ok (setting : Setting) (value : Path) (h : setting.IsPath value)
    (key : SettingKey) : path key setting = .ok value := by
  obtain ⟨text, ⟨source, rfl⟩, rfl⟩ := h
  rfl

theorem flag_eq_ok (setting : Setting) (value : Bool) (h : setting.IsFlag value)
    (key : SettingKey) : flag key setting = .ok value := by
  obtain ⟨source, rfl⟩ := h
  rfl

theorem items_eq_ok {kind : Setting → α → Prop} {item : Decoder α}
    (hitem : ∀ setting value, kind setting value → ∀ key, item key setting = .ok value)
    {settings : List Setting} {values : List α} (h : List.Forall₂ kind settings values)
    (key : SettingKey) (position : Nat) : items item key position settings = .ok values := by
  induction h generalizing position with
  | nil => rfl
  | cons hfirst _ ih => rw [items, hitem _ _ hfirst, ih]

theorem list_eq_ok {kind : Setting → α → Prop} {item : Decoder α}
    (hitem : ∀ setting value, kind setting value → ∀ key, item key setting = .ok value)
    (setting : Setting) (values : List α) (h : setting.IsList kind values) (key : SettingKey) :
    list item key setting = .ok values := by
  obtain ⟨source, settings, rfl, hsettings⟩ := h
  exact items_eq_ok hitem hsettings key 0

/-- What a field makes of a record: nothing if it is not set, and else what the decoded value put
into the record is. -/
def Gives (entries : Setting.Entries) (name : String) (decoder : Decoder α) (put : σ → α → σ)
    (record after : σ) : Prop :=
  (entries.lookup name = none ∧ after = record) ∨
    ∃ setting value, entries.lookup name = some setting ∧
      (∀ key, decoder key setting = .ok value) ∧ after = put record value

/-- One field after the other. -/
theorem named_field {entries : Setting.Entries} {name : String} {decoder : Decoder α}
    {put : σ → α → σ} {record : σ} (after : σ) (h : Gives entries name decoder put record after)
    (key : SettingKey) (fields : List (Field σ)) :
    named key entries (field name decoder put :: fields) record = named key entries fields after := by
  rw [named]
  obtain ⟨hnone, rfl⟩ | ⟨setting, value, hsome, hdecode, rfl⟩ := h
  · rw [show (field name decoder put).name = name from rfl, hnone]
  · rw [show (field name decoder put).name = name from rfl, hsome]
    unfold field
    dsimp only
    rw [hdecode]

section Settled

variable {kind : Setting → α → Prop} {decoder : Decoder α} {entries : Setting.Entries} {name : String}

/-- A field whose default stands in the record already. -/
theorem gives (put : σ → α → σ) (record : σ) {value default : α}
    (hdecoder : ∀ setting value, kind setting value → ∀ key, decoder key setting = .ok value)
    (h : Setting.Settled kind default (entries.lookup name) value)
    (hdefault : put record default = record) :
    Gives entries name decoder put record (put record value) := by
  unfold Setting.Settled at h
  cases hlookup : entries.lookup name with
  | none =>
    rw [hlookup] at h
    obtain rfl : value = default := h
    exact .inl ⟨hlookup, hdefault⟩
  | some setting =>
    rw [hlookup] at h
    exact .inr ⟨setting, value, hlookup, hdecoder setting value h, rfl⟩

/-- A field that is missing by default. -/
theorem gives_option (put : σ → Option α → σ) (record : σ) {value : Option α}
    (hdecoder : ∀ setting value, kind setting value → ∀ key, decoder key setting = .ok value)
    (h : Setting.Settled (fun setting value => ∃ found, kind setting found ∧ value = some found) none
      (entries.lookup name) value)
    (hdefault : put record none = record) :
    Gives entries name decoder (fun record found => put record (some found)) record
      (put record value) := by
  unfold Setting.Settled at h
  cases hlookup : entries.lookup name with
  | none =>
    rw [hlookup] at h
    obtain rfl : value = none := h
    exact .inl ⟨hlookup, hdefault⟩
  | some setting =>
    rw [hlookup] at h
    obtain ⟨found, hfound, rfl⟩ := h
    exact .inr ⟨setting, found, hlookup, hdecoder setting found hfound, rfl⟩

end Settled

end Decoder

/-! ### Leaves -/

/-- The values that a configuration is made of. -/
inductive Leaf where
  | output
  | resources
  | packages
  | classpathEntries
  | classpathFile
  | classpathVariable
  | getters
  | updaters
  | extension
  | plugin
  deriving Repr, DecidableEq

namespace Leaf

/-- The names that lead to the leaf. -/
def path : Leaf → List String
  | output => ["output_directory"]
  | resources => ["resources_directory"]
  | packages => ["packages"]
  | classpathEntries => ["classpath", "entries"]
  | classpathFile => ["classpath", "file"]
  | classpathVariable => ["classpath", "env"]
  | getters => ["generation", "generate_getters"]
  | updaters => ["generation", "generate_updaters"]
  | extension => ["generation", "source_extension"]
  | plugin => ["generator", "command"]

/-- The values of the leaf. -/
abbrev Value : Leaf → Type
  | output => Path
  | resources => Path
  | packages => List String
  | classpathEntries => List Path
  | classpathFile => Option Path
  | classpathVariable => Option String
  | getters => Bool
  | updaters => Bool
  | extension => String
  | plugin => List String

/-- The leaf of a configuration. -/
def get : (leaf : Leaf) → Config → leaf.Value
  | output, config => config.output
  | resources, config => config.resources
  | packages, config => config.packages
  | classpathEntries, config => config.classpath.entries
  | classpathFile, config => config.classpath.file
  | classpathVariable, config => config.classpath.variableName
  | getters, config => config.generation.options.getters
  | updaters, config => config.generation.options.updaters
  | extension, config => config.generation.extension
  | plugin, config => config.plugin

/-- The setting is of the kind that the leaf needs, and says this value. -/
def Says : (leaf : Leaf) → Setting → leaf.Value → Prop
  | output, setting, value => setting.IsPath value
  | resources, setting, value => setting.IsPath value
  | packages, setting, value => setting.IsList Setting.IsText value
  | classpathEntries, setting, value => setting.IsList Setting.IsPath value
  | classpathFile, setting, value => ∃ file, setting.IsPath file ∧ value = some file
  | classpathVariable, setting, value => ∃ name, setting.IsText name ∧ value = some name
  | getters, setting, value => setting.IsFlag value
  | updaters, setting, value => setting.IsFlag value
  | extension, setting, value => setting.IsText value
  | plugin, setting, value => setting.IsList Setting.IsText value

theorem Says.isPlain {leaf : Leaf} {setting : Setting} {value : leaf.Value}
    (h : leaf.Says setting value) : setting.IsPlain := by
  cases leaf with
  | output => exact Setting.IsPath.isPlain h
  | resources => exact Setting.IsPath.isPlain h
  | packages => exact Setting.IsList.isPlain h
  | classpathEntries => exact Setting.IsList.isPlain h
  | classpathFile =>
    obtain ⟨_, hfile, -⟩ := h
    exact hfile.isPlain
  | classpathVariable =>
    obtain ⟨_, hname, -⟩ := h
    exact hname.isPlain
  | getters => exact Setting.IsFlag.isPlain h
  | updaters => exact Setting.IsFlag.isPlain h
  | extension => exact Setting.IsText.isPlain h
  | plugin => exact Setting.IsList.isPlain h

/-- A setting says one value only: it is the one that is decoded. -/
theorem Says.unique {leaf : Leaf} {setting : Setting} {first second : leaf.Value}
    (hfirst : leaf.Says setting first) (hsecond : leaf.Says setting second) : first = second := by
  -- both are what is decoded, and a decoder gives one value
  have decoded : ∀ {α : Type} {kind : Setting → α → Prop} {decoder : Decoder α} {first second : α},
      (∀ setting value, kind setting value → ∀ key, decoder key setting = .ok value) →
      kind setting first → kind setting second → first = second := by
    intro α kind decoder first second hdecoder hfirst hsecond
    have hboth := (hdecoder setting first hfirst []).symm.trans (hdecoder setting second hsecond [])
    exact Except.ok.inj hboth
  cases leaf with
  | output => exact decoded Decoder.path_eq_ok hfirst hsecond
  | resources => exact decoded Decoder.path_eq_ok hfirst hsecond
  | packages => exact decoded (Decoder.list_eq_ok Decoder.text_eq_ok) hfirst hsecond
  | classpathEntries => exact decoded (Decoder.list_eq_ok Decoder.path_eq_ok) hfirst hsecond
  | classpathFile =>
    obtain ⟨_, hfirst, rfl⟩ := hfirst
    obtain ⟨_, hsecond, rfl⟩ := hsecond
    exact congrArg some (decoded Decoder.path_eq_ok hfirst hsecond)
  | classpathVariable =>
    obtain ⟨_, hfirst, rfl⟩ := hfirst
    obtain ⟨_, hsecond, rfl⟩ := hsecond
    exact congrArg some (decoded Decoder.text_eq_ok hfirst hsecond)
  | getters => exact decoded Decoder.flag_eq_ok hfirst hsecond
  | updaters => exact decoded Decoder.flag_eq_ok hfirst hsecond
  | extension => exact decoded Decoder.text_eq_ok hfirst hsecond
  | plugin => exact decoded (Decoder.list_eq_ok Decoder.text_eq_ok) hfirst hsecond

/-- The value of the leaf when the given setting, if any, is what is said about it. -/
def Settles (leaf : Leaf) (said : Option Setting) (value : leaf.Value) : Prop :=
  Setting.Settled leaf.Says (leaf.get {}) said value

/-- The configuration with these leaves. -/
def toConfig (value : (leaf : Leaf) → leaf.Value) : Config where
  output := value output
  resources := value resources
  packages := value packages
  classpath := ⟨value classpathEntries, value classpathFile, value classpathVariable⟩
  generation := ⟨⟨value getters, value updaters⟩, value extension⟩
  plugin := value plugin

@[simp] theorem get_toConfig (leaf : Leaf) (value : (leaf : Leaf) → leaf.Value) :
    leaf.get (toConfig value) = value leaf := by
  cases leaf <;> rfl

end Leaf

/-! ### The configuration of settings -/

section OfSettings

open Decoder Setting

/-- What a table has below a name: the entries of the table there, or nothing. -/
def Setting.within (entries : Entries) (name : String) : Entries :=
  match entries.lookup name with
  | some (.table _ inside) => inside
  | _ => []

variable {entries : Entries} {value : (leaf : Leaf) → leaf.Value}

theorem Setting.at?_pair (entries : Entries) (name next : String) :
    at? entries [name, next] = (within entries name).lookup next := by
  unfold at? within
  cases entries.lookup name with
  | none => rfl
  | some setting => cases setting <;> rfl

theorem Decoder.named_nil {σ : Type} (key : SettingKey) (fields : List (Field σ)) (record : σ) :
    named key [] fields record = .ok record := by
  induction fields with
  | nil => rfl
  | cons field fields ih =>
    rw [named]
    exact ih

/-- A section that is a table, if it is there, gives what its fields make. -/
theorem Decoder.gives_section {σ τ : Type} {name next : String} (called : String)
    {fields : List (Field τ)} (positions : List (Field τ)) {start made : τ} (put : σ → τ → σ)
    (record : σ)
    (hopen : Open entries [name, next])
    (hmade : ∀ key, named key (within entries name) fields start = .ok made)
    (hdefault : put record start = record) :
    Gives entries name (.record called fields positions start) put record (put record made) := by
  unfold within at hmade
  cases hsection : entries.lookup name with
  | none =>
    simp only [hsection, named_nil] at hmade
    obtain rfl := Except.ok.inj (hmade [])
    exact .inl ⟨hsection, hdefault⟩
  | some setting =>
    obtain ⟨source, inside, rfl, -⟩ := hopen.2 setting hsection
    simp only [hsection] at hmade
    exact .inr ⟨_, made, hsection, hmade, rfl⟩

theorem named_classpath (h : ∀ leaf : Leaf, leaf.Settles (at? entries leaf.path) (value leaf))
    (key : SettingKey) :
    named key (within entries "classpath")
      [ClasspathConfig.entriesField, ClasspathConfig.variableField, ClasspathConfig.fileField] {}
      = .ok (Leaf.toConfig value).classpath := by
  have hentries : Leaf.classpathEntries.Settles (at? entries ["classpath", "entries"]) _ := h _
  have hvariable : Leaf.classpathVariable.Settles (at? entries ["classpath", "env"]) _ := h _
  have hfile : Leaf.classpathFile.Settles (at? entries ["classpath", "file"]) _ := h _
  rw [at?_pair] at hentries hvariable hfile
  have hone := gives (fun (record : ClasspathConfig) entries => { record with entries }) {}
    (list_eq_ok path_eq_ok) hentries rfl
  have htwo := gives_option (fun (record : ClasspathConfig) name => { record with variableName := name })
    ⟨value .classpathEntries, none, none⟩ text_eq_ok hvariable rfl
  have hthree := gives_option (fun (record : ClasspathConfig) file => { record with file })
    ⟨value .classpathEntries, none, value .classpathVariable⟩ path_eq_ok hfile rfl
  calc named key (within entries "classpath")
        [ClasspathConfig.entriesField, ClasspathConfig.variableField, ClasspathConfig.fileField] {}
      = named key _ [ClasspathConfig.variableField, ClasspathConfig.fileField] _ :=
        named_field _ hone key _
    _ = named key _ [ClasspathConfig.fileField] _ := named_field _ htwo key _
    _ = named key _ [] _ := named_field _ hthree key _
    _ = .ok (Leaf.toConfig value).classpath := rfl

theorem named_generation (h : ∀ leaf : Leaf, leaf.Settles (at? entries leaf.path) (value leaf))
    (key : SettingKey) :
    named key (within entries "generation") GenerationConfig.settings {}
      = .ok (Leaf.toConfig value).generation := by
  have hgetters : Leaf.getters.Settles (at? entries ["generation", "generate_getters"]) _ := h _
  have hupdaters : Leaf.updaters.Settles (at? entries ["generation", "generate_updaters"]) _ := h _
  have hextension : Leaf.extension.Settles (at? entries ["generation", "source_extension"]) _ := h _
  rw [at?_pair] at hgetters hupdaters hextension
  have hone := gives (fun (record : GenerationConfig) getters =>
    { record with options := { record.options with getters } }) {} flag_eq_ok hgetters rfl
  have htwo := gives (fun (record : GenerationConfig) updaters =>
    { record with options := { record.options with updaters } })
    { options := { getters := value .getters } } flag_eq_ok hupdaters rfl
  have hthree := gives (fun (record : GenerationConfig) extension => { record with extension })
    { options := ⟨value .getters, value .updaters⟩ } text_eq_ok hextension rfl
  calc named key (within entries "generation") GenerationConfig.settings {}
      = named key _ GenerationConfig.settings.tail _ := named_field _ hone key _
    _ = named key _ GenerationConfig.settings.tail.tail _ := named_field _ htwo key _
    _ = named key _ [] _ := named_field _ hthree key _
    _ = .ok (Leaf.toConfig value).generation := rfl

theorem named_plugin (h : ∀ leaf : Leaf, leaf.Settles (at? entries leaf.path) (value leaf))
    (key : SettingKey) :
    named key (within entries "generator") Config.pluginSettings []
      = .ok (Leaf.toConfig value).plugin := by
  have hplugin : Leaf.plugin.Settles (at? entries ["generator", "command"]) _ := h _
  rw [at?_pair] at hplugin
  have hone := gives (fun (_ : List String) command => command) [] (list_eq_ok text_eq_ok) hplugin rfl
  exact named_field _ hone key []

/-- **The configuration of settings**, leaf by leaf: if all paths of leaves are open, and what is said
at their ends is of the right kind, then every leaf has the value that is said, or its default. -/
theorem Config.ofSettings_eq_ok (hopen : ∀ leaf : Leaf, Open entries leaf.path)
    (h : ∀ leaf : Leaf, leaf.Settles (at? entries leaf.path) (value leaf)) :
    Config.ofSettings entries = .ok (Leaf.toConfig value) := by
  have houtput : Leaf.output.Settles (entries.lookup "output_directory") _ := h _
  have hpackages : Leaf.packages.Settles (entries.lookup "packages") _ := h _
  have hresources : Leaf.resources.Settles (entries.lookup "resources_directory") _ := h _
  let made := Leaf.toConfig value
  -- the fields in the order of their names, each on top of the record that the ones before it made
  have hone := gives_section "ClasspathConfig"
    [ClasspathConfig.entriesField, ClasspathConfig.fileField, ClasspathConfig.variableField]
    (fun (config : Config) classpath => { config with classpath }) {} (hopen .classpathEntries)
    (named_classpath h) rfl
  have htwo := gives_section "GenerationConfig" GenerationConfig.settings
    (fun (config : Config) generation => { config with generation })
    { classpath := made.classpath } (hopen .getters) (named_generation h) rfl
  have hthree := gives_section "GeneratorConfig" pluginSettings
    (fun (config : Config) plugin => { config with plugin })
    { classpath := made.classpath, generation := made.generation } (hopen .plugin) (named_plugin h) rfl
  have hfour := gives (fun (config : Config) output => { config with output })
    { classpath := made.classpath, generation := made.generation, plugin := made.plugin }
    path_eq_ok houtput rfl
  have hfive := gives (fun (config : Config) packages => { config with packages })
    { classpath := made.classpath, generation := made.generation, plugin := made.plugin,
      output := made.output } (list_eq_ok text_eq_ok) hpackages rfl
  have hsix := gives (fun (config : Config) resources => { config with resources })
    { classpath := made.classpath, generation := made.generation, plugin := made.plugin,
      output := made.output, packages := made.packages } path_eq_ok hresources rfl
  have hmade : named [] entries settings {} = .ok made := by
    calc named [] entries settings {}
        = named [] entries settings.tail _ := named_field _ hone [] _
      _ = named [] entries (settings.drop 2) _ := named_field _ htwo [] _
      _ = named [] entries (settings.drop 3) _ := named_field _ hthree [] _
      _ = named [] entries (settings.drop 4) _ := named_field _ hfour [] _
      _ = named [] entries (settings.drop 5) _ := named_field _ hfive [] _
      _ = named [] entries [] _ := named_field _ hsix [] _
      _ = .ok made := rfl
  rw [ofSettings, hmade]

end OfSettings

end SchemaBuild
