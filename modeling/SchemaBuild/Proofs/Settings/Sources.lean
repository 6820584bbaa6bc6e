import SchemaBuild.Config.Layers

/-!
# Where settings were found

Every setting knows the layer that it was found in, and a file is shown there as it is seen from the
working directory. That is for messages only: a configuration is the same whatever the sources of its
settings say. Settings without their sources (`Setting.unsourced`) are merged and decoded like those with
them, and only a complaint tells them apart.

* `Setting.unsourced_merge`, `Layer.mergeOnto_unsourced` — merging;
* `Decoder.Blind` — a decoder that takes the same values from both, with `Decoder.Blind.record` and
  the like for the parts of decoders;
* `Layer.toConfig_unsourced` — so the configuration of layers does not depend on sources.
-/

namespace SchemaBuild

/-! ### Results that agree -/

/-- Two results that agree on their values are failures both, or both the same value. -/
theorem cases_of_toOption_eq {ε α : Type} {first second : Except ε α}
    (h : first.toOption = second.toOption) :
    (∃ complaint other, first = .error complaint ∧ second = .error other) ∨
      ∃ value, first = .ok value ∧ second = .ok value := by
  cases first with
  | error complaint =>
    cases second with
    | error other => exact .inl ⟨complaint, other, rfl, rfl⟩
    | ok value => cases h
  | ok value =>
    cases second with
    | error other => cases h
    | ok same => exact .inr ⟨value, rfl, congrArg Except.ok (Option.some.inj h).symm⟩

/-- Two results that a function makes equal are the same failure, or values that it makes equal. -/
theorem cases_of_map_eq {ε α β : Type} {f : α → β} {first second : Except ε α}
    (h : first.map f = second.map f) :
    (∃ error, first = .error error ∧ second = .error error) ∨
      ∃ a b, first = .ok a ∧ second = .ok b ∧ f a = f b := by
  cases first with
  | error error =>
    cases second with
    | error other => exact .inl ⟨error, rfl, congrArg Except.error (Except.error.inj h).symm⟩
    | ok b => cases h
  | ok a =>
    cases second with
    | error error => cases h
    | ok b => exact .inr ⟨a, b, rfl, rfl, Except.ok.inj h⟩

namespace Setting

/-! ### Settings without sources -/

mutual

/-- The setting with one source for all its parts. -/
def unsourced : Setting → Setting
  | .text _ value => .text .commandLine value
  | .flag _ value => .flag .commandLine value
  | .signed _ value => .signed .commandLine value
  | .unsigned _ value => .unsigned .commandLine value
  | .float _ value => .float .commandLine value
  | .list _ items => .list .commandLine (unsourcedItems items)
  | .table _ entries => .table .commandLine (unsourcedEntries entries)

/-- The items with one source for all. -/
def unsourcedItems : List Setting → List Setting
  | [] => []
  | item :: items => item.unsourced :: unsourcedItems items

/-- The entries with one source for all. -/
def unsourcedEntries : Entries → Entries
  | [] => []
  | (name, setting) :: entries => (name, setting.unsourced) :: unsourcedEntries entries

end

theorem lookup_unsourcedEntries (entries : Entries) (name : String) :
    (unsourcedEntries entries).lookup name = (entries.lookup name).map unsourced := by
  induction entries with
  | nil => rfl
  | cons entry entries ih =>
    obtain ⟨first, setting⟩ := entry
    rw [unsourcedEntries, Table.lookup_cons_eq, Table.lookup_cons_eq, ih]
    split <;> rfl

theorem unsourcedEntries_set (entries : Entries) (name : String) (setting : Setting) :
    unsourcedEntries (Table.set entries name setting)
      = Table.set (unsourcedEntries entries) name setting.unsourced := by
  induction entries with
  | nil => rfl
  | cons entry entries ih =>
    obtain ⟨first, old⟩ := entry
    rw [Table.set, unsourcedEntries, Table.set]
    split
    · -- the first setting is the one that is replaced
      rfl
    · -- the first setting stays, and one of the others is replaced
      rw [unsourcedEntries, ih]

mutual

/-- **Settings are merged** without their sources as they are with them. -/
theorem unsourced_merge : (lower upper : Setting) →
    (merge lower upper).unsourced = merge lower.unsourced upper.unsourced
  | .table _ lower, .table _ upper => by
    show Setting.table _ (unsourcedEntries (mergeEntries lower upper)) = _
    rw [unsourcedEntries_mergeEntries lower upper]
    rfl
  | .text .., .table .. => rfl
  | .flag .., .table .. => rfl
  | .signed .., .table .. => rfl
  | .unsigned .., .table .. => rfl
  | .float .., .table .. => rfl
  | .list .., .table .. => rfl
  | _, .text .. => rfl
  | _, .flag .. => rfl
  | _, .signed .. => rfl
  | _, .unsigned .. => rfl
  | _, .float .. => rfl
  | _, .list .. => rfl

/-- **Tables are merged** without their sources as they are with them. -/
theorem unsourcedEntries_mergeEntries : (lower upper : Entries) →
    unsourcedEntries (mergeEntries lower upper)
      = mergeEntries (unsourcedEntries lower) (unsourcedEntries upper)
  | lower, [] => rfl
  | lower, (name, upper) :: rest => by
    -- this recursion takes an entry off, and the one on settings goes into what it stands for
    rw [mergeEntries, unsourcedEntries_mergeEntries _ rest, unsourcedEntries_set, unsourcedEntries,
      mergeEntries, lookup_unsourcedEntries]
    cases lower.lookup name with
    | none => rfl
    | some found =>
      dsimp only [Option.map_some]
      rw [unsourced_merge found upper]

end

end Setting

/-! ### Decoding -/

namespace Decoder

variable {α β σ : Type}

/-- The decoder takes the same values from settings without their sources. -/
def Blind (decoder : Decoder α) : Prop :=
  ∀ key setting, (decoder key setting.unsourced).toOption = (decoder key setting).toOption

/-- The field takes the same values from settings without their sources. -/
def Field.Blind (field : Field σ) : Prop :=
  ∀ key setting record,
    (field.decode key setting.unsourced record).toOption = (field.decode key setting record).toOption

theorem text_blind : Blind text := by
  intro key setting
  cases setting <;> rfl

theorem path_blind : Blind path := by
  intro key setting
  cases setting <;> rfl

theorem flag_blind : Blind flag := by
  intro key setting
  cases setting <;> rfl

theorem items_blind {item : Decoder α} (h : item.Blind) (key : SettingKey) (position : Nat)
    (settings : List Setting) :
    (items item key position (Setting.unsourcedItems settings)).toOption
      = (items item key position settings).toOption := by
  -- complaints may differ, so both runs are compared by their values at each step
  induction settings generalizing position with
  | nil => rfl
  | cons setting settings ih =>
    rw [Setting.unsourcedItems, items, items]
    obtain ⟨_, _, hfirst, hsecond⟩ | ⟨value, hfirst, hsecond⟩ :=
      cases_of_toOption_eq (h (key ++ [toString position]) setting)
    · -- the first item fits in neither run
      rw [hfirst, hsecond]
      rfl
    · -- the first item fits in both, with one value
      rw [hfirst, hsecond]
      dsimp only
      obtain ⟨_, _, hrest, hother⟩ | ⟨values, hrest, hother⟩ := cases_of_toOption_eq (ih (position + 1))
      · -- a later item does not fit
        rw [hrest, hother]
        rfl
      · -- all later items fit
        rw [hrest, hother]

theorem Blind.list {item : Decoder α} (h : item.Blind) : Blind (list item) := by
  intro key setting
  cases setting with
  | list source settings => exact items_blind h key 0 settings
  | _ => rfl

theorem Blind.field {decoder : Decoder α} (h : decoder.Blind) (name : String) (put : σ → α → σ) :
    (Decoder.field name decoder put).Blind := by
  intro key setting record
  unfold Decoder.field
  dsimp only
  obtain ⟨_, _, hfirst, hsecond⟩ | ⟨value, hfirst, hsecond⟩ := cases_of_toOption_eq (h key setting)
  · -- the value fits in neither run
    rw [hfirst, hsecond]
    rfl
  · -- the value fits in both
    rw [hfirst, hsecond]

theorem named_blind {fields : List (Field σ)} (h : ∀ field ∈ fields, field.Blind) (key : SettingKey)
    (entries : Setting.Entries) (record : σ) :
    (named key (Setting.unsourcedEntries entries) fields record).toOption
      = (named key entries fields record).toOption := by
  induction fields generalizing record with
  | nil => rfl
  | cons field fields ih =>
    obtain ⟨hfield, hfields⟩ := List.forall_mem_cons.mp h
    rw [named, named, Setting.lookup_unsourcedEntries]
    cases entries.lookup field.name with
    | none =>
      -- nothing stands for the field
      exact ih hfields record
    | some setting =>
      -- the record behind this field is the same for both, and the other fields go on with it
      dsimp only [Option.map_some]
      obtain ⟨_, _, hfirst, hsecond⟩ | ⟨value, hfirst, hsecond⟩ :=
        cases_of_toOption_eq (hfield (key ++ [field.name]) setting record)
      · -- the field fits in neither run
        rw [hfirst, hsecond]
        rfl
      · -- the field fits in both
        rw [hfirst, hsecond]
        exact ih hfields value

theorem positional_blind {fields : List (Field σ)} (h : ∀ field ∈ fields, field.Blind)
    (key : SettingKey) (position : Nat) (settings : List Setting) (record : σ) :
    (positional key position fields (Setting.unsourcedItems settings) record).toOption
      = (positional key position fields settings record).toOption := by
  induction fields generalizing position settings record with
  | nil => rfl
  | cons field fields ih =>
    obtain ⟨hfield, hfields⟩ := List.forall_mem_cons.mp h
    cases settings with
    | nil => rfl
    | cons setting settings =>
      rw [Setting.unsourcedItems, positional, positional]
      obtain ⟨_, _, hfirst, hsecond⟩ | ⟨value, hfirst, hsecond⟩ :=
        cases_of_toOption_eq (hfield (key ++ [toString position]) setting record)
      · -- the field fits in neither run
        rw [hfirst, hsecond]
        rfl
      · -- the field fits in both
        rw [hfirst, hsecond]
        exact ih hfields (position + 1) settings value

theorem record_blind (called : String) {fields positions : List (Field σ)}
    (hfields : ∀ field ∈ fields, field.Blind) (hpositions : ∀ field ∈ positions, field.Blind)
    (start : σ) : Blind (record called fields positions start) := by
  intro key setting
  cases setting with
  | table source entries =>
    -- a table is read by names
    exact named_blind hfields key entries start
  | list source settings =>
    -- a list is read by positions
    exact positional_blind hpositions key 0 settings start
  | _ => rfl

end Decoder

theorem ClasspathConfig.decode_blind : Decoder.Blind ClasspathConfig.decode := by
  have hentries : entriesField.Blind := Decoder.path_blind.list.field _ _
  have hfile : fileField.Blind := Decoder.path_blind.field _ _
  have hvariable : variableField.Blind := Decoder.text_blind.field _ _
  refine Decoder.record_blind _ ?_ ?_ _
  · -- the fields by their names
    simp only [List.forall_mem_cons]
    exact ⟨hentries, hvariable, hfile, nofun⟩
  · -- the fields by their positions
    simp only [List.forall_mem_cons]
    exact ⟨hentries, hfile, hvariable, nofun⟩

theorem GenerationConfig.decode_blind : Decoder.Blind GenerationConfig.decode := by
  have hsettings : ∀ field ∈ settings, field.Blind := by
    simp only [settings, List.forall_mem_cons]
    exact ⟨Decoder.flag_blind.field _ _, Decoder.flag_blind.field _ _, Decoder.text_blind.field _ _,
      nofun⟩
  exact Decoder.record_blind _ hsettings hsettings _

/-- All parts of a configuration are decoded without a look at sources. -/
theorem Config.settings_blind : ∀ field ∈ Config.settings, field.Blind := by
  have hplugin : ∀ field ∈ pluginSettings, field.Blind := by
    simp only [pluginSettings, List.forall_mem_cons]
    exact ⟨Decoder.text_blind.list.field _ _, nofun⟩
  simp only [settings, List.forall_mem_cons]
  exact ⟨ClasspathConfig.decode_blind.field _ _, GenerationConfig.decode_blind.field _ _,
    (Decoder.record_blind _ hplugin hplugin _).field _ _, Decoder.path_blind.field _ _,
    Decoder.text_blind.list.field _ _, Decoder.path_blind.field _ _, nofun⟩

theorem Config.ofSettings_unsourced (entries : Setting.Entries) :
    (Config.ofSettings (Setting.unsourcedEntries entries)).toOption
      = (Config.ofSettings entries).toOption := by
  unfold Config.ofSettings
  obtain ⟨_, _, hfirst, hsecond⟩ | ⟨config, hfirst, hsecond⟩ :=
    cases_of_toOption_eq (Decoder.named_blind Config.settings_blind [] entries {})
  · rw [hfirst, hsecond]
    rfl
  · rw [hfirst, hsecond]

/-! ### Layers -/

namespace Layer

/-- The layer with one source for all its settings. -/
def unsourced (layer : Layer) : Layer := layer.map Setting.unsourcedEntries

theorem mergeOnto_unsourced (entries : Setting.Entries) (layers : List Layer) :
    mergeOnto (Setting.unsourcedEntries entries) (layers.map unsourced)
      = (mergeOnto entries layers).unsourced := by
  -- a broken layer is the result with and without sources; any other one is merged and stays below
  induction layers generalizing entries with
  | nil => rfl
  | cons layer layers ih =>
    cases layer with
    | error error =>
      -- a broken layer is what comes out
      rfl
    | ok layer =>
      show mergeOnto (Setting.mergeEntries (Setting.unsourcedEntries entries)
        (Setting.unsourcedEntries layer)) (layers.map unsourced) = _
      rw [← Setting.unsourcedEntries_mergeEntries, ih]
      rfl

/-- **The configuration of layers** does not depend on where their settings were found. -/
theorem toConfig_unsourced (layers : List Layer) :
    (toConfig (layers.map unsourced)).toOption = (toConfig layers).toOption := by
  have hmerged := mergeOnto_unsourced [] layers
  unfold toConfig
  rw [show mergeOnto [] (layers.map unsourced) = _ from hmerged]
  cases mergeOnto [] layers with
  | error error =>
    -- a layer is broken
    rfl
  | ok entries =>
    -- the configuration is that of the merged settings
    exact Config.ofSettings_unsourced entries

/-- Layers that are alike but for their sources make the same configuration. -/
theorem toConfig_congr {first second : List Layer}
    (h : first.map unsourced = second.map unsourced) :
    (toConfig first).toOption = (toConfig second).toOption := by
  rw [← toConfig_unsourced first, h, toConfig_unsourced]

end Layer

/-! ### Files -/

mutual

theorem Toml.unsourced_toSetting (source : SettingSource) : (value : Toml.Value) →
    (value.toSetting source).unsourced = value.toSetting .commandLine
  | .text _ => rfl
  | .integer _ => rfl
  | .float _ => rfl
  | .boolean _ => rfl
  | .time _ => rfl
  | .list items => by
    show Setting.list _ (Setting.unsourcedItems (Toml.itemSettings source items)) = _
    rw [Toml.unsourcedItems_itemSettings source items]
    rfl
  | .table fields => by
    show Setting.table _ (Setting.unsourcedEntries (Toml.fieldSettings source fields)) = _
    rw [Toml.unsourcedEntries_fieldSettings source fields]
    rfl

theorem Toml.unsourcedItems_itemSettings (source : SettingSource) : (items : List Toml.Value) →
    Setting.unsourcedItems (Toml.itemSettings source items) = Toml.itemSettings .commandLine items
  | [] => rfl
  | item :: items => by
    rw [Toml.itemSettings, Setting.unsourcedItems, Toml.unsourced_toSetting source item,
      Toml.unsourcedItems_itemSettings source items, Toml.itemSettings]

/-- The settings of a file are the same but for their source, however the file is shown. -/
theorem Toml.unsourcedEntries_fieldSettings (source : SettingSource) :
    (fields : List (String × Toml.Value)) →
    Setting.unsourcedEntries (Toml.fieldSettings source fields)
      = Toml.fieldSettings .commandLine fields
  | [] => rfl
  | (name, value) :: fields => by
    rw [Toml.fieldSettings, Setting.unsourcedEntries, Toml.unsourced_toSetting source value,
      Toml.unsourcedEntries_fieldSettings source fields, Toml.fieldSettings]

end

end SchemaBuild
