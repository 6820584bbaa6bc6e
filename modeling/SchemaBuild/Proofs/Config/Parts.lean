import SchemaBuild.Proofs.Config.Precedence

/-!
# The parts of a configuration

A configuration is made of six parts, each read from what the merged layers have for one name. What a
layer says about other names makes no difference to a part, so two command lines that agree on a part
have it in common, however they differ in the rest.

* `Layer.mergeOnto_eq_ok_iff` — layers can be merged exactly if all of them are in order;
* `Setting.lookup_leaves` — for one name only the layers of leaves below it count;
* `Config.ofSettings_eq_ok_iff` — the configuration of settings, part by part;
* `Config.part_of_agreement` — parts of two configurations over the same layers;
* `Config.configured_of_unsaid` — a part that the command line says nothing about.
-/

namespace SchemaBuild

open Setting

/-! ### Merging, name by name -/

namespace Setting

/-- What a name stands for is told by what it stands for in both layers. -/
theorem lookup_mergeEntries_congr {lower other : Entries} {name : String}
    (h : lower.lookup name = other.lookup name) (upper : Entries) :
    (mergeEntries lower upper).lookup name = (mergeEntries other upper).lookup name := by
  -- the entries of the upper layer are put in one by one, and each keeps the agreement of the two
  induction upper generalizing lower other with
  | nil => exact h
  | cons entry upper ih =>
    obtain ⟨key, setting⟩ := entry
    rw [mergeEntries, mergeEntries]
    apply ih
    rw [Table.lookup_set, Table.lookup_set]
    by_cases hkey : name = key
    · -- the name is the one that is set
      subst hkey
      rw [h]
    · -- another name is set
      rw [if_neg (by simpa using hkey), if_neg (by simpa using hkey), h]

/-- A leaf below another name has no say about a name. -/
theorem lookup_layer_of_ne {leaf : Leaf} {name : String} (h : leaf.path.head? ≠ some name)
    (setting : Setting) : (leaf.layer setting).lookup name = none := by
  unfold Leaf.layer
  split
  · next first path hpath =>
    -- the layer has one name, which is another one
    have hne : name ≠ first := by
      rintro rfl
      rw [hpath] at h
      exact h rfl
    rw [Table.lookup_cons_eq, if_neg (by simpa using hne)]
    rfl
  · -- the layer is empty
    rfl

/-- **For one name only the leaves below it count**: two lots of layers, each for one leaf, that agree
on these give the name the same meaning on top of layers that do. -/
theorem lookup_leaves {leaves : List Leaf} {first second : Leaf → Option Setting} {name : String}
    (hagree : ∀ leaf ∈ leaves, leaf.path.head? = some name → first leaf = second leaf)
    {lower other : Entries} (h : lower.lookup name = other.lookup name) :
    ((leaves.flatMap fun leaf => ((first leaf).map leaf.layer).toList).foldl mergeEntries
        lower).lookup name
      = ((leaves.flatMap fun leaf => ((second leaf).map leaf.layer).toList).foldl mergeEntries
        other).lookup name := by
  -- the layers are folded from below, and that the name means the same so far is the invariant
  induction leaves generalizing lower other with
  | nil => exact h
  | cons leaf leaves ih =>
    rw [List.flatMap_cons, List.flatMap_cons, List.foldl_append, List.foldl_append]
    refine ih (fun later hmem => hagree later (List.mem_cons_of_mem leaf hmem)) ?_
    by_cases hbelow : leaf.path.head? = some name
    · -- here both say the same, or both nothing
      rw [hagree leaf List.mem_cons_self hbelow]
      cases second leaf with
      | none => exact h
      | some setting => exact lookup_mergeEntries_congr h _
    · -- whatever the layer is, the name keeps its meaning
      have hkeeps : ∀ (said : Option Setting) (entries : Entries),
          ((said.map leaf.layer).toList.foldl mergeEntries entries).lookup name
            = entries.lookup name := by
        intro said entries
        cases said with
        | none => rfl
        | some setting =>
          exact lookup_mergeEntries_of_none (lookup_layer_of_ne hbelow setting) entries
      rw [hkeeps, hkeeps, h]

end Setting

namespace Layer

/-- **Layers can be merged** exactly if all of them are in order. -/
theorem mergeOnto_eq_ok_iff {layers : List Layer} {entries merged : Entries} :
    mergeOnto entries layers = .ok merged ↔
      ∃ stack : List Entries, layers = stack.map .ok ∧ stack.foldl mergeEntries entries = merged := by
  constructor
  · intro h
    induction layers generalizing entries with
    | nil =>
      cases h
      exact ⟨[], rfl, rfl⟩
    | cons layer layers ih =>
      cases layer with
      | error error =>
        -- a broken layer lets nothing be merged
        cases h
      | ok layer =>
        -- the layer is on the stack
        obtain ⟨stack, rfl, hmerged⟩ := ih h
        exact ⟨layer :: stack, rfl, hmerged⟩
  · -- layers that can all be read are merged
    rintro ⟨stack, rfl, rfl⟩
    exact mergeOnto_ok entries stack

end Layer

/-- The command line's layers on top of others are in order only if those and all its paths are. -/
theorem Overrides.merged {overrides : Overrides} {layers : List Layer} {merged : Entries}
    (h : Layer.mergeOnto [] (layers ++ overrides.layers) = .ok merged) :
    ∃ stack : List Entries, layers = stack.map .ok ∧ overrides.AreText ∧
      overrides.stack.foldl mergeEntries (stack.foldl mergeEntries []) = merged := by
  obtain ⟨all, hall, rfl⟩ := Layer.mergeOnto_eq_ok_iff.mp h
  obtain ⟨stack, own, rfl, rfl, hown⟩ := List.map_eq_append_iff.mp hall.symm
  -- a path that is no text would be the error of a layer
  have htext : overrides.AreText := by
    by_contra hnot
    obtain ⟨leaf, hleaf⟩ := Overrides.exists_broken hnot
    have hmem : Except.error .pathNotText ∈ overrides.layers :=
      Overrides.error_mem_layers_iff.mpr ⟨leaf, hleaf⟩
    rw [← hown] at hmem
    obtain ⟨_, -, hlayer⟩ := List.mem_map.mp hmem
    cases hlayer
  refine ⟨stack, rfl, htext, ?_⟩
  rw [Overrides.layers_of_text htext] at hown
  rw [List.foldl_append, List.map_injective_iff.mpr (fun _ _ => Except.ok.inj) hown]

/-! ### Decoding, part by part -/

namespace Decoder

variable {α σ : Type}

/-- What a table has for a name, decoded, or the default if it has nothing. -/
def part (decoder : Decoder α) (default : α) (key : SettingKey) (entries : Entries)
    (name : String) : Except Mismatch α :=
  match entries.lookup name with
  | some setting => decoder (key ++ [name]) setting
  | none => .ok default

/-- **One field**: its part is decoded and put into the record, and the other fields follow. -/
theorem named_field_eq_ok_iff {entries : Entries} {name : String} {decoder : Decoder α}
    {put : σ → α → σ} {record made : σ} (default : α) (hdefault : put record default = record)
    {key : SettingKey} {fields : List (Field σ)} :
    named key entries (field name decoder put :: fields) record = .ok made ↔
      ∃ value, part decoder default key entries name = .ok value ∧
        named key entries fields (put record value) = .ok made := by
  rw [named, part]
  unfold field
  dsimp only
  cases entries.lookup name with
  | none =>
    -- nothing is put into the record, which is as if its default had been put there
    constructor
    · intro h
      refine ⟨default, rfl, ?_⟩
      rw [hdefault]
      exact h
    · rintro ⟨value, ⟨⟩, h⟩
      rw [hdefault] at h
      exact h
  | some setting =>
    dsimp only
    cases decoder (key ++ [name]) setting with
    | error mismatch =>
      -- what is there does not fit
      constructor
      · intro h
        cases h
      · rintro ⟨value, ⟨⟩, -⟩
    | ok value =>
      -- what is there is put into the record
      constructor
      · intro h
        exact ⟨value, rfl, h⟩
      · rintro ⟨_, ⟨⟩, h⟩
        exact h

end Decoder

/-! ### The parts -/

namespace Config

/-- The six parts of a configuration by their names. -/
inductive Part where
  | classpath
  | generation
  | plugin
  | output
  | packages
  | resources
  deriving Repr, DecidableEq

namespace Part

/-- What the part is called in settings. -/
def name : Part → String
  | classpath => "classpath"
  | generation => "generation"
  | plugin => "generator"
  | output => "output_directory"
  | packages => "packages"
  | resources => "resources_directory"

/-- The values of the part. -/
abbrev Value : Part → Type
  | classpath => ClasspathConfig
  | generation => GenerationConfig
  | plugin => List String
  | output => Path
  | packages => List String
  | resources => Path

/-- The part of a configuration. -/
def get : (part : Part) → Config → part.Value
  | classpath, config => config.classpath
  | generation, config => config.generation
  | plugin, config => config.plugin
  | output, config => config.output
  | packages, config => config.packages
  | resources, config => config.resources

/-- How the part is read from a setting. -/
def decoder : (part : Part) → Decoder part.Value
  | classpath => ClasspathConfig.decode
  | generation => GenerationConfig.decode
  | plugin => .record "GeneratorConfig" pluginSettings pluginSettings []
  | output => .path
  | packages => .list .text
  | resources => .path

/-- What merged settings have for the part, or its default. -/
def read (part : Part) (entries : Entries) : Except Mismatch part.Value :=
  part.decoder.part (part.get {}) [] entries part.name

/-- Only what the part's name stands for counts. -/
theorem read_congr {part : Part} {entries other : Entries}
    (h : entries.lookup part.name = other.lookup part.name) : part.read entries = part.read other := by
  rw [read, read, Decoder.part, Decoder.part, h]

end Part

/-- **The configuration of settings, part by part.** -/
theorem ofSettings_eq_ok_iff {entries : Entries} {config : Config} :
    ofSettings entries = .ok config ↔ ∀ part : Part, part.read entries = .ok (part.get config) := by
  have hfields : ofSettings entries = .ok config ↔
      Decoder.named [] entries settings {} = .ok config := by
    unfold ofSettings
    cases Decoder.named [] entries settings {} with
    | error mismatch => exact ⟨nofun, nofun⟩
    | ok made => exact ⟨fun h => congrArg _ (Except.ok.inj h), fun h => congrArg _ (Except.ok.inj h)⟩
  rw [hfields]
  -- the fields one after the other, each of which finds its default in the record
  constructor
  · intro h
    obtain ⟨classpath, hclasspath, h⟩ := (Decoder.named_field_eq_ok_iff {} rfl).mp h
    obtain ⟨generation, hgeneration, h⟩ := (Decoder.named_field_eq_ok_iff {} rfl).mp h
    obtain ⟨plugin, hplugin, h⟩ := (Decoder.named_field_eq_ok_iff [] rfl).mp h
    obtain ⟨output, houtput, h⟩ :=
      (Decoder.named_field_eq_ok_iff (Part.output.get {}) rfl).mp h
    obtain ⟨packages, hpackages, h⟩ := (Decoder.named_field_eq_ok_iff [] rfl).mp h
    obtain ⟨resources, hresources, h⟩ :=
      (Decoder.named_field_eq_ok_iff (Part.resources.get {}) rfl).mp h
    obtain rfl := Except.ok.inj h
    intro part
    cases part with
    | classpath => exact hclasspath
    | generation => exact hgeneration
    | plugin => exact hplugin
    | output => exact houtput
    | packages => exact hpackages
    | resources => exact hresources
  · intro h
    have hclasspath : ClasspathConfig.decode.part {} [] entries "classpath" = .ok config.classpath :=
      h .classpath
    have hgeneration : GenerationConfig.decode.part {} [] entries "generation"
      = .ok config.generation := h .generation
    have hplugin : Part.plugin.decoder.part [] [] entries "generator" = .ok config.plugin := h .plugin
    have houtput : Decoder.path.part (Part.output.get {}) [] entries "output_directory"
      = .ok config.output := h .output
    have hpackages : (Decoder.list .text).part [] [] entries "packages" = .ok config.packages :=
      h .packages
    have hresources : Decoder.path.part (Part.resources.get {}) [] entries "resources_directory"
      = .ok config.resources := h .resources
    refine (Decoder.named_field_eq_ok_iff _ rfl).mpr ⟨_, hclasspath, ?_⟩
    refine (Decoder.named_field_eq_ok_iff _ rfl).mpr ⟨_, hgeneration, ?_⟩
    refine (Decoder.named_field_eq_ok_iff _ rfl).mpr ⟨_, hplugin, ?_⟩
    refine (Decoder.named_field_eq_ok_iff _ rfl).mpr ⟨_, houtput, ?_⟩
    refine (Decoder.named_field_eq_ok_iff _ rfl).mpr ⟨_, hpackages, ?_⟩
    exact (Decoder.named_field_eq_ok_iff _ rfl).mpr ⟨_, hresources, rfl⟩

/-! ### Configurations over the same layers -/

/-- What the layers below the command line say about a part. -/
def Configured (layers : List Layer) (part : Part) (value : part.Value) : Prop :=
  ∃ entries, Layer.mergeOnto [] layers = .ok entries ∧ part.read entries = .ok value

/-- What layers make a configuration of is what they come to on top of each other. -/
theorem of_toConfig {layers : List Layer} {config : Config}
    (h : Layer.toConfig layers = .ok config) :
    ∃ entries, Layer.mergeOnto [] layers = .ok entries ∧
      ∀ part : Part, part.read entries = .ok (part.get config) := by
  unfold Layer.toConfig at h
  split at h
  · next entries hmerged =>
    -- the settings decide
    exact ⟨entries, hmerged, ofSettings_eq_ok_iff.mp h⟩
  · -- a layer is broken
    cases h

/-- What two command lines that say the same about the leaves below a name make of it. -/
theorem lookup_of_agreement {layers : List Layer} {first second : Overrides} {one other : Entries}
    (hone : Layer.mergeOnto [] (layers ++ first.layers) = .ok one)
    (hother : Layer.mergeOnto [] (layers ++ second.layers) = .ok other) {name : String}
    (hagree : ∀ leaf : Leaf, leaf.path.head? = some name → first.said? leaf = second.said? leaf) :
    one.lookup name = other.lookup name := by
  -- below both command lines there is the same stack of layers
  obtain ⟨stack, rfl, -, rfl⟩ := Overrides.merged hone
  obtain ⟨same, hsame, -, rfl⟩ := Overrides.merged hother
  obtain rfl := List.map_injective_iff.mpr (fun _ _ => Except.ok.inj) hsame
  refine lookup_leaves ?_ rfl
  intro leaf _ hbelow
  rw [Overrides.setting?, Overrides.setting?, hagree leaf hbelow]

/-- **Parts are independent**: two command lines that say the same about the leaves of a part give the
same part, whatever else they say. -/
theorem part_of_agreement (part : Part) {layers : List Layer} {first second : Overrides} {one other : Config}
    (hone : Layer.toConfig (layers ++ first.layers) = .ok one)
    (hother : Layer.toConfig (layers ++ second.layers) = .ok other)
    (hagree : ∀ leaf : Leaf, leaf.path.head? = some part.name →
      first.said? leaf = second.said? leaf) :
    part.get one = part.get other := by
  obtain ⟨entries, hentries, hread⟩ := of_toConfig hone
  obtain ⟨others, hothers, hreadOther⟩ := of_toConfig hother
  have hsame := Part.read_congr (lookup_of_agreement hentries hothers hagree)
  rw [hread part, hreadOther part] at hsame
  exact Except.ok.inj hsame

/-- A part that the command line says nothing about is what the layers below say. -/
theorem configured_of_unsaid (part : Part) {layers : List Layer} {overrides : Overrides}
    {config : Config} (h : Layer.toConfig (layers ++ overrides.layers) = .ok config)
    (hunsaid : ∀ leaf : Leaf, leaf.path.head? = some part.name → overrides.said? leaf = none) :
    Configured layers part (part.get config) := by
  obtain ⟨entries, hentries, hread⟩ := of_toConfig h
  obtain ⟨stack, rfl, -, -⟩ := Overrides.merged hentries
  have hbelow := Layer.mergeOnto_ok [] stack
  -- nothing on top of the layers is a command line, too
  have hnothing : Layer.mergeOnto [] (stack.map .ok ++ ({} : Overrides).layers)
      = .ok (stack.foldl mergeEntries []) := by
    rw [show ({} : Overrides).layers = [] from rfl, List.append_nil]
    exact hbelow
  refine ⟨_, hbelow, ?_⟩
  rw [← Part.read_congr (lookup_of_agreement hentries hnothing ?_)]
  · exact hread part
  · intro leaf hleaf
    rw [hunsaid leaf hleaf]
    cases leaf <;> rfl

end Config

end SchemaBuild
