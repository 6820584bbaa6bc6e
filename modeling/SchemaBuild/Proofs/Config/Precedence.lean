import SchemaBuild.Proofs.Config.Overrides
import SchemaBuild.Proofs.Settings.Variables
import SchemaBuild.Proofs.Toml.Distinct

/-!
# Which layer decides

A configuration is put together from the user's file, the project's file or the one that is asked for
in its place, the environment, and the command line, and of these the last one that says anything about
a leaf decides it. No leaf depends on what is said about another one, be it in the same section.

* `Setting.Typed` — a layer says nothing of a wrong kind about any leaf;
* `Layer.toConfig_of_typed` — typed layers make a configuration, leaf by leaf;
* `Variables.at?_layer`, `Leaf.path?_variableName` — the layer of the environment, variable by
  variable;
* `Config.layer_precedence` — the configuration of a project.
-/

namespace SchemaBuild

open Setting

/-! ### Typed layers -/

/-- The layer says nothing of a wrong kind about any leaf: sections are tables, and what stands at the
end of a leaf's path is what the leaf needs. -/
def Setting.Typed (layer : Entries) : Prop :=
  ∀ leaf : Leaf, Through layer leaf.path ∧
    ∀ setting, at? layer leaf.path = some setting → ∃ value, leaf.Says setting value

theorem Setting.Typed.leads {layer : Entries} (htyped : Typed layer)
    (hsound : Table.Sound Distinct layer) (leaf : Leaf) :
    Open layer leaf.path ∧ PlainAt layer leaf.path := by
  obtain ⟨hthrough, hsays⟩ := htyped leaf
  refine ⟨hsound.isOpen hthrough, ?_⟩
  intro setting hsetting
  obtain ⟨value, hvalue⟩ := hsays setting hsetting
  exact hvalue.isPlain

namespace Layer

theorem mergeOnto_ok (entries : Entries) (stack : List Entries) :
    mergeOnto entries (stack.map .ok) = .ok (stack.foldl mergeEntries entries) := by
  induction stack generalizing entries with
  | nil => rfl
  | cons layer stack ih => exact ih (mergeEntries entries layer)

/-- One broken layer spoils the whole. -/
theorem mergeOnto_error {layers : List Layer} {error : LayerError} (hmem : .error error ∈ layers)
    (honly : ∀ other, .error other ∈ layers → other = error) (entries : Entries) :
    mergeOnto entries layers = .error error := by
  induction layers generalizing entries with
  | nil => cases hmem
  | cons layer layers ih =>
    cases layer with
    | error first =>
      -- the first error is the only one there is
      rw [mergeOnto, honly first List.mem_cons_self]
    | ok layer =>
      obtain hfirst | hlater := List.mem_cons.mp hmem
      · -- the error is none of the layers that can be read
        cases hfirst
      · -- the error comes later
        rw [mergeOnto]
        exact ih hlater (fun other hother => honly other (List.mem_cons_of_mem _ hother)) _

/-- **Layers in order make a configuration**, in which every leaf is as the highest layer says that
says anything about it, or has its default. -/
theorem toConfig_of_typed {stack : List Entries}
    (hsound : ∀ layer ∈ stack, Table.Sound Distinct layer) (htyped : ∀ layer ∈ stack, Typed layer) :
    ∃ config, toConfig (stack.map .ok) = .ok config ∧
      ∀ leaf : Leaf, leaf.Settles (highest leaf.path stack) (leaf.get config) := by
  -- the merged table is read only along paths that no layer blocks
  have hleads : ∀ leaf : Leaf, Leads leaf.path stack :=
    fun leaf layer hmem => (htyped layer hmem).leads (hsound layer hmem) leaf
  -- what is said last about a leaf is of the right kind, so there is a value for each
  have hsettled : ∀ leaf : Leaf, ∃ value, leaf.Settles (highest leaf.path stack) value := by
    intro leaf
    cases hsaid : highest leaf.path stack with
    | none => exact ⟨leaf.get {}, rfl⟩
    | some setting =>
      obtain ⟨layer, hmem, hlayer⟩ := exists_of_highest hsaid
      exact (htyped layer hmem leaf).2 setting hlayer
  choose value hvalue using hsettled
  -- all leaves at once, since one table has to hold them all
  have hmerged : ∀ leaf : Leaf, Open (stack.foldl mergeEntries []) leaf.path ∧
      at? (stack.foldl mergeEntries []) leaf.path = highest leaf.path stack := by
    intro leaf
    have hsays := at?_stack (hleads leaf) []
    rw [Setting.at?_nil, Option.or_none] at hsays
    exact ⟨open_stack (hleads leaf) (open_nil leaf.path), hsays⟩
  refine ⟨Leaf.toConfig value, ?_, ?_⟩
  · rw [toConfig, mergeOnto_ok]
    refine Config.ofSettings_eq_ok (fun leaf => (hmerged leaf).1) ?_
    intro leaf
    rw [(hmerged leaf).2]
    exact hvalue leaf
  · intro leaf
    rw [Leaf.get_toConfig]
    exact hvalue leaf

/-- A layer that is read from a file has no name twice in a table. -/
theorem ofFile_sound {world : World} {path : Path} {entries : Entries}
    (h : ofFile world path = .ok entries) : Table.Sound Distinct entries := by
  unfold ofFile at h
  split at h
  · next hlayer =>
    -- the file can be read
    cases h
    exact SettingsFile.layer_sound hlayer
  · -- the file cannot be read
    cases h

theorem ofOptionalFile_sound {world : World} {path : Path} {entries : Entries}
    (h : .ok entries ∈ ofOptionalFile world path) : Table.Sound Distinct entries := by
  unfold ofOptionalFile at h
  split at h
  · exact ofFile_sound (List.mem_singleton.mp h).symm
  · cases h

end Layer

/-! ### Variables -/

namespace Variables

/-- What the environment says at the end of a path is what the last variable says there that says
anything. -/
theorem at?_layer {environment : Environment} {path : List String}
    (h : Leads path (environment.entries.filterMap entries?)) :
    at? (layer environment) path = highest path (environment.entries.filterMap entries?) := by
  have hsays := at?_stack h []
  rwa [Setting.at?_nil, Option.or_none] at hsays

end Variables

/-- The name of the variable for a leaf: the names of its path in capitals, with two underscores
between them. -/
def Leaf.variableName (leaf : Leaf) : String :=
  "STEMGEN_" ++ "__".intercalate (leaf.path.map String.toUpper)

/-- The variable for a leaf leads to it. -/
theorem Leaf.path?_variableName (leaf : Leaf) :
    Variables.path? (.ofString leaf.variableName) = some leaf.path := by
  cases leaf <;> decide +kernel

/-! ### The configuration of a project -/

theorem Config.userLayer_sound {world : World} {entries : Entries}
    (h : .ok entries ∈ userLayer world) : Table.Sound Distinct entries := by
  unfold userLayer at h
  split at h
  · exact Layer.ofOptionalFile_sound h
  · cases h

theorem Config.projectLayer_sound {world : World} {project : Path} {file : Option Path}
    {layers : List Layer} {entries : Entries}
    (h : projectLayer world project file = .ok layers) (hmem : .ok entries ∈ layers) :
    Table.Sound Distinct entries := by
  unfold projectLayer at h
  split at h
  · -- there is no other file than that of the project
    cases h
    exact Layer.ofOptionalFile_sound hmem
  · dsimp only at h
    split at h
    · -- a file that is asked for is the only one
      cases h
      exact Layer.ofFile_sound (List.mem_singleton.mp hmem).symm
    · -- the file that is asked for is missing
      cases h

/-- The layers of the command line are typed, if all paths are text. -/
theorem Overrides.stack_typed {overrides : Overrides} (h : overrides.AreText) :
    ∀ layer ∈ overrides.stack, Table.Sound Distinct layer ∧ Typed layer := by
  intro layer hmem
  obtain ⟨leaf, -, hlayer⟩ := List.mem_flatMap.mp hmem
  obtain ⟨setting, hsetting, rfl⟩ := Option.map_eq_some_iff.mp (Option.mem_toList.mp hlayer)
  -- the leaf has a value, or nothing would be said about it
  cases hvalue : overrides.value? leaf with
  | none =>
    rw [setting?, said_of_no_value hvalue] at hsetting
    cases hsetting
  | some value =>
    obtain ⟨said, hsaid, hsays⟩ := said_of_value? h hvalue
    rw [setting?, hsaid] at hsetting
    obtain rfl := Option.some.inj hsetting
    refine ⟨Leaf.layer_sound hsays.isPlain, ?_⟩
    intro other
    refine ⟨leaf.layer_through other _, ?_⟩
    intro found hfound
    rw [Leaf.at?_layer] at hfound
    obtain ⟨rfl, hsame⟩ := Option.ite_none_right_eq_some.mp hfound
    rw [← Option.some.inj hsame]
    exact ⟨value, hsays⟩

/-- **Layer precedence.** Let the user's file and the project's file, or the file that is asked for in
its place, be tables that can be read, each of them perhaps missing, and let nothing that they and the
environment say about leaves be of a wrong kind. Then

* if all paths of the command line are text there is a configuration, and each of its leaves has the
  value that the command line has for it; or else what the environment says about it, or the project's
  file, or the user's file, the first of them that says anything; or else its default;
* if a path of the command line is no text there is none. -/
theorem Config.layer_precedence {world : World} {project : Path} {file : Option Path}
    {overrides : Overrides} {user own : List Entries}
    (huser : userLayer world = user.map .ok)
    (hown : projectLayer world project file = .ok (own.map .ok))
    (htyped : ∀ layer ∈ user ++ own ++ [Variables.layer world.environment], Typed layer) :
    ∃ layers, Config.layers world project file = .ok layers ∧
      (overrides.AreText → ∃ config, Layer.toConfig (layers ++ overrides.layers) = .ok config ∧
        ∀ leaf : Leaf,
          match overrides.value? leaf with
          | some value => leaf.get config = value
          | none =>
            leaf.Settles
              (highest leaf.path (user ++ own ++ [Variables.layer world.environment]))
              (leaf.get config)) ∧
      (¬ overrides.AreText →
        Layer.toConfig (layers ++ overrides.layers) = .error .pathNotText) := by
  let lower := user ++ own ++ [Variables.layer world.environment]
  have hlower : Config.layers world project file = .ok (lower.map .ok) := by
    rw [Config.layers, hown, huser]
    simp [lower, Layer.ofEnvironment]
  -- files and variables name nothing twice, whatever is in them
  have hsound : ∀ layer ∈ lower, Table.Sound Distinct layer := by
    intro layer hmem
    obtain hfiles | henvironment := List.mem_append.mp hmem
    · obtain hmem | hmem := List.mem_append.mp hfiles
      · -- the file of the user
        have hlayer : .ok layer ∈ userLayer world := by
          rw [huser]
          exact List.mem_map_of_mem hmem
        exact userLayer_sound hlayer
      · -- the file of the project
        exact projectLayer_sound hown (List.mem_map_of_mem hmem)
    · obtain rfl := List.mem_singleton.mp henvironment
      exact Variables.layer_sound world.environment
  refine ⟨lower.map .ok, hlower, ?_, ?_⟩
  · -- all layers can be read, those above as well
    intro htext
    have hupper := overrides.stack_typed htext
    have hall : ∀ layer ∈ lower ++ overrides.stack, Table.Sound Distinct layer ∧ Typed layer := by
      intro layer hmem
      obtain hbelow | habove := List.mem_append.mp hmem
      · -- the layers below say nothing of a wrong kind by assumption
        exact ⟨hsound layer hbelow, htyped layer hbelow⟩
      · -- the layers of the command line are made so
        exact hupper layer habove
    obtain ⟨config, hconfig, hleaves⟩ := Layer.toConfig_of_typed
      (fun layer hmem => (hall layer hmem).1) (fun layer hmem => (hall layer hmem).2)
    refine ⟨config, ?_, ?_⟩
    · -- the layers of the command line are what it says
      rw [Overrides.layers_of_text htext, ← List.map_append]
      exact hconfig
    · intro leaf
      have hleaf := hleaves leaf
      rw [highest_append, Overrides.highest_stack] at hleaf
      -- the command line comes first: its value, or else what is below it
      cases hvalue : overrides.value? leaf with
      | none =>
        rw [Overrides.setting?, Overrides.said_of_no_value hvalue] at hleaf
        exact hleaf
      | some value =>
        obtain ⟨setting, hsaid, hsays⟩ := Overrides.said_of_value? htext hvalue
        rw [Overrides.setting?, hsaid] at hleaf
        exact Leaf.Says.unique hleaf hsays
  · -- a path that is no text makes a layer that cannot be read
    intro htext
    obtain ⟨leaf, hleaf⟩ := Overrides.exists_broken htext
    have hmem : Except.error .pathNotText ∈ overrides.layers :=
      Overrides.error_mem_layers_iff.mpr ⟨leaf, hleaf⟩
    rw [Layer.toConfig, Layer.mergeOnto_error (List.mem_append_right _ hmem) ?_]
    intro other hother
    obtain hbelow | habove := List.mem_append.mp hother
    · -- the layers below can all be read
      obtain ⟨layer, -, hlayer⟩ := List.mem_map.mp hbelow
      cases hlayer
    · -- the command line has no other error
      obtain ⟨_, hsaid⟩ := Overrides.error_mem_layers_iff.mp habove
      exact Overrides.said_error hsaid

/-! ### A project with all kinds of layers -/

/-- A project whose file sets packages and entries of the classpath, and whose environment sets the
listing file of the classpath. -/
def layeredWorld : World where
  files := ⟨[(Bytes.ofString "p", .directory [(Bytes.ofString "stemgen.toml",
    .file (Bytes.ofString "packages = ['b']\nclasspath.entries = ['l']") false)])]⟩
  environment := ⟨[(Bytes.ofString Leaf.classpathFile.variableName, Bytes.ofString "c")]⟩
  here := .root
  started := []

/-- What the project's file says. -/
def layeredFile : Entries :=
  let source := SettingSource.file "p/stemgen.toml"
  [("packages", texts source ["b"]), ("classpath", .table source [("entries", texts source ["l"])])]

/-- What the variable says. -/
def layeredVariable : Entries :=
  [("classpath", .table .environment [("file", .text .environment "c")])]

/-- The names and texts of a document that has one text in a list, and one in a list in a table. -/
def listedTexts? : Option (List (String × Toml.Value)) → Option (List String)
  | some [(name, .list [.text word]), (part, .table [(key, .list [.text entry])])] =>
    some [name, word, part, key, entry]
  | _ => none

/-- Such a document is told by its names and texts, which can be computed. -/
theorem eq_of_listedTexts? {found : Option (List (String × Toml.Value))}
    {name word part key entry : String}
    (h : listedTexts? found = some [name, word, part, key, entry]) :
    found = some [(name, .list [.text word]), (part, .table [(key, .list [.text entry])])] := by
  unfold listedTexts? at h
  split at h
  · cases h
    rfl
  · cases h

theorem projectLayer_layeredWorld :
    Config.projectLayer layeredWorld (.ofString "/p") none = .ok [.ok layeredFile] := by
  let file := Config.projectFile (.ofString "/p")
  have hhas : layeredWorld.has file = true := by decide +kernel
  have hlocate : SettingsFile.locate? layeredWorld file = some file := by decide +kernel
  have hread : layeredWorld.readText file = .ok "packages = ['b']\nclasspath.entries = ['l']" := by
    decide +kernel
  have hshown : SettingsFile.shown layeredWorld file = "p/stemgen.toml" := by decide +kernel
  have hparse : Toml.parse? "packages = ['b']\nclasspath.entries = ['l']"
      = some [("packages", .list [.text "b"]), ("classpath", .table [("entries", .list [.text "l"])])] := by
    exact eq_of_listedTexts? (by decide +kernel)
  have hlayer : SettingsFile.layer layeredWorld file = .ok layeredFile := by
    simp only [SettingsFile.layer, hlocate, hread, hparse, hshown]
    rfl
  simp only [Config.projectLayer, Layer.ofOptionalFile, Layer.ofFile, file, hhas, hlayer, if_pos]

theorem variables_layeredWorld : Variables.layer layeredWorld.environment = layeredVariable := by
  have hvalue : Bytes.toStringLossy (Bytes.ofString "c") = "c" := by decide +kernel
  have hread : Inline.read "c" = .text .environment "c" := rfl
  have hentries : Variables.entries? (Bytes.ofString Leaf.classpathFile.variableName,
      Bytes.ofString "c") = some layeredVariable := by
    simp only [Variables.entries?, Leaf.path?_variableName, Leaf.path, hvalue, hread]
    rfl
  rw [Variables.layer, layeredWorld, List.filterMap_cons_some hentries]
  rfl

theorem layeredFile_typed : Typed layeredFile := by
  intro leaf
  cases leaf with
  | packages =>
    refine ⟨trivial, ?_⟩
    rintro setting ⟨⟩
    exact ⟨["b"], _, _, rfl, .cons ⟨_, rfl⟩ .nil⟩
  | classpathEntries =>
    refine ⟨?_, ?_⟩
    · rintro setting ⟨⟩
      exact ⟨_, _, rfl, trivial⟩
    · rintro setting ⟨⟩
      exact ⟨[.ofString "l"], _, _, rfl, .cons ⟨_, ⟨_, rfl⟩, rfl⟩ .nil⟩
  | _ =>
    refine ⟨?_, ?_⟩
    · first
        | trivial
        | (rintro setting ⟨⟩ <;> exact ⟨_, _, rfl, trivial⟩)
    · rintro setting ⟨⟩

theorem layeredVariable_typed : Typed layeredVariable := by
  intro leaf
  cases leaf with
  | classpathFile =>
    refine ⟨?_, ?_⟩
    · rintro setting ⟨⟩
      exact ⟨_, _, rfl, trivial⟩
    · rintro setting ⟨⟩
      exact ⟨some (.ofString "c"), _, ⟨_, ⟨_, rfl⟩, rfl⟩, rfl⟩
  | _ =>
    refine ⟨?_, ?_⟩
    · first
        | trivial
        | (rintro setting ⟨⟩ <;> exact ⟨_, _, rfl, trivial⟩)
    · rintro setting ⟨⟩

/-- The command line decides about packages, which the project's file sets as well; and of the section
of the classpath the file decides about the entries and the variable about the listing file. -/
theorem layer_precedence_layeredWorld :
    ∃ layers config, Config.layers layeredWorld (.ofString "/p") none = .ok layers ∧
      Layer.toConfig (layers ++ ({ packages := ["a"] } : Overrides).layers) = .ok config ∧
      config.packages = ["a"] ∧ config.classpath.entries = [.ofString "l"] ∧
      config.classpath.file = some (.ofString "c") ∧ config.plugin = [] := by
  have htext : ({ packages := ["a"] } : Overrides).AreText := by
    rintro path ⟨⟩
  have htyped : ∀ layer ∈ [] ++ [layeredFile] ++ [Variables.layer layeredWorld.environment],
      Typed layer := by
    rw [variables_layeredWorld]
    simpa using ⟨layeredFile_typed, layeredVariable_typed⟩
  have hnone : Config.userFile? layeredWorld = none := by decide +kernel
  have huser : Config.userLayer layeredWorld = ([] : List Entries).map .ok := by
    rw [Config.userLayer, hnone]
    rfl
  have hown : Config.projectLayer layeredWorld (.ofString "/p") none
      = .ok ([layeredFile].map .ok) := projectLayer_layeredWorld
  obtain ⟨layers, hlayers, hok, -⟩ := Config.layer_precedence huser hown htyped
  obtain ⟨config, hconfig, hleaves⟩ := hok htext
  rw [variables_layeredWorld] at hleaves
  have hpackages : config.packages = ["a"] := hleaves .packages
  have hplugin : config.plugin = [] := hleaves .plugin
  have hentries : (texts (.file "p/stemgen.toml") ["l"]).IsList IsPath config.classpath.entries :=
    hleaves .classpathEntries
  have hfile : Leaf.classpathFile.Says (.text .environment "c") config.classpath.file :=
    hleaves .classpathFile
  have hl : (texts (.file "p/stemgen.toml") ["l"]).IsList IsPath [.ofString "l"] :=
    ⟨_, _, rfl, .cons ⟨_, ⟨_, rfl⟩, rfl⟩ .nil⟩
  refine ⟨layers, config, hlayers, hconfig, hpackages, ?_, ?_, hplugin⟩
  · exact Leaf.Says.unique (show Leaf.classpathEntries.Says _ _ from hentries) hl
  · exact hfile.unique ⟨_, ⟨_, ⟨_, rfl⟩, rfl⟩, rfl⟩

/-- A project without files, in an environment without variables. -/
def bareWorld : World where
  files := ⟨[]⟩
  environment := ⟨[]⟩
  here := .root
  started := []

/-- Layers that say nothing of a wrong kind, and indeed nothing at all, make no configuration with an
output directory on the command line that is the one byte 255: that is a path and no text, and a
setting can hold a text only. -/
theorem no_configuration_with_path_that_is_no_text :
    Typed (Variables.layer bareWorld.environment) ∧
      ∃ layers, Config.layers bareWorld (.ofString "/p") none = .ok layers ∧
        Layer.toConfig (layers ++ ({ output := some ⟨[255]⟩ } : Overrides).layers)
          = .error .pathNotText := by
  have hlayer : Variables.layer bareWorld.environment = [] := rfl
  have hproject : bareWorld.has (Config.projectFile (.ofString "/p")) = false := by decide +kernel
  have hlayers : Config.layers bareWorld (.ofString "/p") none = .ok [.ok []] := by
    simp only [Config.layers, Config.projectLayer, Layer.ofOptionalFile, hproject]
    rfl
  have htext : ¬ (Path.toString? ⟨[255]⟩).isSome := by decide +kernel
  refine ⟨?_, _, hlayers, ?_⟩
  · rw [hlayer]
    intro leaf
    refine ⟨through_nil leaf.path, ?_⟩
    intro setting hsetting
    rw [Setting.at?_nil] at hsetting
    cases hsetting
  · have hbroken : ({ output := some ⟨[255]⟩ } : Overrides).layers = [.error .pathNotText] := by
      simp [Overrides.layers, Overrides.pathSetting_of_not_text htext, Overrides.layerAt]
    rw [hbroken]
    rfl

end SchemaBuild
