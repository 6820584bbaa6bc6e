import SchemaBuild.Config.Overrides
import SchemaBuild.Proofs.Config.Leaves
import SchemaBuild.Proofs.Text.Utf8

/-!
# What the command line says

The command line's layers say one leaf each. A path can be said only if it is text, so the layers are
in order exactly if all paths are (`Overrides.AreText`):

* `Overrides.value?` — the value that the command line has for a leaf, if it has one;
* `Overrides.layers_eq` — the layers, each for the leaf that it says something about;
* `Overrides.said_of_value?` — if all paths are text, what is said about a leaf is its value;
* `Overrides.exists_broken` — and otherwise one of the layers is broken.
-/

namespace SchemaBuild

open Setting

namespace Leaf

/-- All leaves, those of the command line in the order of its layers. -/
def all : List Leaf :=
  [output, resources, packages, classpathEntries, classpathFile, plugin, classpathVariable, getters,
    updaters, extension]

theorem mem_all (leaf : Leaf) : leaf ∈ all := by
  cases leaf <;> decide

/-- The layer of the command line that says one leaf and nothing else. -/
def layer (leaf : Leaf) (setting : Setting) : Entries :=
  match leaf.path with
  | name :: path => [(name, .nested .commandLine setting path)]
  | [] => []

/-- No leaf stands on the way to another. -/
theorem at?_layer (leaf other : Leaf) (setting : Setting) :
    at? (leaf.layer setting) other.path = if leaf = other then some setting else none := by
  cases leaf <;> cases other <;> rfl

/-- On the way to a leaf there is nothing but tables in the layer of any leaf. -/
theorem layer_through (leaf other : Leaf) (setting : Setting) :
    Through (leaf.layer setting) other.path := by
  cases leaf <;> cases other <;> first
    | trivial
    | (intro found hfound; cases hfound <;> exact ⟨_, _, rfl, trivial⟩)

theorem layer_sound {leaf : Leaf} {setting : Setting} (h : setting.IsPlain) :
    Table.Sound Setting.Distinct (leaf.layer setting) := by
  unfold layer
  split
  · next name path _ =>
    -- the layer has one entry, which holds tables down to the setting
    refine ⟨by simp, ?_⟩
    rw [List.forall_mem_singleton]
    exact Setting.nested_distinct (.plain h) path
  · -- no name leads to the leaf
    exact .nil

/-- Of layers for some leaves, each for one, the highest setting of a leaf is its own. -/
theorem highest_layers (leaves : List Leaf) (setting? : Leaf → Option Setting) (leaf : Leaf) :
    highest leaf.path (leaves.flatMap fun other => ((setting? other).map other.layer).toList)
      = if leaf ∈ leaves then setting? leaf else none := by
  induction leaves with
  | nil => rfl
  | cons first leaves ih =>
    have hfirst : highest leaf.path ((setting? first).map first.layer).toList
        = if first = leaf then setting? first else none := by
      cases setting? first with
      | none => rw [ite_self]; rfl
      | some setting => exact (highest_singleton _ _).trans (at?_layer first leaf setting)
    rw [List.flatMap_cons, highest_append, ih, hfirst]
    by_cases hsame : first = leaf
    · subst hsame
      rw [if_pos rfl, if_pos List.mem_cons_self]
      split
      · -- the same leaf comes once more, with the same setting
        exact Option.or_self
      · -- the leaf does not come once more
        rfl
    · -- a layer for another leaf says nothing about this one
      simp only [List.mem_cons, Ne.symm hsame, false_or, if_neg hsame, Option.or_none]

end Leaf

namespace Overrides

/-! ### What is said -/

/-- What the command line has for a leaf. An empty list sets nothing. -/
def value? (overrides : Overrides) : (leaf : Leaf) → Option leaf.Value
  | .output => overrides.output
  | .resources => overrides.resources
  | .packages => if overrides.packages.isEmpty then none else some overrides.packages
  | .classpathEntries =>
    if overrides.classpathEntries.isEmpty then none else some overrides.classpathEntries
  | .classpathFile => overrides.classpathFile.map some
  | .plugin => if overrides.plugin.isEmpty then none else some overrides.plugin
  | .classpathVariable => none
  | .getters => none
  | .updaters => none
  | .extension => none

/-- What the command line says about a leaf, if it says anything: a setting, or the reason why there
is none. -/
def said? (overrides : Overrides) : Leaf → Option (Except LayerError Setting)
  | .output => overrides.output.map pathSetting
  | .resources => overrides.resources.map pathSetting
  | .packages => if overrides.packages.isEmpty then none else some (textsSetting overrides.packages)
  | .classpathEntries =>
    if overrides.classpathEntries.isEmpty then none
    else some (pathsSetting overrides.classpathEntries)
  | .classpathFile => overrides.classpathFile.map pathSetting
  | .plugin => if overrides.plugin.isEmpty then none else some (textsSetting overrides.plugin)
  | _ => none

theorem layerAt_eq {leaf : Leaf} {name : String} {path : List String}
    (h : leaf.path = name :: path) : layerAt name path = fun said => said.map leaf.layer := by
  funext said
  cases said with
  | error error => rfl
  | ok setting => simp only [layerAt, Except.map, Leaf.layer, h]

/-- **The layers of the command line**, each for one leaf. -/
theorem layers_eq (overrides : Overrides) :
    overrides.layers = Leaf.all.flatMap fun leaf =>
      ((overrides.said? leaf).map fun said => said.map leaf.layer).toList := by
  -- a list that is empty makes no layer, where the others make one if they are set
  have hlist : ∀ {empty : Prop} [Decidable empty] {leaf : Leaf} {said : Except LayerError Setting},
      (if empty then [] else [said.map leaf.layer])
        = ((if empty then none else some said).map fun said => said.map leaf.layer).toList := by
    intro empty _ leaf said
    split <;> rfl
  simp only [Leaf.all, List.flatMap_cons, List.flatMap_nil, said?]
  rw [layers, layerAt_eq (rfl : Leaf.output.path = _), layerAt_eq (rfl : Leaf.resources.path = _),
    layerAt_eq (rfl : Leaf.packages.path = _), layerAt_eq (rfl : Leaf.classpathEntries.path = _),
    layerAt_eq (rfl : Leaf.classpathFile.path = _), layerAt_eq (rfl : Leaf.plugin.path = _)]
  simp only [← hlist, Option.map_map, Function.comp_def, Option.map_none, Option.toList_none,
    List.append_nil, List.append_assoc]

/-! ### Paths that are text -/

/-- The paths of the command line. -/
def paths (overrides : Overrides) : List Path :=
  overrides.output.toList ++ overrides.resources.toList ++ overrides.classpathEntries
    ++ overrides.classpathFile.toList

/-- All paths of the command line are text. -/
def AreText (overrides : Overrides) : Prop := ∀ path ∈ overrides.paths, path.toString?.isSome

/-- Every path of the command line is text if all are. -/
theorem AreText.each {overrides : Overrides} (h : overrides.AreText) :
    (∀ path ∈ overrides.output, path.toString?.isSome) ∧
      (∀ path ∈ overrides.resources, path.toString?.isSome) ∧
      (∀ path ∈ overrides.classpathEntries, path.toString?.isSome) ∧
      ∀ path ∈ overrides.classpathFile, path.toString?.isSome := by
  simp only [AreText, paths, List.forall_mem_append, Option.mem_toList] at h
  obtain ⟨⟨⟨houtput, hresources⟩, hentries⟩, hfile⟩ := h
  exact ⟨houtput, hresources, hentries, hfile⟩

theorem pathSetting_of_text {path : Path} (h : path.toString?.isSome) :
    ∃ setting, pathSetting path = .ok setting ∧ setting.IsPath path := by
  obtain ⟨text, htext⟩ := Option.isSome_iff_exists.mp h
  have hbytes : path.bytes = Bytes.ofString text := Bytes.toString?_eq_some_iff.mp htext
  refine ⟨.text .commandLine text, ?_, text, ⟨_, rfl⟩, ?_⟩
  · rw [pathSetting, htext]
  · rw [Path.ofString, ← hbytes]

theorem pathsSetting_of_text {paths : List Path} (h : ∀ path ∈ paths, path.toString?.isSome) :
    ∃ setting, pathsSetting paths = .ok setting ∧ setting.IsList IsPath paths := by
  have hall : ∃ settings, paths.mapM pathSetting = .ok settings ∧
      List.Forall₂ IsPath settings paths := by
    induction paths with
    | nil => exact ⟨[], rfl, .nil⟩
    | cons path paths ih =>
      obtain ⟨hpath, hpaths⟩ := List.forall_mem_cons.mp h
      obtain ⟨setting, hsetting, his⟩ := pathSetting_of_text hpath
      obtain ⟨settings, hsettings, hare⟩ := ih hpaths
      refine ⟨setting :: settings, ?_, .cons his hare⟩
      rw [List.mapM_cons, hsetting, hsettings]
      rfl
  obtain ⟨settings, hsettings, hare⟩ := hall
  exact ⟨.list .commandLine settings, by rw [pathsSetting, hsettings], _, _, rfl, hare⟩

theorem textsSetting_eq (values : List String) :
    ∃ setting, textsSetting values = .ok setting ∧ setting.IsList IsText values := by
  refine ⟨_, rfl, .commandLine, _, rfl, ?_⟩
  induction values with
  | nil => exact .nil
  | cons value values ih => exact .cons ⟨.commandLine, rfl⟩ ih

/-- **What the command line has for a leaf** it says, if all paths are text. -/
theorem said_of_value? {overrides : Overrides} (h : overrides.AreText) {leaf : Leaf}
    {value : leaf.Value} (hvalue : overrides.value? leaf = some value) :
    ∃ setting, overrides.said? leaf = some (.ok setting) ∧ leaf.Says setting value := by
  obtain ⟨houtput, hresources, hentries, hfile⟩ := h.each
  -- a path, a list that is not empty, or a leaf that the command line has no option for
  cases leaf with
  | output =>
    have hset : overrides.output = some value := hvalue
    obtain ⟨setting, hsaid, his⟩ := pathSetting_of_text (houtput value hset)
    exact ⟨setting, by rw [said?, hset, Option.map_some, hsaid], his⟩
  | resources =>
    have hset : overrides.resources = some value := hvalue
    obtain ⟨setting, hsaid, his⟩ := pathSetting_of_text (hresources value hset)
    exact ⟨setting, by rw [said?, hset, Option.map_some, hsaid], his⟩
  | packages =>
    obtain ⟨hempty, hset⟩ := Option.ite_none_left_eq_some.mp hvalue
    obtain rfl := Option.some.inj hset
    obtain ⟨setting, hsaid, his⟩ := textsSetting_eq overrides.packages
    exact ⟨setting, by rw [said?, if_neg hempty, hsaid], his⟩
  | classpathEntries =>
    obtain ⟨hempty, hset⟩ := Option.ite_none_left_eq_some.mp hvalue
    obtain rfl := Option.some.inj hset
    obtain ⟨setting, hsaid, his⟩ := pathsSetting_of_text hentries
    exact ⟨setting, by rw [said?, if_neg hempty, hsaid], his⟩
  | classpathFile =>
    obtain ⟨file, hset, rfl⟩ := Option.map_eq_some_iff.mp hvalue
    obtain ⟨setting, hsaid, his⟩ := pathSetting_of_text (hfile file hset)
    exact ⟨setting, by rw [said?, hset, Option.map_some, hsaid], file, his, rfl⟩
  | plugin =>
    obtain ⟨hempty, hset⟩ := Option.ite_none_left_eq_some.mp hvalue
    obtain rfl := Option.some.inj hset
    obtain ⟨setting, hsaid, his⟩ := textsSetting_eq overrides.plugin
    exact ⟨setting, by rw [said?, if_neg hempty, hsaid], his⟩
  | classpathVariable => cases hvalue
  | getters => cases hvalue
  | updaters => cases hvalue
  | extension => cases hvalue

/-- What the command line has nothing for it says nothing about. -/
theorem said_of_no_value {overrides : Overrides} {leaf : Leaf}
    (h : overrides.value? leaf = none) : overrides.said? leaf = none := by
  unfold value? at h
  unfold said?
  cases leaf <;> simp_all

/-- The setting that is said about a leaf. -/
def setting? (overrides : Overrides) (leaf : Leaf) : Option Setting :=
  match overrides.said? leaf with
  | some (.ok setting) => some setting
  | _ => none

/-- The layers that are in order. -/
def stack (overrides : Overrides) : List Entries :=
  Leaf.all.flatMap fun leaf => ((overrides.setting? leaf).map leaf.layer).toList

theorem highest_stack (overrides : Overrides) (leaf : Leaf) :
    highest leaf.path overrides.stack = overrides.setting? leaf := by
  rw [stack, Leaf.highest_layers, if_pos leaf.mem_all]

/-- **All layers are in order** if all paths are text. -/
theorem layers_of_text {overrides : Overrides} (h : overrides.AreText) :
    overrides.layers = overrides.stack.map .ok := by
  rw [layers_eq, stack, List.map_flatMap]
  congr 1
  funext leaf
  unfold setting?
  cases hvalue : overrides.value? leaf with
  | none =>
    -- nothing is said about the leaf
    rw [said_of_no_value hvalue]
    rfl
  | some value =>
    -- what is said can be read, since all paths are texts
    obtain ⟨setting, hsaid, -⟩ := said_of_value? h hvalue
    rw [hsaid]
    rfl

/-! ### Paths that are no text -/

theorem pathSetting_of_not_text {path : Path} (h : ¬ path.toString?.isSome) :
    pathSetting path = .error .pathNotText := by
  rw [pathSetting, Option.not_isSome_iff_eq_none.mp h]

theorem pathsSetting_of_not_text {path : Path} {paths : List Path} (hmem : path ∈ paths)
    (h : ¬ path.toString?.isSome) : pathsSetting paths = .error .pathNotText := by
  have hall : paths.mapM pathSetting = .error .pathNotText := by
    induction paths with
    | nil => cases hmem
    | cons first paths ih =>
      rw [List.mapM_cons]
      by_cases hfirst : first.toString?.isSome
      · -- the one that is no text comes later
        obtain ⟨setting, hsetting, -⟩ := pathSetting_of_text hfirst
        obtain rfl | hlater := List.mem_cons.mp hmem
        · exact absurd hfirst h
        · rw [hsetting, ih hlater]
          rfl
      · -- the first one is no text
        rw [pathSetting_of_not_text hfirst]
        rfl
  rw [pathsSetting, hall]

/-- **One of the layers is broken** if a path is no text. -/
theorem exists_broken {overrides : Overrides} (h : ¬ overrides.AreText) :
    ∃ leaf, overrides.said? leaf = some (.error .pathNotText) := by
  simp only [AreText, not_forall] at h
  obtain ⟨path, hmem, hpath⟩ := h
  simp only [paths, List.mem_append, Option.mem_toList] at hmem
  obtain ((houtput | hresources) | hentries) | hfile := hmem
  · -- the directory for the output
    refine ⟨.output, ?_⟩
    rw [said?, houtput, Option.map_some, pathSetting_of_not_text hpath]
  · -- the directory of the resources
    refine ⟨.resources, ?_⟩
    rw [said?, hresources, Option.map_some, pathSetting_of_not_text hpath]
  · -- one of the entries
    have hempty : ¬ overrides.classpathEntries.isEmpty := by
      rw [List.isEmpty_iff]
      exact List.ne_nil_of_mem hentries
    refine ⟨.classpathEntries, ?_⟩
    rw [said?, if_neg hempty, pathsSetting_of_not_text hentries hpath]
  · -- the listing file
    refine ⟨.classpathFile, ?_⟩
    rw [said?, hfile, Option.map_some, pathSetting_of_not_text hpath]

theorem pathSetting_error {path : Path} {error : LayerError}
    (h : pathSetting path = .error error) : error = .pathNotText := by
  by_cases hpath : path.toString?.isSome
  · -- a path that is text makes no error
    obtain ⟨setting, hsetting, -⟩ := pathSetting_of_text hpath
    rw [hsetting] at h
    cases h
  · -- there is one error only
    rw [pathSetting_of_not_text hpath] at h
    exact (Except.error.inj h).symm

/-- There is no other reason for a broken layer than a path that is no text. -/
theorem said_error {overrides : Overrides} {leaf : Leaf} {error : LayerError}
    (h : overrides.said? leaf = some (.error error)) : error = .pathNotText := by
  -- the three single paths fail alike
  have hpath : ∀ {given : Option Path}, given.map pathSetting = some (.error error) →
      error = .pathNotText := by
    intro given hsaid
    obtain ⟨path, -, hsetting⟩ := Option.map_eq_some_iff.mp hsaid
    exact pathSetting_error hsetting
  cases leaf with
  | output => exact hpath h
  | resources => exact hpath h
  | classpathFile => exact hpath h
  | packages =>
    -- words are always texts
    obtain ⟨-, hsaid⟩ := Option.ite_none_left_eq_some.mp h
    cases hsaid
  | plugin =>
    -- so are the words of the plugin
    obtain ⟨-, hsaid⟩ := Option.ite_none_left_eq_some.mp h
    cases hsaid
  | classpathEntries =>
    obtain ⟨-, hsaid⟩ := Option.ite_none_left_eq_some.mp h
    have hsetting := Option.some.inj hsaid
    by_cases htext : ∀ path ∈ overrides.classpathEntries, path.toString?.isSome
    · -- entries that are all texts make no error
      obtain ⟨setting, hlist, -⟩ := pathsSetting_of_text htext
      rw [hlist] at hsetting
      cases hsetting
    · -- one of them is no text
      simp only [not_forall] at htext
      obtain ⟨path, hmem, hnot⟩ := htext
      rw [pathsSetting_of_not_text hmem hnot] at hsetting
      exact (Except.error.inj hsetting).symm
  | classpathVariable => cases h
  | getters => cases h
  | updaters => cases h
  | extension => cases h

theorem error_mem_layers_iff {overrides : Overrides} {error : LayerError} :
    .error error ∈ overrides.layers ↔ ∃ leaf, overrides.said? leaf = some (.error error) := by
  rw [layers_eq, List.mem_flatMap]
  constructor
  · -- an error among the layers is what is said of a leaf
    rintro ⟨leaf, -, hmem⟩
    obtain ⟨said, hsaid, hmap⟩ := Option.map_eq_some_iff.mp (Option.mem_toList.mp hmem)
    cases said with
    | error other =>
      cases hmap
      exact ⟨leaf, hsaid⟩
    | ok setting => cases hmap
  · -- what is said of a leaf is among the layers
    rintro ⟨leaf, hsaid⟩
    refine ⟨leaf, leaf.mem_all, ?_⟩
    rw [hsaid]
    exact List.mem_singleton_self _

end Overrides

end SchemaBuild
