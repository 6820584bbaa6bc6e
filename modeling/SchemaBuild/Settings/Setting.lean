import SchemaBuild.Decimal.Shortest
import SchemaBuild.Table

/-!
# Settings

A **setting** is what a layer of the configuration says: a single value, a list, or a table of further
settings by name. Every part of it knows the layer it came from, so that a complaint about it can name
the place to mend.

Layers are put on top of each other by `Setting.merge`: two tables are merged name by name, and
otherwise the upper one replaces the lower one as a whole. `lookup_mergeEntries` says what stands under
a name then.
-/

namespace SchemaBuild

/-- Where a setting was found. -/
inductive SettingSource where
  /-- In a file, shown in messages as the given text. -/
  | file (shown : String)
  | environment
  | commandLine
  deriving Repr, DecidableEq, Inhabited

/-- What a layer says. -/
inductive Setting where
  | text (source : SettingSource) (value : String)
  | flag (source : SettingSource) (value : Bool)
  /-- An integer, of a kind that has a sign. -/
  | signed (source : SettingSource) (value : Int)
  /-- An integer of a kind without a sign. -/
  | unsigned (source : SettingSource) (value : Nat)
  | float (source : SettingSource) (value : Binary64)
  | list (source : SettingSource) (items : List Setting)
  | table (source : SettingSource) (entries : List (String × Setting))
  deriving Repr, Inhabited

namespace Setting

/-- The settings of a table by name. -/
abbrev Entries := List (String × Setting)

/-- The layer that the setting came from. -/
def source : Setting → SettingSource
  | text source _ => source
  | flag source _ => source
  | signed source _ => source
  | unsigned source _ => source
  | float source _ => source
  | list source _ => source
  | table source _ => source

mutual

/-- What one setting on top of another comes to. -/
def merge (lower : Setting) : Setting → Setting
  | .table source upper =>
    match lower with
    | .table _ entries => .table source (mergeEntries entries upper)
    | _ => .table source upper
  | upper => upper

/-- What the entries of one table on top of those of another come to. -/
def mergeEntries (lower : Entries) : Entries → Entries
  | [] => lower
  | (name, upper) :: rest =>
    let merged :=
      match lower.lookup name with
      | some found => merge found upper
      | none => upper
    mergeEntries (Table.set lower name merged) rest

end

/-- A setting at the end of a path of names. -/
def nested (source : SettingSource) (setting : Setting) : List String → Setting
  | [] => setting
  | name :: path => .table source [(name, nested source setting path)]

/-- A list of texts. -/
def texts (source : SettingSource) (values : List String) : Setting :=
  .list source (values.map (.text source))

/-! ### Laws -/

/-- A name that the upper table has not is what it is in the lower one. -/
theorem lookup_mergeEntries_of_not_mem (lower upper : Entries) {name : String}
    (h : name ∉ upper.map (·.1)) : (mergeEntries lower upper).lookup name = lower.lookup name := by
  induction upper generalizing lower with
  | nil => simp [mergeEntries]
  | cons entry rest ih =>
    obtain ⟨key, setting⟩ := entry
    have hk : name ≠ key := fun e => h (by simp [e])
    have hr : name ∉ rest.map (·.1) := fun e => h (by simp only [List.map_cons, List.mem_cons, e, or_true])
    rw [mergeEntries, ih _ hr, Table.lookup_set, if_neg (by simpa using hk)]

/-- A name of the upper table stands for what its setting on top of the lower one comes to. -/
theorem lookup_mergeEntries (lower upper : Entries) {name : String} {setting : Setting}
    (hd : (upper.map (·.1)).Nodup) (h : upper.lookup name = some setting) :
    (mergeEntries lower upper).lookup name =
      some (match lower.lookup name with
        | some found => merge found setting
        | none => setting) := by
  induction upper generalizing lower with
  | nil => simp at h
  | cons entry rest ih =>
    obtain ⟨key, upper⟩ := entry
    simp only [List.map_cons, List.nodup_cons] at hd
    rw [Table.lookup_cons_eq] at h
    rw [mergeEntries]
    by_cases hk : name = key
    · subst hk
      obtain rfl : upper = setting := by simpa using h
      rw [lookup_mergeEntries_of_not_mem _ _ hd.1, Table.lookup_set, if_pos (by simp)]
    · rw [if_neg (by simpa using hk)] at h
      rw [ih _ hd.2 h, Table.lookup_set, if_neg (by simpa using hk)]

end Setting

end SchemaBuild
