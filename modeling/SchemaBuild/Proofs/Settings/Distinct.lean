import SchemaBuild.Proofs.Settings.Merge

/-!
# Names that stand in a table once

A table is a list of names with values. Layers are merged name by name, which takes for granted that
no name stands in a table twice.

* `Table.Sound` — the keys of a table are distinct, and its values are of a given kind; what is done
  to tables keeps that;
* `Setting.Distinct` — no table of a setting has a name twice.
-/

namespace SchemaBuild

/-! ### Tables -/

/-- The keys of the table are distinct, and all values are of a kind. -/
structure Table.Sound {κ α : Type} (kind : α → Prop) (table : List (κ × α)) : Prop where
  names : (table.map (·.1)).Nodup
  values : ∀ entry ∈ table, kind entry.2

namespace Table.Sound

variable {κ α β : Type} {kind : α → Prop} {table : List (κ × α)}

theorem nil : Sound kind ([] : List (κ × α)) where
  names := List.nodup_nil
  values entry hmem := by cases hmem

theorem map {other : β → Prop} {f : α → β} (hf : ∀ value, kind value → other (f value))
    (h : Sound kind table) : Sound other (table.map fun entry => (entry.1, f entry.2)) where
  names := by
    rw [List.map_map]
    exact h.names
  values entry hmem := by
    obtain ⟨old, hold, rfl⟩ := List.mem_map.mp hmem
    exact hf old.2 (h.values old hold)

variable [BEq κ] [LawfulBEq κ] {key : κ} {value : α}

theorem of_lookup (h : Sound kind table) (hlookup : table.lookup key = some value) : kind value := by
  obtain ⟨before, after, rfl, -⟩ := List.lookup_eq_some_iff.mp hlookup
  exact h.values (key, value) (by simp)

/-- A key that is not there yet comes to the end. -/
theorem concat (h : Sound kind table) (hnone : table.lookup key = none) (hvalue : kind value) :
    Sound kind (table ++ [(key, value)]) where
  names := by
    -- the new name is none of those before it
    rw [List.map_append, List.nodup_append]
    refine ⟨h.names, List.nodup_cons.mpr ⟨List.not_mem_nil, List.nodup_nil⟩, ?_⟩
    rintro name hname other hother rfl
    obtain rfl : name = key := List.mem_singleton.mp hother
    exact lookup_eq_none_iff_not_mem.mp hnone hname
  values entry hmem := by
    -- an entry from before, or the new one
    obtain hold | hnew := List.mem_append.mp hmem
    · exact h.values entry hold
    · obtain rfl := List.mem_singleton.mp hnew
      exact hvalue

theorem set (h : Sound kind table) (hvalue : kind value) : Sound kind (Table.set table key value) where
  names := nodup_set h.names key value
  values entry hmem := by
    have hvalues := h.values
    clear h
    induction table with
    | nil =>
      -- the value is added behind the others
      obtain rfl := List.mem_singleton.mp hmem
      exact hvalue
    | cons first rest ih =>
      have hrest : ∀ entry ∈ rest, kind entry.2 :=
        fun entry hentry => hvalues entry (List.mem_cons_of_mem first hentry)
      rw [Table.set] at hmem
      split at hmem
      · -- the value takes the place of the first one
        obtain rfl | hlater := List.mem_cons.mp hmem
        · exact hvalue
        · exact hrest entry hlater
      · -- the first entry stays
        obtain rfl | hlater := List.mem_cons.mp hmem
        · exact hvalues entry List.mem_cons_self
        · exact ih hlater hrest

omit [LawfulBEq κ] in
theorem erase (h : Sound kind table) : Sound kind (Table.erase table key) where
  names := h.names.sublist (List.filter_sublist.map _)
  values entry hmem := h.values entry ((List.mem_filter.mp hmem).1)

end Table.Sound

/-- No table of the setting has a name twice. What is in lists does not count. -/
inductive Setting.Distinct : Setting → Prop
  | plain {setting : Setting} (plain : setting.IsPlain) : Distinct setting
  | table {source : SettingSource} {entries : Entries} (names : (entries.map (·.1)).Nodup)
      (values : ∀ entry ∈ entries, Distinct entry.2) : Distinct (.table source entries)

theorem Setting.Distinct.sound {source : SettingSource} {entries : Entries}
    (h : Distinct (.table source entries)) : Table.Sound Distinct entries := by
  cases h with
  | plain hplain => exact absurd rfl (hplain source entries)
  | table names values => exact ⟨names, values⟩

/-- Merging entries onto sound ones keeps them sound, if it does for each single one. -/
theorem Table.Sound.mergeEntries_of {lower upper : Setting.Entries}
    (hlower : Sound Setting.Distinct lower) (hupper : ∀ entry ∈ upper, entry.2.Distinct)
    (hmerge : ∀ entry ∈ upper, ∀ {lower : Setting}, lower.Distinct →
      (lower.merge entry.2).Distinct) : Sound Setting.Distinct (Setting.mergeEntries lower upper) := by
  induction upper generalizing lower with
  | nil =>
    -- nothing is merged in
    rwa [Setting.mergeEntries]
  | cons entry rest ih =>
    obtain ⟨hentry, hrest⟩ := List.forall_mem_cons.mp hupper
    obtain ⟨hfirst, hlater⟩ := List.forall_mem_cons.mp hmerge
    rw [Setting.mergeEntries]
    refine ih (hlower.set ?_) hrest hlater
    split
    · next found hfound =>
      -- the setting is merged with the one of that name
      exact hfirst (hlower.of_lookup hfound)
    · -- there was none of that name
      exact hentry

/-- A setting on top of another has no name twice in a table if neither has. -/
theorem Setting.Distinct.merge {lower upper : Setting} (hupper : upper.Distinct)
    (hlower : lower.Distinct) : (lower.merge upper).Distinct := by
  induction hupper generalizing lower with
  | plain hplain =>
    -- what is no table replaces what was there
    rw [hplain.merge]
    exact .plain hplain
  | @table source entries names values ih =>
    by_cases hplain : lower.IsPlain
    · -- what is no table is replaced as a whole
      have hreplace : lower.merge (.table source entries) = .table source entries := by
        cases lower with
        | table other inside => exact absurd rfl (hplain other inside)
        | _ => rfl
      rw [hreplace]
      exact .table names values
    · -- tables are merged name by name
      obtain ⟨other, inside, rfl⟩ : ∃ other inside, lower = .table other inside := by
        simpa [Setting.IsPlain] using hplain
      have hmerged := hlower.sound.mergeEntries_of values fun entry hmem => ih entry hmem
      exact .table hmerged.names hmerged.values

theorem Table.Sound.mergeEntries {lower upper : Setting.Entries}
    (hlower : Sound Setting.Distinct lower) (hupper : Sound Setting.Distinct upper) :
    Sound Setting.Distinct (Setting.mergeEntries lower upper) :=
  hlower.mergeEntries_of hupper.values fun entry hmem _ hbelow =>
    (hupper.values entry hmem).merge hbelow

/-- Nothing but tables stands on the way to the end of the path. -/
def Setting.Through (entries : Entries) : (path : List String) → Prop
  | name :: next :: path => ∀ setting, entries.lookup name = some setting →
    ∃ source inside, setting = .table source inside ∧ Through inside (next :: path)
  | _ => True

theorem Setting.through_nil (path : List String) : Through [] path := by
  unfold Through
  split
  · rintro setting ⟨⟩
  · trivial

/-- A path through tables that have no name twice is open. -/
theorem Table.Sound.isOpen {entries : Setting.Entries} {path : List String}
    (h : Sound Setting.Distinct entries) (hthrough : Setting.Through entries path) :
    Setting.Open entries path := by
  induction path generalizing entries with
  | nil =>
    -- nothing more is asked of a leaf
    trivial
  | cons name path ih =>
    cases path with
    | nil =>
      -- a leaf stands in the table
      exact h.names
    | cons next path =>
      -- the path goes on in the table of that name
      refine ⟨h.names, ?_⟩
      intro setting hsetting
      obtain ⟨source, inside, rfl, hinside⟩ := hthrough setting hsetting
      exact ⟨source, inside, rfl, ih (h.of_lookup hsetting).sound hinside⟩

theorem Setting.nested_distinct {source : SettingSource} {setting : Setting}
    (h : setting.Distinct) (path : List String) : (nested source setting path).Distinct := by
  induction path with
  | nil => exact h
  | cons name path ih =>
    rw [nested]
    exact .table (by simp) (by simpa using ih)

end SchemaBuild
