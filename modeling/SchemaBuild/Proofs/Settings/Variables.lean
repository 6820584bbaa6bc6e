import SchemaBuild.Proofs.Settings.Distinct
import SchemaBuild.Settings.Variables

/-!
# Names of a variable

A variable says one setting, which may be a table in braces. Such a table has no name twice, since a
later entry replaces an earlier one, so what a variable says can be merged
(`Variables.entries?_sound`).
-/

namespace SchemaBuild

open Text (Parser)

namespace Inline

open Setting (Distinct)

/-- What is read between commas is of a kind if every item is. -/
theorem items_forall {α : Type} {kind : α → Prop} {close : Char} {item : Parser α}
    (hitem : ∀ {text found rest}, item text = some (found, rest) → kind found) {fuel : Nat}
    {done all : List α} {text rest : List Char}
    (h : items close item fuel done text = some (all, rest)) (hdone : ∀ one ∈ done, kind one) :
    ∀ one ∈ all, kind one := by
  induction fuel generalizing done text with
  | zero => cases h
  | succ fuel ih =>
    rw [items] at h
    split at h
    · -- the items end here
      cases h
      exact fun one hmem => hdone one (List.mem_reverse.mp hmem)
    · split at h
      · -- no item can be read
        cases h
      · next found behind hfound =>
        have hmore := List.forall_mem_cons.mpr ⟨hitem hfound, hdone⟩
        split at h
        · -- another item may follow behind the comma
          exact ih h hmore
        · -- the items end without a comma
          obtain ⟨_, -, hall⟩ := Option.map_eq_some_iff.mp h
          cases hall
          exact fun one hmem => hmore one (List.mem_reverse.mp hmem)

/-- A table in braces has a name once: a later entry replaces an earlier one. -/
theorem tableOf_distinct {entries : List (String × Setting)}
    (h : ∀ entry ∈ entries, entry.2.Distinct) : (tableOf entries).Distinct := by
  -- from any table, since the entries so far are in it
  have hsound : ∀ {done}, Table.Sound Distinct done → Table.Sound Distinct
      (entries.foldl (fun done entry => Table.set done entry.1 entry.2) done) := by
    induction entries with
    | nil => exact id
    | cons entry entries ih =>
      obtain ⟨hentry, hentries⟩ := List.forall_mem_cons.mp h
      exact fun hdone => ih hentries (hdone.set hentry)
  obtain ⟨hnames, hvalues⟩ := hsound .nil
  exact .table hnames hvalues

theorem plain_distinct (text : List Char) : (plain text).Distinct := by
  unfold plain
  split
  · exact .plain nofun
  · split
    · exact .plain nofun
    · split <;> exact .plain nofun

/-- Blanks and truth values have no names. -/
theorem around_distinct {other : Parser Setting}
    (hother : ∀ {text found rest}, other text = some (found, rest) → found.Distinct)
    {text rest : List Char} {found : Setting} (h : around other text = some (found, rest)) :
    found.Distinct := by
  obtain ⟨⟨setting, behind⟩, hfound, hsame⟩ := Option.map_eq_some_iff.mp h
  cases hsame
  split at hfound
  · -- a truth value
    cases hfound
    exact .plain nofun
  · -- the other truth value
    cases hfound
    exact .plain nofun
  · -- none of the two, so the other parser has read it
    exact hother hfound

/-- A value has no name twice in a table, however deep. -/
theorem unnamed_distinct {depth : Nat} {text rest : List Char} {found : Setting}
    (h : unnamed depth text = some (found, rest)) : found.Distinct := by
  induction depth generalizing text found rest with
  | zero => cases h
  | succ depth ih =>
    unfold unnamed at h
    split at h
    · next hdepth =>
      -- a table, whose names are set one by one
      obtain rfl := Nat.succ.inj hdepth
      obtain ⟨⟨entries, _⟩, hentries, hfound⟩ := Option.map_eq_some_iff.mp h
      cases hfound
      refine tableOf_distinct (items_forall ?_ hentries (by simp))
      -- an entry is its name, a sign, and a value one level down
      intro text one rest hone
      obtain ⟨⟨_, _⟩, -, hone⟩ := Option.bind_eq_some_iff.mp hone
      obtain ⟨_, -, hone⟩ := Option.bind_eq_some_iff.mp hone
      obtain ⟨⟨setting, _⟩, hsetting, hone⟩ := Option.bind_eq_some_iff.mp hone
      cases hone
      exact around_distinct ih hsetting
    · -- a list
      obtain ⟨_, -, hfound⟩ := Option.map_eq_some_iff.mp h
      cases hfound
      exact .plain nofun
    · -- a text between double quotes
      obtain ⟨_, -, hfound⟩ := Option.map_eq_some_iff.mp h
      cases hfound
      exact .plain nofun
    · -- a character between single quotes
      split at h
      · cases h
        exact .plain nofun
      · cases h
    · -- a number or a text without quotes
      cases h
      exact plain_distinct _
    · -- there is no depth left
      cases h

/-- **What a variable says** has no name twice in a table. -/
theorem read_distinct (text : String) : (read text).Distinct := by
  unfold read
  dsimp only
  split
  · next hread => exact around_distinct unnamed_distinct hread
  · exact .plain nofun

end Inline

/-- **The settings that a variable is** have no name twice in a table. -/
theorem Variables.entries?_sound {setting : Bytes × Bytes} {entries : Setting.Entries}
    (h : entries? setting = some entries) : Table.Sound Setting.Distinct entries := by
  unfold entries? at h
  split at h
  · next name path _ =>
    -- the entry is a single one
    cases h
    refine ⟨by simp, ?_⟩
    rw [List.forall_mem_singleton]
    exact Setting.nested_distinct (Inline.read_distinct _) path
  · -- the name is not for the settings
    cases h

/-- **The layer of the environment** has no name twice in a table. -/
theorem Variables.layer_sound (environment : Environment) :
    Table.Sound Setting.Distinct (layer environment) := by
  have hall : ∀ entries ∈ environment.entries.filterMap entries?,
      Table.Sound Setting.Distinct entries := by
    intro entries hmem
    obtain ⟨setting, -, hsetting⟩ := List.mem_filterMap.mp hmem
    exact entries?_sound hsetting
  -- from any layer, since every variable is merged onto those before it
  have hfold : ∀ {stack : List Setting.Entries} {lower : Setting.Entries},
      (∀ entries ∈ stack, Table.Sound Setting.Distinct entries) → Table.Sound Setting.Distinct lower →
      Table.Sound Setting.Distinct (stack.foldl Setting.mergeEntries lower) := by
    intro stack
    induction stack with
    | nil => exact fun _ hlower => hlower
    | cons entries stack ih =>
      intro lower hstack hlower
      obtain ⟨hentries, hrest⟩ := List.forall_mem_cons.mp hstack
      exact ih hrest (hlower.mergeEntries hentries)
  exact hfold hall .nil

end SchemaBuild
