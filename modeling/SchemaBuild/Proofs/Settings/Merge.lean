import SchemaBuild.Settings.Setting

/-!
# Merged layers, path by path

Merging goes through whole tables, and what a reader of a configuration wants to know is about one
setting: which layer decides it. For a path of names with nothing but tables on the way the answer is
the highest layer that says anything there, whatever the layers say elsewhere.

* `Setting.at?` — the setting at the end of a path;
* `Setting.Open` — the tables on the way to it are tables, and have no name twice;
* `Setting.at?_mergeEntries` — what stands at the end of the path when one layer is put on another;
* `Setting.highest`, `Setting.at?_stack` — and when a stack of layers is.
-/

namespace SchemaBuild

namespace Table

variable {κ α : Type} [BEq κ] [LawfulBEq κ]

theorem mem_keys_set {table : List (κ × α)} {key other : κ} {value : α} :
    other ∈ (set table key value).map (·.1) ↔ other = key ∨ other ∈ table.map (·.1) := by
  induction table with
  | nil => simp [set]
  | cons entry rest ih =>
    rw [set]
    split
    · next hkey =>
      obtain rfl : entry.1 = key := by simpa using hkey
      simp
    · rw [List.map_cons, List.mem_cons, ih, List.map_cons, List.mem_cons]
      exact or_left_comm

/-- Setting a key does not put it there twice. -/
theorem nodup_set {table : List (κ × α)} (h : (table.map (·.1)).Nodup) (key : κ) (value : α) :
    ((set table key value).map (·.1)).Nodup := by
  induction table with
  | nil => simp [set]
  | cons entry rest ih =>
    obtain ⟨hfirst, hrest⟩ := List.nodup_cons.mp h
    rw [set]
    split
    · next hkey =>
      -- the value is replaced where the key stands
      obtain rfl : entry.1 = key := by simpa using hkey
      exact List.nodup_cons.mpr ⟨hfirst, hrest⟩
    · next hkey =>
      refine List.nodup_cons.mpr ⟨?_, ih hrest⟩
      rw [mem_keys_set, not_or]
      exact ⟨by simpa using hkey, hfirst⟩

theorem lookup_eq_none_iff_not_mem {table : List (κ × α)} {key : κ} :
    table.lookup key = none ↔ key ∉ table.map (·.1) := by
  rw [List.lookup_eq_none_iff, List.mem_map]
  constructor
  · rintro h ⟨entry, hmem, rfl⟩
    have hne : (entry.1 == entry.1) = false := by simpa using h entry hmem
    rw [beq_self_eq_true] at hne
    cases hne
  · intro h entry hmem
    rw [bne_iff_ne]
    rintro rfl
    exact h ⟨entry, hmem, rfl⟩

end Table

namespace Setting

/-! ### Paths -/

/-- The setting at the end of a path through tables. -/
def at? (entries : Entries) : (path : List String) → Option Setting
  | [] => none
  | [name] => entries.lookup name
  | name :: next :: path =>
    match entries.lookup name with
    | some (.table _ inside) => at? inside (next :: path)
    | _ => none

/-- The path is **open**: on the way there is nothing but tables, and none of them has a name
twice. -/
def Open (entries : Entries) : (path : List String) → Prop
  | [] => True
  | [_] => (entries.map (·.1)).Nodup
  | name :: next :: path => (entries.map (·.1)).Nodup ∧
    ∀ setting, entries.lookup name = some setting →
      ∃ source inside, setting = .table source inside ∧ Open inside (next :: path)

/-- The setting is no table. -/
def IsPlain (setting : Setting) : Prop := ∀ source entries, setting ≠ .table source entries

/-- What is said at the end of the path, if anything is, is no table. -/
def PlainAt (entries : Entries) (path : List String) : Prop :=
  ∀ setting, at? entries path = some setting → setting.IsPlain

theorem IsPlain.merge {upper : Setting} (h : upper.IsPlain) (lower : Setting) :
    lower.merge upper = upper := by
  cases upper with
  | table source entries => exact absurd rfl (h source entries)
  | _ => rfl

theorem open_nil (path : List String) : Open [] path := by
  match path with
  | [] => trivial
  | [_] => exact List.nodup_nil
  | _ :: _ :: _ =>
    refine ⟨List.nodup_nil, ?_⟩
    intro setting hsetting
    cases hsetting

theorem at?_nil (path : List String) : at? [] path = none := by
  match path with
  | [] => rfl
  | [_] => rfl
  | _ :: _ :: _ => rfl

theorem Open.nodup {entries : Entries} {name : String} {path : List String}
    (h : Open entries (name :: path)) : (entries.map (·.1)).Nodup := by
  cases path with
  | nil => exact h
  | cons next path => exact h.1

/-! ### One layer on another -/

variable {lower upper : Entries} {path : List String}

theorem nodup_mergeEntries (h : (lower.map (·.1)).Nodup) (upper : Entries) :
    ((mergeEntries lower upper).map (·.1)).Nodup := by
  induction upper generalizing lower with
  | nil => rwa [mergeEntries]
  | cons entry rest ih =>
    rw [mergeEntries]
    exact ih (Table.nodup_set h _ _)

theorem lookup_mergeEntries_of_none {name : String} (h : upper.lookup name = none)
    (lower : Entries) : (mergeEntries lower upper).lookup name = lower.lookup name :=
  lookup_mergeEntries_of_not_mem lower upper (Table.lookup_eq_none_iff_not_mem.mp h)

/-- A path that is open in both layers is open when one is put on the other. -/
theorem open_mergeEntries (hlower : Open lower path) (hupper : Open upper path) :
    Open (mergeEntries lower upper) path := by
  induction path generalizing lower upper with
  | nil => trivial
  | cons name path ih =>
    have hnames := nodup_mergeEntries hlower.nodup upper
    cases path with
    | nil => exact hnames
    | cons next path =>
      refine ⟨hnames, ?_⟩
      intro setting hsetting
      -- what the upper layer says nothing about is as it is below, and else both are tables
      cases hfound : upper.lookup name with
      | none =>
        rw [lookup_mergeEntries_of_none hfound] at hsetting
        exact hlower.2 setting hsetting
      | some found =>
        rw [lookup_mergeEntries lower upper hupper.1 hfound] at hsetting
        obtain ⟨source, inside, rfl, hinside⟩ := hupper.2 found hfound
        cases hbelow : lower.lookup name with
        | none =>
          rw [hbelow] at hsetting
          cases hsetting
          exact ⟨source, inside, rfl, hinside⟩
        | some below =>
          obtain ⟨_, belowInside, rfl, hbelowInside⟩ := hlower.2 below hbelow
          rw [hbelow] at hsetting
          cases hsetting
          exact ⟨source, mergeEntries belowInside inside, rfl, ih hbelowInside hinside⟩

/-- **The upper layer decides** what it says anything about, and leaves the rest to the lower one. What
is no table on the way through the lower layer gives way to a table. -/
theorem at?_mergeEntries (hupper : Open upper path) (hplain : PlainAt upper path) :
    at? (mergeEntries lower upper) path = (at? upper path).or (at? lower path) := by
  induction path generalizing lower upper with
  | nil => rfl
  | cons name path ih =>
    cases path with
    | nil =>
      rw [at?, at?, at?]
      cases hfound : upper.lookup name with
      | none => rw [lookup_mergeEntries_of_none hfound, Option.none_or]
      | some found =>
        -- what is no table replaces whatever is below it
        have hreplace := (hplain found hfound).merge
        rw [lookup_mergeEntries lower upper hupper hfound, Option.some_or]
        cases lower.lookup name with
        | none => rfl
        | some below => exact congrArg some (hreplace below)
    | cons next path =>
      rw [at?, at?, at?]
      cases hfound : upper.lookup name with
      | none => rw [lookup_mergeEntries_of_none hfound, Option.none_or]
      | some found =>
        rw [lookup_mergeEntries lower upper hupper.1 hfound]
        obtain ⟨source, inside, rfl, hinside⟩ := hupper.2 found hfound
        have hplainInside : PlainAt inside (next :: path) := by
          intro setting hsetting
          refine hplain setting ?_
          rw [at?, hfound]
          exact hsetting
        cases lower.lookup name with
        | none => rw [Option.or_none]
        | some below =>
          cases below with
          | table _ belowInside =>
            -- two tables are merged, and the rest of the path goes through both
            exact ih hinside hplainInside
          | _ => exact (Option.or_none).symm

/-! ### A stack of layers -/

/-- What the highest layer says that says anything at the end of the path, the lowest layer being the
first one. -/
def highest (path : List String) (stack : List Entries) : Option Setting :=
  stack.reverse.findSome? (at? · path)

theorem highest_append (path : List String) (below above : List Entries) :
    highest path (below ++ above) = (highest path above).or (highest path below) := by
  rw [highest, List.reverse_append, List.findSome?_append, highest, highest]

@[simp] theorem highest_nil (path : List String) : highest path [] = none := rfl

@[simp] theorem highest_singleton (path : List String) (layer : Entries) :
    highest path [layer] = at? layer path := by
  rw [highest, List.reverse_singleton, List.findSome?_singleton]

/-- The setting that the highest layer says is said by some layer. -/
theorem exists_of_highest {stack : List Entries} {setting : Setting}
    (h : highest path stack = some setting) : ∃ layer ∈ stack, at? layer path = some setting := by
  obtain ⟨layer, hmem, hsays⟩ := List.exists_of_findSome?_eq_some h
  exact ⟨layer, List.mem_reverse.mp hmem, hsays⟩

/-- The path leads through every layer of the stack to something that is no table. -/
def Leads (path : List String) (stack : List Entries) : Prop :=
  ∀ layer ∈ stack, Open layer path ∧ PlainAt layer path

theorem Leads.plain {stack : List Entries} {setting : Setting} (h : Leads path stack)
    (hsetting : highest path stack = some setting) : setting.IsPlain := by
  obtain ⟨layer, hmem, hsays⟩ := exists_of_highest hsetting
  exact (h layer hmem).2 setting hsays

/-- A path stays open under layers through which it leads. -/
theorem open_stack {stack : List Entries} (h : Leads path stack) (hlower : Open lower path) :
    Open (stack.foldl mergeEntries lower) path := by
  induction stack generalizing lower with
  | nil => exact hlower
  | cons layer stack ih =>
    exact ih (fun other hmem => h other (List.mem_cons_of_mem layer hmem))
      (open_mergeEntries hlower (h layer List.mem_cons_self).1)

/-- **The highest layer decides**, on top of what is there already. -/
theorem at?_stack {stack : List Entries} (h : Leads path stack) (lower : Entries) :
    at? (stack.foldl mergeEntries lower) path = (highest path stack).or (at? lower path) := by
  induction stack generalizing lower with
  | nil => rfl
  | cons layer stack ih =>
    obtain ⟨hopen, hplain⟩ := h layer List.mem_cons_self
    have hrest : Leads path stack := fun other hmem => h other (List.mem_cons_of_mem layer hmem)
    rw [List.foldl_cons, ih hrest, at?_mergeEntries hopen hplain, ← Option.or_assoc]
    congr 1
    -- the layers above come first, then this one
    rw [← List.singleton_append, highest_append, highest_singleton]

end Setting

end SchemaBuild
