import Mathlib.Logic.Relation
import SchemaBuild.Proofs.Settings.Distinct
import SchemaBuild.Settings.Document

/-!
# Names of a document

A configuration document has no name twice in a table, however its lines are arranged, so what is read
from a file is a layer that can be merged (`Toml.parse?_sound`, `SettingsFile.layer_sound`).

A document is read line by line (`Toml.documentFrom_lines`), so `Toml.State.Sound` says it of the
unfinished document, and each kind of line keeps it (`Toml.State.Line.sound`): a setting
(`addSetting_sound`), the header of a table (`State.beginTable_sound`), and the header of a table in a
list (`State.beginListed_sound`). All of them change the document at the end of a path only, which
`descend_sound` deals with once.
-/

namespace SchemaBuild

open Text (Parser)

namespace Toml

/-- The setting that the value is has no name twice in a table. -/
def Value.Distinct (value : Value) : Prop := ∀ source, (value.toSetting source).Distinct

theorem fieldSettings_eq_map (source : SettingSource) (fields : List (String × Value)) :
    fieldSettings source fields = fields.map fun field => (field.1, field.2.toSetting source) := by
  induction fields with
  | nil => rw [fieldSettings, List.map_nil]
  | cons field fields ih => rw [fieldSettings, ih, List.map_cons]

theorem fieldSettings_sound {fields : List (String × Value)} (h : Table.Sound Value.Distinct fields)
    (source : SettingSource) : Table.Sound Setting.Distinct (fieldSettings source fields) := by
  rw [fieldSettings_eq_map]
  exact h.map fun value hvalue => hvalue source

theorem Value.distinct_table {fields : List (String × Value)}
    (h : Table.Sound Value.Distinct fields) : (Value.table fields).Distinct := by
  intro source
  rw [toSetting]
  obtain ⟨hnames, hvalues⟩ := fieldSettings_sound h source
  exact .table hnames hvalues

/-- What is no table has no names. -/
theorem Value.distinct_of_ne_table {value : Value} (h : ∀ fields, value ≠ .table fields) :
    value.Distinct := by
  intro source
  cases value with
  | table fields =>
    -- a table is excluded
    exact absurd rfl (h fields)
  | time written =>
    -- a time is a table of one entry, which is no table
    rw [toSetting]
    exact .table List.nodup_nil (by simp)
  | _ =>
    rw [toSetting]
    exact .plain (by simp [Setting.IsPlain])

/-- No table of the item has a key twice. -/
inductive Item.Distinct : Item → Prop
  | value {value : Value} (distinct : value.Distinct) : Distinct (.value value)
  | table {origin : Origin} {items : Items} (names : (items.map (·.1)).Nodup)
      (values : ∀ entry ∈ items, Distinct entry.2) : Distinct (.table origin items)
  | tables {tables : List Items} (names : ∀ items ∈ tables, (items.map (·.1)).Nodup)
      (values : ∀ items ∈ tables, ∀ entry ∈ items, Distinct entry.2) : Distinct (.tables tables)

namespace Item.Distinct

variable {origin : Origin} {items : Items} {tables : List Items}

theorem of_sound (h : Table.Sound Item.Distinct items) : (Item.table origin items).Distinct :=
  .table h.names h.values

theorem sound (h : (Item.table origin items).Distinct) : Table.Sound Item.Distinct items := by
  cases h with
  | table names values => exact ⟨names, values⟩

theorem of_all_sound (h : ∀ items ∈ tables, Table.Sound Item.Distinct items) :
    (Item.tables tables).Distinct :=
  .tables (fun items hmem => (h items hmem).names) fun items hmem => (h items hmem).values

theorem all_sound (h : (Item.tables tables).Distinct) :
    ∀ items ∈ tables, Table.Sound Item.Distinct items := by
  cases h with
  | tables names values => exact fun items hmem => ⟨names items hmem, values items hmem⟩

theorem itemsToFields_eq_map (items : Items) :
    itemsToFields items = items.map fun entry => (entry.1, entry.2.toValue) := by
  induction items with
  | nil => rw [itemsToFields, List.map_nil]
  | cons entry items ih => rw [itemsToFields, ih, List.map_cons]

theorem toValue {item : Item} (h : item.Distinct) : item.toValue.Distinct := by
  induction h with
  | value distinct =>
    -- a value stands for itself
    rw [Item.toValue]
    exact distinct
  | table names values ih =>
    -- the fields of the table are its items
    rw [Item.toValue, itemsToFields_eq_map]
    refine Value.distinct_table ⟨?_, ?_⟩
    · rw [List.map_map]
      exact names
    · intro field hmem
      obtain ⟨entry, hentry, rfl⟩ := List.mem_map.mp hmem
      exact ih entry hentry
  | tables names values ih =>
    -- a list of tables is no table
    rw [Item.toValue]
    exact Value.distinct_of_ne_table (by simp)

end Item.Distinct

/-- The fields that distinct items are. -/
theorem itemsToFields_sound {items : Items} (h : Table.Sound Item.Distinct items) :
    Table.Sound Value.Distinct (itemsToFields items) := by
  rw [Item.Distinct.itemsToFields_eq_map]
  exact h.map fun _ hitem => hitem.toValue

/-- **A change keeps keys distinct** all the way up if it does at the end of the path. -/
theorem descend_sound {origin : Origin} {change : Origin → Items → Option Items}
    (hchange : ∀ {here items after}, change here items = some after →
      Table.Sound Item.Distinct items → Table.Sound Item.Distinct after)
    {path : List String} {here : Origin} {items after : Items}
    (h : descend origin change path here items = some after)
    (hitems : Table.Sound Item.Distinct items) : Table.Sound Item.Distinct after := by
  induction path generalizing here items after with
  | nil => exact hchange h hitems
  | cons key path ih =>
    rw [descend] at h
    split at h
    · -- a table comes about on the way
      obtain ⟨inside, hinside, hafter⟩ := Option.bind_eq_some_iff.mp h
      cases hafter
      exact hitems.set (.of_sound (ih hinside .nil))
    · -- a value is no table to go into
      cases h
    · next found inside hlookup =>
      split at h
      · -- a dotted key does not go into a table with a header of its own
        cases h
      · -- the table is changed within
        obtain ⟨changed, hchanged, hafter⟩ := Option.bind_eq_some_iff.mp h
        cases hafter
        exact hitems.set (.of_sound (ih hchanged (hitems.of_lookup hlookup).sound))
    · -- a list without tables cannot be entered
      cases h
    · next last others hlookup =>
      -- the last table of a list is entered, and the others stay as they are
      obtain ⟨hlast, hothers⟩ := List.forall_mem_cons.mp (hitems.of_lookup hlookup).all_sound
      obtain ⟨changed, hchanged, hafter⟩ := Option.bind_eq_some_iff.mp h
      cases hafter
      exact hitems.set (.of_all_sound (List.forall_mem_cons.mpr ⟨ih hchanged hlast, hothers⟩))

theorem addSetting_sound {items after : Items} {path : List String} {key : String} {value : Value}
    (h : addSetting items path key value = some after) (hitems : Table.Sound Item.Distinct items)
    (hvalue : value.Distinct) : Table.Sound Item.Distinct after := by
  refine descend_sound ?_ h hitems
  intro here items after hadd hitems
  split at hadd
  · -- dotted keys, and no others, add to the tables that dotted keys made
    cases hadd
  · split at hadd
    · -- the name is taken
      cases hadd
    · next hfree =>
      cases hadd
      exact hitems.concat (Option.not_isSome_iff_eq_none.mp hfree) (.value hvalue)

/-! ### Values -/

/-- A number in another base than ten is no table. -/
theorem basedInteger_distinct {base : Nat} {text rest : List Char} {found : Value}
    (h : basedInteger base text = some (found, rest)) : found.Distinct := by
  unfold basedInteger at h
  split at h
  · -- no digits follow
    cases h
  · dsimp only at h
    split at h
    · -- the number is in range
      cases h
      exact Value.distinct_of_ne_table (by simp)
    · -- the number is too large
      cases h

/-- A number without its sign is no table. -/
theorem unsignedNumber_distinct {negative : Bool} {text rest : List Char} {found : Value}
    (h : unsignedNumber negative text = some (found, rest)) : found.Distinct := by
  have hinteger : ∀ n, (Value.integer n).Distinct :=
    fun n => Value.distinct_of_ne_table fun fields => nofun
  have hfloat : ∀ number, (Value.float number).Distinct :=
    fun number => Value.distinct_of_ne_table fun fields => nofun
  unfold unsignedNumber at h
  split at h
  · -- no digits stand there
    cases h
  · dsimp only at h
    -- the fraction and the exponent, and then which kind of number it is and whether it is in range
    split at h
    · -- a point without digits behind it
      cases h
    · split at h
      · -- an exponent without digits
        cases h
      · split at h
        · -- an integer
          obtain ⟨-, hfound⟩ := Option.ite_none_right_eq_some.mp h
          rw [← (Prod.mk.inj (Option.some.inj hfound)).1]
          exact hinteger _
        · -- a decimal
          obtain ⟨-, hfound⟩ := Option.ite_none_left_eq_some.mp h
          rw [← (Prod.mk.inj (Option.some.inj hfound)).1]
          exact hfloat _

/-- A number is no table. -/
theorem number_distinct {text rest : List Char} {found : Value}
    (h : number text = some (found, rest)) : found.Distinct := by
  unfold number at h
  split at h
  · -- hexadecimal
    exact basedInteger_distinct h
  · -- octal
    exact basedInteger_distinct h
  · -- binary
    exact basedInteger_distinct h
  · dsimp only at h
    split at h
    · -- infinite
      obtain ⟨_, -, hfound⟩ := Option.map_eq_some_iff.mp h
      cases hfound
      exact Value.distinct_of_ne_table (by simp)
    · -- no number
      obtain ⟨_, -, hfound⟩ := Option.map_eq_some_iff.mp h
      cases hfound
      exact Value.distinct_of_ne_table (by simp)
    · -- a sign at most stands before the digits
      exact unsignedNumber_distinct h

/-- A point in time is no table. -/
theorem time_distinct {text rest : List Char} {found : Value}
    (h : time text = some (found, rest)) : found.Distinct := by
  obtain ⟨_, -, hfound⟩ := Option.map_eq_some_iff.mp h
  cases hfound
  exact Value.distinct_of_ne_table (by simp)

/-- The settings of a table in braces. -/
theorem tableItems_sound {value : Parser Value}
    (hvalue : ∀ {text found rest}, value text = some (found, rest) → found.Distinct)
    {fuel : Nat} {items found : Items} {text rest : List Char}
    (h : tableItems value fuel items text = some (found, rest))
    (hitems : Table.Sound Item.Distinct items) : Table.Sound Item.Distinct found := by
  induction fuel generalizing items text with
  | zero => cases h
  | succ fuel ih =>
    rw [tableItems] at h
    obtain ⟨⟨⟨path, last⟩, behindKey⟩, -, h⟩ := Option.bind_eq_some_iff.mp h
    obtain ⟨behindSign, -, h⟩ := Option.bind_eq_some_iff.mp h
    obtain ⟨⟨one, behindValue⟩, hone, h⟩ := Option.bind_eq_some_iff.mp h
    obtain ⟨more, hmore, h⟩ := Option.bind_eq_some_iff.mp h
    have hsound := addSetting_sound hmore hitems (hvalue hone)
    split at h
    · -- more items follow
      exact ih h hsound
    · -- the table ends
      cases h
      exact hsound
    · -- neither a comma nor the end of the table follows
      cases h

/-- A value has no name twice in a table if the values in it have not. -/
theorem value_distinct_of_inner {depth : Nat} {text rest : List Char} {found : Value}
    (h : value depth text = some (found, rest))
    (hinner : ∀ {inner text found rest}, depth = inner + 1 →
      value inner text = some (found, rest) → found.Distinct) : found.Distinct := by
  unfold value at h
  split at h
  -- texts and truth values
  iterate 4
    · obtain ⟨_, -, hfound⟩ := Option.map_eq_some_iff.mp h
      cases hfound
      exact Value.distinct_of_ne_table fun fields => nofun
  -- lists, which do not count
  · cases h
  · obtain ⟨_, -, hfound⟩ := Option.map_eq_some_iff.mp h
    cases hfound
    exact Value.distinct_of_ne_table fun fields => nofun
  -- tables
  · cases h
  · split at h
    · cases h
      exact Value.distinct_table .nil
    · obtain ⟨⟨items, _⟩, hitems, hfound⟩ := Option.map_eq_some_iff.mp h
      cases hfound
      exact Value.distinct_table (itemsToFields_sound (tableItems_sound (hinner rfl) hitems .nil))
  -- times and numbers
  · split at h
    · next htime =>
      cases h
      exact time_distinct htime
    · exact number_distinct h

/-- **A value** has no name twice in a table, however deep. -/
theorem value_distinct {depth : Nat} {text rest : List Char} {found : Value}
    (h : value depth text = some (found, rest)) : found.Distinct := by
  induction depth generalizing text found rest with
  | zero => exact value_distinct_of_inner h nofun
  | succ depth ih =>
    refine value_distinct_of_inner h ?_
    intro inner text found rest hdepth hvalue
    obtain rfl := Nat.succ.inj hdepth
    exact ih hvalue

/-! ### Documents, line by line -/

/-- No key stands twice in a table of the unfinished document. -/
structure State.Sound (state : State) : Prop where
  root : Table.Sound Item.Distinct state.root
  current : Table.Sound Item.Distinct state.current

theorem State.finish_sound {state : State} {items : Items} (h : state.finish = some items)
    (hstate : state.Sound) : Table.Sound Item.Distinct items := by
  unfold finish at h
  split at h
  · -- no header has been read, and the current table is the whole document
    cases h
    exact hstate.current
  · next path last hheader =>
    -- the current table goes to its place, in a list of tables or by its name
    refine descend_sound ?_ h hstate.root
    intro here items after hchange hitems
    split at hchange
    · -- the header is that of a table in a list
      split at hchange
      · next hnone =>
        -- the list begins with this table
        cases hchange
        refine hitems.concat hnone (.of_all_sound ?_)
        simpa using hstate.current
      · next tables hlookup =>
        -- the table is added to the list
        cases hchange
        refine hitems.set (.of_all_sound (List.forall_mem_cons.mpr ⟨hstate.current, ?_⟩))
        exact (hitems.of_lookup hlookup).all_sound
      · -- the name is taken by something else
        cases hchange
    · -- the header is that of a single table
      split at hchange
      · next hnone =>
        cases hchange
        exact hitems.concat hnone (.of_sound hstate.current)
      · -- the name is taken
        cases hchange

/-- What is found under a key below a path. -/
theorem itemAt?_distinct {items : Items} {path : List String} {last : String} {item : Item}
    (h : itemAt? items path last = some item) (hitems : Table.Sound Item.Distinct items) :
    item.Distinct := by
  induction path generalizing items with
  | nil => exact hitems.of_lookup h
  | cons key path ih =>
    rw [itemAt?] at h
    split at h
    · next hlookup =>
      -- the path goes on in a table
      exact ih h (hitems.of_lookup hlookup).sound
    · next hlookup =>
      -- it goes on in the last table of a list
      exact ih h ((hitems.of_lookup hlookup).all_sound _ List.mem_cons_self)
    · -- it ends before
      cases h

theorem State.beginTable_sound {state after : State} {path : List String} {last : String}
    (h : state.beginTable path last = some after) (hstate : state.Sound) : after.Sound := by
  obtain ⟨root, hfinish, h⟩ := Option.bind_eq_some_iff.mp h
  have hroot := finish_sound hfinish hstate
  split at h
  · next inside hitem =>
    -- what was implied is taken out of its place, and goes on as the current table
    obtain ⟨changed, hchanged, hafter⟩ := Option.bind_eq_some_iff.mp h
    cases hafter
    refine ⟨descend_sound ?_ hchanged hroot, (itemAt?_distinct hitem hroot).sound⟩
    intro here items after hchange hitems
    cases hchange
    exact hitems.erase
  · cases h
  · obtain ⟨changed, hchanged, hafter⟩ := Option.bind_eq_some_iff.mp h
    cases hafter
    refine ⟨descend_sound ?_ hchanged hroot, .nil⟩
    intro here items after hchange hitems
    cases hchange
    exact hitems

theorem State.beginListed_sound {state after : State} {path : List String} {last : String}
    (h : state.beginListed path last = some after) (hstate : state.Sound) : after.Sound := by
  obtain ⟨root, hfinish, h⟩ := Option.bind_eq_some_iff.mp h
  obtain ⟨changed, hchanged, hafter⟩ := Option.bind_eq_some_iff.mp h
  cases hafter
  refine ⟨descend_sound ?_ hchanged (finish_sound hfinish hstate), .nil⟩
  -- the change is a check: what passes it stays as it is
  intro here items after hchange hitems
  split at hchange <;>
  · cases hchange <;>
    exact hitems

/-- What a line does to the unfinished document: the header of a table begins it, by its name or in a
list, a setting goes into the current table, and a blank line or a remark does nothing. -/
inductive State.Line : State → State → Prop
  | table {state after : State} {path : List String} {last : String}
      (begun : state.beginTable path last = some after) : Line state after
  | listed {state after : State} {path : List String} {last : String}
      (begun : state.beginListed path last = some after) : Line state after
  | setting {state : State} {path : List String} {last : String} {text rest : List Char}
      {found : Value} {current : Items} (read : value depthLimit text = some (found, rest))
      (added : addSetting state.current path last found = some current) :
      Line state { state with current }
  | nothing (state : State) : Line state state

/-- A line keeps keys distinct, whatever it is. -/
theorem State.Line.sound {state after : State} (h : state.Line after) (hstate : state.Sound) :
    after.Sound := by
  cases h with
  | table begun =>
    -- the header of a table
    exact beginTable_sound begun hstate
  | listed begun =>
    -- the header of a table in a list
    exact beginListed_sound begun hstate
  | setting read added =>
    -- a key with its value
    exact ⟨hstate.root, addSetting_sound added hstate.current (value_distinct read)⟩
  | nothing =>
    -- nothing, or a comment
    exact hstate

/-- A document is read line by line. -/
theorem documentFrom_lines {fuel : Nat} {state after : State} {text : List Char}
    (h : documentFrom fuel state text = some after) :
    Relation.ReflTransGen State.Line state after := by
  induction fuel generalizing state text with
  | zero =>
    rw [documentFrom] at h
    split at h
    · cases h
      exact .refl
    · cases h
  | succ fuel ih =>
    rw [documentFrom] at h
    split at h
    · cases h
      exact .refl
    -- a table in a list
    · obtain ⟨⟨⟨path, last⟩, _⟩, -, h⟩ := Option.bind_eq_some_iff.mp h
      obtain ⟨_, -, h⟩ := Option.bind_eq_some_iff.mp h
      obtain ⟨_, -, h⟩ := Option.bind_eq_some_iff.mp h
      obtain ⟨begun, hbegun, h⟩ := Option.bind_eq_some_iff.mp h
      exact .head (.listed hbegun) (ih h)
    -- a table
    · obtain ⟨⟨⟨path, last⟩, _⟩, -, h⟩ := Option.bind_eq_some_iff.mp h
      obtain ⟨_, -, h⟩ := Option.bind_eq_some_iff.mp h
      obtain ⟨_, -, h⟩ := Option.bind_eq_some_iff.mp h
      obtain ⟨begun, hbegun, h⟩ := Option.bind_eq_some_iff.mp h
      exact .head (.table hbegun) (ih h)
    -- a remark
    · obtain ⟨_, -, h⟩ := Option.bind_eq_some_iff.mp h
      exact .head (.nothing state) (ih h)
    -- a blank line, or a setting
    · split at h
      · exact .head (.nothing state) (ih h)
      · obtain ⟨⟨⟨path, last⟩, _⟩, -, h⟩ := Option.bind_eq_some_iff.mp h
        obtain ⟨_, -, h⟩ := Option.bind_eq_some_iff.mp h
        obtain ⟨⟨found, _⟩, hfound, h⟩ := Option.bind_eq_some_iff.mp h
        obtain ⟨_, -, h⟩ := Option.bind_eq_some_iff.mp h
        obtain ⟨current, hcurrent, h⟩ := Option.bind_eq_some_iff.mp h
        exact .head (.setting hfound hcurrent) (ih h)

/-- Lines keep keys distinct, however many there are. -/
theorem State.Sound.of_lines {state after : State} (hstate : state.Sound)
    (hlines : Relation.ReflTransGen State.Line state after) : after.Sound := by
  induction hlines with
  | refl => exact hstate
  | tail _ hline hbefore => exact hline.sound hbefore

/-- **A document has no name twice in a table.** -/
theorem parse?_sound {text : String} {fields : List (String × Value)}
    (h : parse? text = some fields) : Table.Sound Value.Distinct fields := by
  obtain ⟨state, hstate, h⟩ := Option.bind_eq_some_iff.mp h
  obtain ⟨items, hitems, h⟩ := Option.bind_eq_some_iff.mp h
  cases h
  have hempty : State.Sound ⟨[], [], none, false⟩ := ⟨.nil, .nil⟩
  exact itemsToFields_sound (State.finish_sound hitems (hempty.of_lines (documentFrom_lines hstate)))

end Toml

/-- **A layer that is read from a file** has no name twice in a table. -/
theorem SettingsFile.layer_sound {world : World} {path : Path} {entries : Setting.Entries}
    (h : layer world path = .ok entries) : Table.Sound Setting.Distinct entries := by
  unfold layer at h
  split at h
  · -- there is no such file
    cases h
    exact .nil
  · split at h
    · -- the file cannot be read
      cases h
    · split at h
      · -- the text is no document
        cases h
      · next hparse =>
        cases h
        exact Toml.fieldSettings_sound (Toml.parse?_sound hparse) _

end SchemaBuild
