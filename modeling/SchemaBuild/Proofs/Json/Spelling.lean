import Mathlib.Data.List.TakeWhile
import SchemaBuild.Proofs.Json.Printed

/-!
# Spellings of a document

A document can be written in many ways: blanks may stand around each of its parts, and a string has many
literals. `Json.Spells` says which texts are a document, without asking how they are read; the two ways
of writing a document, on one line and over several, are among them.

* `Json.Spells`, `Json.SpellsDocument` — the text is the document, alone or with blanks around it;
* `Json.compact_spells`, `Json.pretty_spells` — what is written spells the document.
-/

namespace SchemaBuild.Json

/-! ### Blanks -/

/-- There are blanks only. -/
def AreBlank (text : List Char) : Prop := ∀ c ∈ text, isBlank c = true

instance : DecidablePred AreBlank := fun text =>
  decidable_of_iff (text.all isBlank = true) List.all_eq_true

theorem areBlank_nil : AreBlank [] := List.forall_mem_nil _

theorem areBlank_space : AreBlank [' '] := by decide

theorem areBlank_newLine (level : Nat) : AreBlank (newLine level) := by
  intro c hmem
  obtain rfl | hspace := List.mem_cons.mp hmem
  · rfl
  · rw [List.eq_of_mem_replicate hspace]
    rfl

theorem skipBlanks_append {blanks : List Char} (h : AreBlank blanks) (text : List Char) :
    skipBlanks (blanks ++ text) = skipBlanks text :=
  List.dropWhile_append_of_pos h

theorem skipBlanks_cons {c : Char} (h : isBlank c = false) (text : List Char) :
    skipBlanks (c :: text) = c :: text := by
  rw [skipBlanks, List.dropWhile_cons, h, if_neg Bool.false_ne_true]

/-- Nothing is left without its blanks if there are blanks only. -/
theorem isEmpty_skipBlanks_iff {text : List Char} :
    (skipBlanks text).isEmpty = true ↔ AreBlank text := by
  rw [List.isEmpty_iff, skipBlanks, List.dropWhile_eq_nil_iff]
  rfl

/-- A text is some blanks and what is left without them. -/
theorem exists_blanks (text : List Char) :
    ∃ blanks, AreBlank blanks ∧ text = blanks ++ skipBlanks text := by
  refine ⟨text.takeWhile isBlank, ?_, List.takeWhile_append_dropWhile.symm⟩
  exact List.all_eq_true.mp List.all_takeWhile

/-! ### Spellings -/

/-- The comma before every part of a list but the first. -/
def comma (first : Bool) : List Char := if first then [] else [',']

mutual

/-- **The text spells the document**, with blanks between its parts. -/
inductive Spells : Json → List Char → Prop
  | null : Spells .null "null".toList
  | bool (value : Bool) : Spells (.bool value) (boolWord value)
  | string {literal : List Char} {text : String} (h : Denotes literal text.toList) :
      Spells (.string text) ('"' :: (literal ++ ['"']))
  | array {items : List Json} {inside : List Char} (h : SpellsItems true items inside) :
      Spells (.array items) ('[' :: (inside ++ [']']))
  | object {fields : List (String × Json)} {inside : List Char} (h : SpellsFields true fields inside) :
      Spells (.object fields) ('\x7b' :: (inside ++ ['\x7d']))

/-- The text spells items, the first of which has a comma before it unless it is the first of all. -/
inductive SpellsItems : Bool → List Json → List Char → Prop
  | nil {first : Bool} {blanks : List Char} (h : AreBlank blanks) : SpellsItems first [] blanks
  | cons {first : Bool} {gap front text texts : List Char} {item : Json} {items : List Json}
      (hgap : AreBlank gap) (hfront : AreBlank front) (hitem : Spells item text)
      (hitems : SpellsItems false items texts) :
      SpellsItems first (item :: items) (gap ++ (comma first ++ (front ++ (text ++ texts))))

/-- The text spells fields, the first of which has a comma before it unless it is the first of all. -/
inductive SpellsFields : Bool → List (String × Json) → List Char → Prop
  | nil {first : Bool} {blanks : List Char} (h : AreBlank blanks) : SpellsFields first [] blanks
  | cons {first : Bool} {gap front literal behind before text texts : List Char} {name : String}
      {value : Json} {fields : List (String × Json)} (hgap : AreBlank gap) (hfront : AreBlank front)
      (hname : Denotes literal name.toList) (hbehind : AreBlank behind) (hbefore : AreBlank before)
      (hvalue : Spells value text) (hfields : SpellsFields false fields texts) :
      SpellsFields first ((name, value) :: fields)
        (gap ++ (comma first ++ (front ++ '"' :: (literal ++ '"' :: (behind ++ ':' ::
          (before ++ (text ++ texts)))))))

end

/-- **The text is the document**, with blanks around it. -/
def SpellsDocument (json : Json) (text : String) : Prop :=
  ∃ front inside back, AreBlank front ∧ Spells json inside ∧ AreBlank back ∧
    text.toList = front ++ (inside ++ back)

/-- What spells a document begins with the mark of its kind. -/
theorem Spells.exists_mark {json : Json} {text : List Char} (h : Spells json text) :
    ∃ behind, text = json.mark :: behind := by
  cases h with
  | null => exact ⟨_, rfl⟩
  | bool value => cases value <;> exact ⟨_, rfl⟩
  | string _ => exact ⟨_, rfl⟩
  | array _ => exact ⟨_, rfl⟩
  | object _ => exact ⟨_, rfl⟩

/-! ### What is written -/

/-- A string with its quotes spells itself. -/
theorem spells_quoted (text : String) : Spells (.string text) (quoted text) :=
  .string (denotes_escaped text.toList)

/-- An item that is written without blanks before its comma. -/
theorem SpellsItems.item {first : Bool} {front text texts : List Char} {item : Json}
    {items : List Json} (hfront : AreBlank front) (hitem : Spells item text)
    (hitems : SpellsItems false items texts) :
    SpellsItems first (item :: items) (comma first ++ (front ++ (text ++ texts))) :=
  .cons areBlank_nil hfront hitem hitems

/-- A field that is written without blanks before its comma and its colon. -/
theorem SpellsFields.field {first : Bool} {front before text texts : List Char} {name : String}
    {value : Json} {fields : List (String × Json)} (hfront : AreBlank front)
    (hbefore : AreBlank before) (hvalue : Spells value text)
    (hfields : SpellsFields false fields texts) :
    SpellsFields first ((name, value) :: fields)
      (comma first ++ (front ++ (quoted name ++ ':' :: (before ++ (text ++ texts))))) := by
  have hspells : SpellsFields first ((name, value) :: fields) _ :=
    .cons areBlank_nil hfront (denotes_escaped name.toList) areBlank_nil hbefore hvalue hfields
  simpa [quoted] using hspells

mutual

/-- The document on one line. -/
theorem spells_compactChars : (json : Json) → Spells json json.compactChars
  | .null => .null
  | .bool value => .bool value
  | .string text => spells_quoted text
  | .array [] => .array (.nil areBlank_nil)
  | .array (item :: items) => .array (spells_compactItems (item :: items) (List.cons_ne_nil _ _) true)
  | .object [] => .object (.nil areBlank_nil)
  | .object (field :: fields) =>
    .object (spells_compactFields (field :: fields) (List.cons_ne_nil _ _) true)

theorem spells_compactItems : (items : List Json) → items ≠ [] → (first : Bool) →
    SpellsItems first items (comma first ++ compactItems items)
  | [], hne, _ => absurd rfl hne
  | [item], _, first => by
    have hlast : SpellsItems first [item] _ :=
      .item areBlank_nil (spells_compactChars item) (.nil areBlank_nil)
    rwa [List.append_nil] at hlast
  | item :: next :: items, _, first =>
    .item areBlank_nil (spells_compactChars item)
      (spells_compactItems (next :: items) (List.cons_ne_nil _ _) false)

theorem spells_compactFields : (fields : List (String × Json)) → fields ≠ [] → (first : Bool) →
    SpellsFields first fields (comma first ++ compactFields fields)
  | [], hne, _ => absurd rfl hne
  | [(name, value)], _, first => by
    have hlast : SpellsFields first [(name, value)] _ :=
      .field areBlank_nil areBlank_nil (spells_compactChars value) (.nil areBlank_nil)
    rwa [List.append_nil] at hlast
  | (name, value) :: next :: fields, _, first =>
    .field areBlank_nil areBlank_nil (spells_compactChars value)
      (spells_compactFields (next :: fields) (List.cons_ne_nil _ _) false)

end

mutual

/-- The document over several lines. -/
theorem spells_prettyChars (level : Nat) : (json : Json) → Spells json (json.prettyChars level)
  | .null => .null
  | .bool value => .bool value
  | .string text => spells_quoted text
  | .array [] => .array (.nil areBlank_nil)
  | .array (item :: items) => .array (spells_prettyItems (level + 1) (areBlank_newLine level)
      (item :: items) (List.cons_ne_nil _ _) true)
  | .object [] => .object (.nil areBlank_nil)
  | .object (field :: fields) => .object (spells_prettyFields (level + 1) (areBlank_newLine level)
      (field :: fields) (List.cons_ne_nil _ _) true)

theorem spells_prettyItems (level : Nat) {back : List Char} (hback : AreBlank back) :
    (items : List Json) → items ≠ [] → (first : Bool) →
    SpellsItems first items (comma first ++ (prettyItems level items ++ back))
  | [], hne, _ => absurd rfl hne
  | [item], _, first => by
    rw [prettyItems_singleton]
    exact .item (areBlank_newLine level) (spells_prettyChars level item) (.nil hback)
  | item :: next :: items, _, first => by
    rw [prettyItems_cons_cons]
    exact .item (areBlank_newLine level) (spells_prettyChars level item)
      (spells_prettyItems level hback (next :: items) (List.cons_ne_nil _ _) false)

theorem spells_prettyFields (level : Nat) {back : List Char} (hback : AreBlank back) :
    (fields : List (String × Json)) → fields ≠ [] → (first : Bool) →
    SpellsFields first fields (comma first ++ (prettyFields level fields ++ back))
  | [], hne, _ => absurd rfl hne
  | [(name, value)], _, first => by
    rw [prettyFields_singleton]
    exact .field (areBlank_newLine level) areBlank_space (spells_prettyChars level value)
      (.nil hback)
  | (name, value) :: next :: fields, _, first => by
    rw [prettyFields_cons_cons]
    exact .field (areBlank_newLine level) areBlank_space (spells_prettyChars level value)
      (spells_prettyFields level hback (next :: fields) (List.cons_ne_nil _ _) false)

end

/-- **What is written on one line** spells the document. -/
theorem compact_spells (json : Json) : SpellsDocument json json.compact := by
  refine ⟨[], json.compactChars, [], areBlank_nil, spells_compactChars json, areBlank_nil, ?_⟩
  rw [compact, String.toList_ofList, List.nil_append, List.append_nil]

/-- **What is written over several lines** spells the document. -/
theorem pretty_spells (json : Json) : SpellsDocument json json.pretty := by
  refine ⟨[], json.prettyChars 0, [], areBlank_nil, spells_prettyChars 0 json, areBlank_nil, ?_⟩
  rw [pretty, String.toList_ofList, List.nil_append, List.append_nil]

end SchemaBuild.Json
