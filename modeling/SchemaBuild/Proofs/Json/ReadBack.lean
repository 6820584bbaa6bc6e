import Mathlib.Data.List.Forall2
import SchemaBuild.Proofs.Json.Spelling

/-!
# Reading back what was written

A document is read by the reader of its shape, however it is spelled and whatever stands behind it. The
readers go from left to right, so what is said of a reader is said with any rest: then it can be used for
a document inside another one.

* `Json.Reads` — a reader takes a document off the front of any text, as this value;
* `Json.readString_eq_ok_iff` — the reader of strings takes strings, and nothing else;
* `Json.Fills` — fields that fill a record, one after the other;
* `Json.readList_reads`, `Json.readOption_reads`, `Json.Fills.reads` — lists, optional values and records
  are read if their parts are;
* `Json.Reads.readDocument` — what is read is read as a whole document.
-/

namespace SchemaBuild.Json

variable {α σ : Type}

/-- **Reading back**: the reader takes the document off the front of any text, however it is spelled. -/
def Reads (reader : Reader α) (json : Json) (value : α) : Prop :=
  ∀ ⦃blanks text : List Char⦄, AreBlank blanks → Spells json text →
    ∀ rest, reader (blanks ++ (text ++ rest)) = .ok (value, rest)

/-- A value is a whole document if nothing but blanks is left behind it. -/
theorem readDocument_eq_ok_iff {reader : Reader α} {text : String} {value : α} :
    readDocument reader text = .ok value ↔
      ∃ rest, reader text.toList = .ok (value, rest) ∧ AreBlank rest := by
  unfold readDocument
  cases reader text.toList with
  | error error => exact ⟨nofun, by rintro ⟨_, ⟨⟩, -⟩⟩
  | ok read =>
    obtain ⟨found, rest⟩ := read
    simp only [bind, Except.bind]
    constructor
    · intro h
      split at h
      · next hempty =>
        -- the rest is nothing but blanks
        cases h
        exact ⟨rest, rfl, isEmpty_skipBlanks_iff.mp hempty⟩
      · -- something else is left
        cases h
    · -- a rest of blanks is all passed over
      rintro ⟨_, ⟨⟩, hblanks⟩
      exact if_pos (isEmpty_skipBlanks_iff.mpr hblanks)

/-- A document alone is read as a whole. -/
theorem Reads.readDocument {reader : Reader α} {json : Json} {value : α} (h : Reads reader json value)
    {text : String} (htext : SpellsDocument json text) : readDocument reader text = .ok value := by
  obtain ⟨front, inside, back, hfront, hinside, hback, htext⟩ := htext
  exact readDocument_eq_ok_iff.mpr ⟨back, by rw [htext, h hfront hinside back], hback⟩

/-! ### Values that hold no others -/

theorem unexpected_ne_ok (expected : String) (text : List Char) (value : α) :
    unexpected expected text ≠ .ok value := by
  unfold unexpected
  cases describe text <;> nofun

/-- **Strings**: the reader takes one off the front of a text, and nothing else. -/
theorem readString_eq_ok_iff {expected : String} {text : List Char} {found : String}
    {rest : List Char} :
    readString expected text = .ok (found, rest) ↔
      ∃ blanks inside, AreBlank blanks ∧ Spells (.string found) inside ∧
        text = blanks ++ (inside ++ rest) := by
  constructor
  · -- what was read begins behind the blanks with a quote
    intro h
    obtain ⟨blanks, hblanks, htext⟩ := exists_blanks text
    unfold readString at h
    split at h
    · next behind hskipped =>
      obtain ⟨literal, denoted, hdenotes, rfl, rfl⟩ := closesAs_of_readStringFrom h
      refine ⟨blanks, '"' :: (literal ++ ['"']), hblanks, .string ?_, ?_⟩
      · rwa [String.toList_ofList]
      · rw [htext, hskipped]
        simp
    · -- without a quote nothing is read
      exact absurd h (unexpected_ne_ok _ _ _)
  · -- the reader passes over the blanks and the quote, and takes the literal
    rintro ⟨blanks, inside, hblanks, hinside, rfl⟩
    cases hinside with
    | string hdenotes =>
      rw [readString, skipBlanks_append hblanks, List.cons_append, List.append_assoc,
        List.singleton_append, skipBlanks_cons rfl]
      exact (hdenotes.readStringFrom [] rest).trans (by simp)

theorem readString_reads (expected text : String) : Reads (readString expected) (.string text) text :=
  fun _ _ hblanks hspells _ => readString_eq_ok_iff.mpr ⟨_, _, hblanks, hspells, rfl⟩

theorem readBool_reads (value : Bool) : Reads readBool (.bool value) value := by
  intro blanks text hblanks hspells rest
  cases hspells
  rw [readBool, skipBlanks_append hblanks]
  cases value <;> rfl

/-- Words are read as what they stand for. -/
theorem readWord_reads {words : List (String × α)} {word : String} {value : α}
    (h : words.lookup word = some value) : Reads (readWord words) (.string word) value := by
  intro blanks text hblanks hspells rest
  cases hspells with
  | string hdenotes =>
    rw [readWord, skipBlanks_append hblanks, List.cons_append, List.append_assoc,
      List.singleton_append, skipBlanks_cons rfl]
    show readWord.named words _ = _
    unfold readWord.named
    rw [hdenotes.readStringFrom]
    simp only [bind, Except.bind, List.reverse_nil, List.nil_append, String.ofList_toList, h]
    rfl

/-! ### Lists and optional values -/

/-- What is no blank and no closing bracket is the beginning of the next part of a list. -/
theorem nextItem_part {close c : Char} (hblank : isBlank c = false) (hclose : c ≠ close)
    (hcomma : close ≠ ',') (first : Bool) {gap front : List Char} (hgap : AreBlank gap)
    (hfront : AreBlank front) (text : List Char) :
    nextItem close first (gap ++ (comma first ++ (front ++ c :: text))) = .ok (some (c :: text)) := by
  unfold nextItem
  rw [skipBlanks_append hgap]
  cases first with
  | true =>
    -- the first part has no comma before it
    rw [comma, if_pos rfl, List.nil_append, skipBlanks_append hfront, skipBlanks_cons hblank]
    dsimp only
    rw [if_neg hclose, if_pos rfl]
  | false =>
    -- any other part has one
    rw [comma, if_neg Bool.false_ne_true, List.singleton_append, skipBlanks_cons rfl]
    dsimp only
    rw [if_neg (Ne.symm hcomma), if_neg Bool.false_ne_true, if_pos rfl, skipBlanks_append hfront,
      skipBlanks_cons hblank]
    dsimp only
    rw [if_neg hclose]

/-- The closing bracket ends a list. -/
theorem nextItem_close {close : Char} (hblank : isBlank close = false) (first : Bool)
    {blanks : List Char} (h : AreBlank blanks) (rest : List Char) :
    nextItem close first (blanks ++ close :: rest) = .ok none := by
  rw [nextItem, skipBlanks_append h, skipBlanks_cons hblank]
  exact if_pos rfl

theorem afterClose_append {close : Char} (hblank : isBlank close = false) {blanks : List Char}
    (h : AreBlank blanks) (rest : List Char) :
    afterClose close (blanks ++ close :: rest) = .ok ((), rest) := by
  rw [afterClose, skipBlanks_append h, skipBlanks_cons hblank]
  exact if_pos rfl

/-- The mark of a document is no blank and closes nothing. -/
theorem mark_opens (json : Json) :
    isBlank json.mark = false ∧ json.mark ≠ ']' ∧ json.mark ≠ '\x7d' := by
  cases json with
  | bool value => cases value <;> simp [mark, isBlank]
  | _ => simp [mark, isBlank]

/-- **Items** that are read one by one are read up to the closing bracket. -/
theorem readItems_reads {reader : Reader α} {items : List Json} {values : List α}
    (h : List.Forall₂ (Reads reader) items values) (done : List α) {inside : List Char}
    (hinside : SpellsItems done.isEmpty items inside) {fuel : Nat} (hfuel : items.length < fuel)
    (rest : List Char) :
    readItems reader fuel done (inside ++ ']' :: rest) = .ok (done.reverse ++ values, rest) := by
  -- on the items and their values at once; whether a comma comes first is told by what has been read
  induction h generalizing done inside fuel with
  | nil =>
    obtain ⟨fuel, rfl⟩ := Nat.exists_eq_succ_of_ne_zero (Nat.ne_of_gt hfuel)
    cases hinside with
    | nil hblanks =>
      -- nothing but blanks comes before the closing bracket
      have hclosed := afterClose_append (show isBlank ']' = false from rfl) hblanks rest
      rw [readItems, nextItem_close rfl _ hblanks]
      simp only [bind, Except.bind, hclosed, List.append_nil]
      rfl
  | @cons item value items values hitem _ ih =>
    obtain ⟨fuel, rfl⟩ := Nat.exists_eq_succ_of_ne_zero (Nat.ne_of_gt (Nat.zero_lt_of_lt hfuel))
    cases hinside with
    | @cons _ gap front text texts _ _ hgap hfront hspells hitems =>
      -- the item is read behind its comma, and the others behind it
      obtain ⟨hblank, hclose, -⟩ := mark_opens item
      have hread := hitem areBlank_nil hspells (texts ++ ']' :: rest)
      have hmore : readItems reader fuel (value :: done) (texts ++ ']' :: rest)
          = .ok ((value :: done).reverse ++ values, rest) :=
        ih (value :: done) hitems (Nat.lt_of_succ_lt_succ hfuel)
      obtain ⟨behind, rfl⟩ := hspells.exists_mark
      simp only [List.append_assoc, List.cons_append, List.nil_append] at hread ⊢
      rw [readItems, nextItem_part hblank hclose (by decide) _ hgap hfront]
      simp only [bind, Except.bind, hread, hmore, List.reverse_cons, List.append_assoc,
        List.singleton_append]

/-- Every item takes a character at least. -/
theorem SpellsItems.length_le {first : Bool} {items : List Json} {inside : List Char}
    (h : SpellsItems first items inside) : items.length ≤ inside.length := by
  induction items generalizing first inside with
  | nil => exact Nat.zero_le _
  | cons item items ih =>
    cases h with
    | cons _ _ hitem hitems =>
      obtain ⟨behind, rfl⟩ := hitem.exists_mark
      have hlength := ih hitems
      simp only [List.length_cons, List.length_append]
      omega

/-- **A list is read** if its items are. -/
theorem readList_reads {reader : Reader α} {items : List Json} {values : List α}
    (h : List.Forall₂ (Reads reader) items values) : Reads (readList reader) (.array items) values := by
  intro blanks text hblanks hspells rest
  cases hspells with
  | @array _ inside hinside =>
    have hlength := hinside.length_le
    rw [readList, skipBlanks_append hblanks, List.cons_append, List.append_assoc,
      List.singleton_append, skipBlanks_cons rfl]
    refine readItems_reads h [] hinside ?_ rest
    rw [List.length_append]
    omega

theorem readOption_null (reader : Reader α) : Reads (readOption reader) .null none := by
  intro blanks text hblanks hspells rest
  cases hspells
  rw [readOption, skipBlanks_append hblanks]
  rfl

/-- **A value that may be missing** is read if it is there and is not written like a missing one. -/
theorem readOption_reads {reader : Reader α} {json : Json} {value : α} (h : Reads reader json value)
    (hmark : json.mark ≠ 'n') : Reads (readOption reader) json (some value) := by
  intro blanks text hblanks hspells rest
  have hread := h areBlank_nil hspells rest
  -- only a document that begins like `null` could be taken for a missing value
  obtain ⟨behind, rfl⟩ := hspells.exists_mark
  rw [List.nil_append, List.cons_append] at hread
  rw [readOption, skipBlanks_append hblanks, List.cons_append, skipBlanks_cons (mark_opens json).1]
  split
  · next hn => exact absurd (List.cons.inj hn).1 hmark
  · rw [hread]
    rfl

/-! ### Records -/

/-- **Fields that fill a record**: each has a name that the record knows and that has not come before,
and its value is read into the record. -/
inductive Fills (fields : List (Field σ)) : σ → List (String × Json) → σ → Prop
  | nil (record : σ) : Fills fields record [] record
  | cons {record between final : σ} {field : Field σ} {json : Json}
      {entries : List (String × Json)}
      (known : fields.find? (·.name = field.name) = some field)
      (unset : field.isSet record = false)
      (reads : Reads (field.read record) json between)
      (later : Fills fields between entries final) :
      Fills fields record ((field.name, json) :: entries) final

/-- **Fields that fill a record** are read into it, up to the closing brace. -/
theorem Fills.readFields {fields : List (Field σ)} {record final : σ}
    {entries : List (String × Json)} (h : Fills fields record entries final)
    (hdone : ∀ field ∈ fields, field.optional = true ∨ field.isSet final = true) {first : Bool}
    {inside : List Char} (hinside : SpellsFields first entries inside) {fuel : Nat}
    (hfuel : entries.length < fuel) (rest : List Char) :
    readFields fields fuel first record (inside ++ '\x7d' :: rest) = .ok (final, rest) := by
  induction h generalizing fuel first inside with
  | nil record =>
    obtain ⟨fuel, rfl⟩ := Nat.exists_eq_succ_of_ne_zero (Nat.ne_of_gt hfuel)
    -- nothing is missing
    have hnone : fields.find? (fun field => !field.optional && !field.isSet record) = none := by
      rw [List.find?_eq_none]
      intro field hmem
      obtain hoptional | hset := hdone field hmem
      · -- the field may be missing
        simp [hoptional]
      · -- the field is set
        simp [hset]
    cases hinside with
    | nil hblanks =>
      -- nothing but blanks comes before the closing brace
      have hclosed := afterClose_append (show isBlank '\x7d' = false from rfl) hblanks rest
      rw [Json.readFields, nextItem_close rfl _ hblanks]
      simp only [bind, Except.bind, hnone, hclosed]
      rfl
  | @cons record between final field json entries known unset reads _ ih =>
    obtain ⟨fuel, rfl⟩ := Nat.exists_eq_succ_of_ne_zero (Nat.ne_of_gt (Nat.zero_lt_of_lt hfuel))
    cases hinside with
    -- the name, the colon and the value are read in turn, and the other fields behind them
    | @cons _ gap front literal behind before text texts _ _ _ hgap hfront hname hbehind hbefore
        hvalue hentries =>
      have hcolon : isBlank ':' = false := rfl
      have hread := reads hbefore hvalue (texts ++ '\x7d' :: rest)
      have hmore := ih hdone hentries (Nat.lt_of_succ_lt_succ hfuel)
      simp only [List.append_assoc, List.cons_append]
      rw [Json.readFields, nextItem_part rfl (by decide) (by decide) _ hgap hfront]
      simp only [bind, Except.bind, hname.readStringFrom, List.reverse_nil, List.nil_append,
        String.ofList_toList, known, unset, afterClose_append hcolon hbehind, hread, hmore]
      rfl

/-- Every field takes a character at least. -/
theorem SpellsFields.length_le {first : Bool} {fields : List (String × Json)} {inside : List Char}
    (h : SpellsFields first fields inside) : fields.length ≤ inside.length := by
  induction fields generalizing first inside with
  | nil => exact Nat.zero_le _
  | cons field fields ih =>
    cases h with
    | cons _ _ _ _ _ _ hfields =>
      have hlength := ih hfields
      simp only [List.length_cons, List.length_append]
      omega

/-- **A record is read** from an object whose fields fill it. -/
theorem Fills.reads {fields : List (Field σ)} {empty final : σ} {entries : List (String × Json)}
    (h : Fills fields empty entries final)
    (hdone : ∀ field ∈ fields, field.optional = true ∨ field.isSet final = true)
    (expected : String) : Reads (readRecord expected fields empty) (.object entries) final := by
  intro blanks text hblanks hspells rest
  cases hspells with
  | @object _ inside hinside =>
    have hlength := hinside.length_le
    rw [readRecord, skipBlanks_append hblanks, List.cons_append, List.append_assoc,
      List.singleton_append, skipBlanks_cons rfl]
    refine h.readFields hdone hinside ?_ rest
    rw [List.length_append]
    omega

/-- What a field of a record reads is put into the record. -/
theorem Reads.field {reader : Reader α} {json : Json} {value : α} (h : Reads reader json value)
    (name : String) (optional : Bool) (part : σ → Option α) (put : σ → α → σ) (record : σ) :
    Reads ((Json.field name optional part put reader).read record) json (put record value) := by
  intro blanks text hblanks hspells rest
  show (reader (blanks ++ (text ++ rest)) >>= fun read => Except.ok (put record read.1, read.2)) = _
  rw [h hblanks hspells rest]
  rfl

end SchemaBuild.Json
