import SchemaBuild.Proofs.Json.Literals

/-!
# What a printed document says

A document that is printed over several lines can be told from every other one, and so can its end:
whatever stands behind it, there is one document only that a text begins with. So it makes sense to
speak of *the* document that was printed.

The end of a string is the first quote without a backslash, which the reader of strings finds
(`Json.quoted_append_inj`), and everything else in a document is told by its first character.

* `Json.prettyChars_append_inj` — a text begins with one printed document at most;
* `Json.pretty_injective` — no two documents are printed alike.
-/

namespace SchemaBuild.Json

/-- The first character of a document tells which kind of value it is. -/
def mark : Json → Char
  | .null => 'n'
  | .bool value => if value then 't' else 'f'
  | .string _ => '"'
  | .array _ => '['
  | .object _ => '\x7b'

/-- A printed document begins with the mark of its kind. -/
theorem head?_prettyChars (level : Nat) (json : Json) (rest : List Char) :
    (json.prettyChars level ++ rest).head? = some json.mark := by
  cases json with
  | null => rfl
  | bool value => cases value <;> rfl
  | string text => rfl
  | array items => cases items <;> rfl
  | object fields => cases fields <;> rfl

/-- Documents that are printed alike are of one kind. -/
theorem mark_eq_of_prettyChars {level : Nat} {a b : Json} {x y : List Char}
    (h : a.prettyChars level ++ x = b.prettyChars level ++ y) : a.mark = b.mark := by
  have heads : some a.mark = some b.mark := by
    rw [← head?_prettyChars level a x, ← head?_prettyChars level b y, h]
  exact Option.some.inj heads

/-- One item is printed on a line of its own. -/
theorem prettyItems_singleton (level : Nat) (item : Json) (rest : List Char) :
    prettyItems level [item] ++ rest = newLine level ++ (item.prettyChars level ++ rest) := by
  rw [prettyItems, List.append_assoc]

/-- The first of several items is followed by a comma. -/
theorem prettyItems_cons_cons (level : Nat) (item next : Json) (items : List Json)
    (rest : List Char) :
    prettyItems level (item :: next :: items) ++ rest
      = newLine level ++ (item.prettyChars level
        ++ ',' :: (prettyItems level (next :: items) ++ rest)) := by
  rw [prettyItems, List.append_assoc, List.append_assoc, List.cons_append]
  · nofun

/-- One field is printed on a line of its own. -/
theorem prettyFields_singleton (level : Nat) (name : String) (value : Json) (rest : List Char) :
    prettyFields level [(name, value)] ++ rest
      = newLine level ++ (quoted name ++ ':' :: ' ' :: (value.prettyChars level ++ rest)) := by
  simp [prettyFields]

/-- The first of several fields is followed by a comma. -/
theorem prettyFields_cons_cons (level : Nat) (name : String) (value : Json)
    (next : String × Json) (fields : List (String × Json)) (rest : List Char) :
    prettyFields level ((name, value) :: next :: fields) ++ rest
      = newLine level ++ (quoted name ++ ':' :: ' ' :: (value.prettyChars level
        ++ ',' :: (prettyFields level (next :: fields) ++ rest))) := by
  rw [prettyFields]
  · simp
  · nofun

/-- The marks of documents that hold no others are their own. -/
theorem eq_of_mark {a b : Json} (ha : a = .null ∨ ∃ value, a = .bool value)
    (h : a.mark = b.mark) : a = b := by
  obtain rfl | ⟨value, rfl⟩ := ha
  · -- `null` has a mark of its own
    cases b with
    | null => rfl
    | bool other => cases other <;> cases h
    | _ => cases h
  · -- so has each of the two truth values
    cases b with
    | bool other =>
      have hsame : value = other := by
        revert h
        cases value <;> cases other <;> decide
      rw [hsame]
    | _ => cases value <;> cases h

/-- What has the mark of a string is one. -/
theorem exists_string_of_mark {json : Json} (h : '"' = json.mark) : ∃ text, json = .string text := by
  cases json with
  | string text => exact ⟨text, rfl⟩
  | bool value => cases value <;> cases h
  | _ => cases h

/-- What has the mark of a list is one. -/
theorem exists_array_of_mark {json : Json} (h : '[' = json.mark) : ∃ items, json = .array items := by
  cases json with
  | array items => exact ⟨items, rfl⟩
  | bool value => cases value <;> cases h
  | _ => cases h

/-- What has the mark of an object is one. -/
theorem exists_object_of_mark {json : Json} (h : '\x7b' = json.mark) :
    ∃ fields, json = .object fields := by
  cases json with
  | object fields => exact ⟨fields, rfl⟩
  | bool value => cases value <;> cases h
  | _ => cases h

/-- What stands in a pair of brackets, and what is behind them: nothing stands in them, or `lines` and a
line with the closing bracket. -/
def bracketed {α : Type} (start close : Char) (lines : List α → List Char) (level : Nat)
    (parts : List α) (rest : List Char) : List Char :=
  match parts with
  | [] => start :: close :: rest
  | part :: parts =>
    start :: (lines (part :: parts) ++ '\n' :: (List.replicate (2 * level) ' ' ++ close :: rest))

/-- A list is printed in brackets, -/
theorem prettyChars_array (level : Nat) (items : List Json) (rest : List Char) :
    (Json.array items).prettyChars level ++ rest
      = bracketed '[' ']' (prettyItems (level + 1)) level items rest := by
  cases items with
  | nil => rfl
  | cons item items =>
    rw [prettyChars]
    · -- there is an item, so the brackets stand on lines of their own
      simp [bracketed, newLine]
    · nofun

/-- and an object in braces. -/
theorem prettyChars_object (level : Nat) (fields : List (String × Json)) (rest : List Char) :
    (Json.object fields).prettyChars level ++ rest
      = bracketed '\x7b' '\x7d' (prettyFields (level + 1)) level fields rest := by
  cases fields with
  | nil => rfl
  | cons field fields =>
    -- there is a field, so the braces stand on lines of their own
    rw [prettyChars]
    · simp [bracketed, newLine]
    · nofun

/-- Items begin with a line end, which no bracket does. -/
theorem head?_prettyItems (level : Nat) (item : Json) (items : List Json) (rest : List Char) :
    (prettyItems level (item :: items) ++ rest).head? = some '\n' := by
  cases items <;> rfl

/-- Fields begin with a line end, which no brace does. -/
theorem head?_prettyFields (level : Nat) (field : String × Json) (fields : List (String × Json))
    (rest : List Char) : (prettyFields level (field :: fields) ++ rest).head? = some '\n' := by
  obtain ⟨name, value⟩ := field
  cases fields <;> rfl

/-- Lines are not taken for a closing bracket. -/
theorem bracketed_nil_ne_cons {α : Type} {start close : Char} {lines : List α → List Char}
    {level : Nat} {part : α} {parts : List α} {x y : List Char} (hclose : close ≠ '\n')
    (hlines : ∀ rest, (lines (part :: parts) ++ rest).head? = some '\n') :
    bracketed start close lines level [] x ≠ bracketed start close lines level (part :: parts) y := by
  intro h
  have hhead := congrArg List.head? (List.tail_eq_of_cons_eq h)
  rw [hlines] at hhead
  exact hclose (Option.some.inj hhead)

/-- Between brackets there is one thing at most, if this is so for what stands on the lines between
them. -/
theorem bracketed_inj {α : Type} {start close : Char} {lines : List α → List Char} {level : Nat}
    {as bs : List α} {x y : List Char} (hclose : close ≠ '\n')
    (hlines : ∀ part parts rest, (lines (part :: parts) ++ rest).head? = some '\n')
    (hparts : ∀ x y, as ≠ [] → bs ≠ [] → lines as ++ '\n' :: x = lines bs ++ '\n' :: y →
      as = bs ∧ x = y)
    (h : bracketed start close lines level as x = bracketed start close lines level bs y) :
    as = bs ∧ x = y := by
  cases as with
  | nil =>
    cases bs with
    | nil =>
      -- both are empty, and the brackets are cancelled
      exact ⟨rfl, List.tail_eq_of_cons_eq (List.tail_eq_of_cons_eq h)⟩
    | cons b bs =>
      -- one is empty: its closing bracket is no line end, with which parts begin
      exact absurd h (bracketed_nil_ne_cons hclose (hlines b bs))
  | cons a as =>
    cases bs with
    | nil => exact absurd h.symm (bracketed_nil_ne_cons hclose (hlines a as))
    | cons b bs =>
      -- both have parts, which stand between the same brackets
      obtain ⟨hsame, hrest⟩ := hparts _ _ (List.cons_ne_nil _ _) (List.cons_ne_nil _ _)
        (List.tail_eq_of_cons_eq h)
      exact ⟨hsame, List.tail_eq_of_cons_eq (List.append_cancel_left hrest)⟩

mutual

/-- A text begins with one printed document at most. -/
theorem prettyChars_append_inj {level : Nat} {x y : List Char} : (a b : Json) →
    a.prettyChars level ++ x = b.prettyChars level ++ y → a = b ∧ x = y
  | .null, b, h => by
    -- where one value is told by its mark, the whole is that mark
    obtain rfl := eq_of_mark (.inl rfl) (mark_eq_of_prettyChars h)
    exact ⟨rfl, List.append_cancel_left h⟩
  | .bool value, b, h => by
    obtain rfl := eq_of_mark (.inr ⟨value, rfl⟩) (mark_eq_of_prettyChars h)
    exact ⟨rfl, List.append_cancel_left h⟩
  | .string text, b, h => by
    -- a string is told by its mark, and its text by what is quoted
    obtain ⟨other, rfl⟩ := exists_string_of_mark (mark_eq_of_prettyChars h)
    obtain ⟨rfl, hrest⟩ := quoted_append_inj h
    exact ⟨rfl, hrest⟩
  | .array as, b, h => by
    -- the items stand between brackets
    obtain ⟨bs, rfl⟩ := exists_array_of_mark (mark_eq_of_prettyChars h)
    rw [prettyChars_array, prettyChars_array] at h
    obtain ⟨rfl, hrest⟩ := bracketed_inj (by decide) (head?_prettyItems _)
      (fun _ _ => prettyItems_append_inj as bs) h
    exact ⟨rfl, hrest⟩
  | .object as, b, h => by
    -- the fields stand between braces
    obtain ⟨bs, rfl⟩ := exists_object_of_mark (mark_eq_of_prettyChars h)
    rw [prettyChars_object, prettyChars_object] at h
    obtain ⟨rfl, hrest⟩ := bracketed_inj (by decide) (head?_prettyFields _)
      (fun _ _ => prettyFields_append_inj as bs) h
    exact ⟨rfl, hrest⟩
termination_by structural a => a

/-- A text begins with one list of printed items at most that a line end follows. -/
theorem prettyItems_append_inj {level : Nat} {x y : List Char} : (as bs : List Json) →
    as ≠ [] → bs ≠ [] → prettyItems level as ++ '\n' :: x = prettyItems level bs ++ '\n' :: y →
    as = bs ∧ x = y
  | [], _, hne, _, _ => absurd rfl hne
  | _, [], _, hne, _ => absurd rfl hne
  | [a], [b], _, _, h => by
    -- the last items on both sides, behind which a line ends
    rw [prettyItems_singleton, prettyItems_singleton] at h
    obtain ⟨rfl, hrest⟩ := prettyChars_append_inj a b (List.append_cancel_left h)
    exact ⟨rfl, List.tail_eq_of_cons_eq hrest⟩
  | [a], b :: b' :: bs, _, _, h => by
    -- behind the last item of one side there is no comma, and on the other side there is one
    rw [prettyItems_singleton, prettyItems_cons_cons] at h
    cases (prettyChars_append_inj a b (List.append_cancel_left h)).2
  | a :: a' :: as, [b], _, _, h => by
    rw [prettyItems_singleton, prettyItems_cons_cons] at h
    cases (prettyChars_append_inj a b (List.append_cancel_left h)).2
  | a :: a' :: as, b :: b' :: bs, _, _, h => by
    -- the first items are the same, and the ones behind the comma follow
    rw [prettyItems_cons_cons, prettyItems_cons_cons] at h
    obtain ⟨rfl, hrest⟩ := prettyChars_append_inj a b (List.append_cancel_left h)
    obtain ⟨hitems, hx⟩ := prettyItems_append_inj (a' :: as) (b' :: bs) (List.cons_ne_nil _ _)
      (List.cons_ne_nil _ _) (List.tail_eq_of_cons_eq hrest)
    exact ⟨by rw [hitems], hx⟩
termination_by structural as => as

/-- A text begins with one list of printed fields at most that a line end follows. -/
theorem prettyFields_append_inj {level : Nat} {x y : List Char} : (as bs : List (String × Json)) →
    as ≠ [] → bs ≠ [] → prettyFields level as ++ '\n' :: x = prettyFields level bs ++ '\n' :: y →
    as = bs ∧ x = y
  | [], _, hne, _, _ => absurd rfl hne
  | _, [], _, hne, _ => absurd rfl hne
  | [(m, a)], [(n, b)], _, _, h => by
    -- the last fields on both sides: the same name, and then the same value
    rw [prettyFields_singleton, prettyFields_singleton] at h
    obtain ⟨rfl, hvalue⟩ := quoted_append_inj (List.append_cancel_left h)
    obtain ⟨rfl, hrest⟩ := prettyChars_append_inj a b
      (List.tail_eq_of_cons_eq (List.tail_eq_of_cons_eq hvalue))
    exact ⟨rfl, List.tail_eq_of_cons_eq hrest⟩
  | [(m, a)], (n, b) :: b' :: bs, _, _, h => by
    -- behind the last field of one side there is no comma, and on the other side there is one
    rw [prettyFields_singleton, prettyFields_cons_cons] at h
    obtain ⟨rfl, hvalue⟩ := quoted_append_inj (List.append_cancel_left h)
    cases (prettyChars_append_inj a b
      (List.tail_eq_of_cons_eq (List.tail_eq_of_cons_eq hvalue))).2
  | (m, a) :: a' :: as, [(n, b)], _, _, h => by
    rw [prettyFields_singleton, prettyFields_cons_cons] at h
    obtain ⟨rfl, hvalue⟩ := quoted_append_inj (List.append_cancel_left h)
    cases (prettyChars_append_inj a b
      (List.tail_eq_of_cons_eq (List.tail_eq_of_cons_eq hvalue))).2
  | (m, a) :: a' :: as, (n, b) :: b' :: bs, _, _, h => by
    -- the first fields are the same, and the ones behind the comma follow
    rw [prettyFields_cons_cons, prettyFields_cons_cons] at h
    obtain ⟨rfl, hvalue⟩ := quoted_append_inj (List.append_cancel_left h)
    obtain ⟨rfl, hrest⟩ := prettyChars_append_inj a b
      (List.tail_eq_of_cons_eq (List.tail_eq_of_cons_eq hvalue))
    obtain ⟨hfields, hx⟩ := prettyFields_append_inj (a' :: as) (b' :: bs) (List.cons_ne_nil _ _)
      (List.cons_ne_nil _ _) (List.tail_eq_of_cons_eq hrest)
    exact ⟨by rw [hfields], hx⟩
termination_by structural as => as

end

/-- No two documents are printed alike. -/
theorem pretty_injective {a b : Json} (h : a.pretty = b.pretty) : a = b := by
  have hchars : a.prettyChars 0 ++ [] = b.prettyChars 0 ++ [] := by
    rw [List.append_nil, List.append_nil]
    exact String.ofList_injective h
  exact (prettyChars_append_inj a b hchars).1

end SchemaBuild.Json
