/-!
# Tables

A table is a list of keys with values. The value of a key is the first one that stands beside it, so
the order of a table can be kept while one of its values changes: `Table.set` puts a value in the place
of the old one, or at the end.

`lookup_set` says what is found then.
-/

namespace SchemaBuild.Table

variable {κ α : Type} [BEq κ]

/-- The table with the value of a key replaced, or with the key at its end if it was not there. -/
def set (table : List (κ × α)) (key : κ) (value : α) : List (κ × α) :=
  match table with
  | [] => [(key, value)]
  | entry :: rest => if entry.1 == key then (key, value) :: rest else entry :: set rest key value

/-- The table without a key. -/
def erase (table : List (κ × α)) (key : κ) : List (κ × α) := table.filter fun entry => !(entry.1 == key)

theorem lookup_cons_eq (first key : κ) (value : α) (rest : List (κ × α)) :
    ((first, value) :: rest).lookup key = if key == first then some value else rest.lookup key := by
  rw [List.lookup_cons]
  cases key == first <;> rfl

variable [LawfulBEq κ]

/-- The key that was set has the new value, and every other key what it had. -/
theorem lookup_set (table : List (κ × α)) (key other : κ) (value : α) :
    (set table key value).lookup other = if other == key then some value else table.lookup other := by
  induction table with
  | nil => rw [set, lookup_cons_eq]
  | cons entry rest ih =>
    obtain ⟨first, old⟩ := entry
    rw [set]
    by_cases hk : first = key
    · subst hk
      rw [if_pos (by simp), lookup_cons_eq, lookup_cons_eq]
      split <;> rfl
    · rw [if_neg (by simpa using hk), lookup_cons_eq, lookup_cons_eq, ih]
      by_cases ho : other = first
      · have hn : (other == key) = false := by simpa [ho] using hk
        simp [ho, hk]
      · simp [ho]

end SchemaBuild.Table
