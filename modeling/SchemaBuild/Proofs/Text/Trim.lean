import Mathlib.Data.List.DropRight
import SchemaBuild.Text.Blank

/-!
# Trimming

A text is trimmed to what stands between its outermost characters that are not blank. So blanks around
a text do not count, and every text is what it is trimmed to with blanks around it.

* `Text.IsTrimmed` — a text neither begins nor ends with a blank;
* `Text.trim_append` — blanks around such a text are trimmed;
* `Text.isTrimmed_trim`, `Text.exists_trim` — every text is such a text with blanks around it.
-/

namespace SchemaBuild.Text

variable {c : Char} {chars before after : List Char}

/-- **The text neither begins nor ends with a blank.** -/
structure IsTrimmed (chars : List Char) : Prop where
  first : ∀ c ∈ chars.head?, isBlank c = false
  last : ∀ c ∈ chars.getLast?, isBlank c = false

instance : DecidablePred IsTrimmed := fun chars =>
  decidable_of_iff
    ((chars.head?.all fun c => !isBlank c) ∧ chars.getLast?.all fun c => !isBlank c) <| by
    simp only [Option.all_eq_true, Bool.not_eq_true']
    exact ⟨fun h => ⟨h.1, h.2⟩, fun h => ⟨h.first, h.last⟩⟩

theorem isTrimmed_of_forall (h : ∀ c ∈ chars, isBlank c = false) : IsTrimmed chars where
  first c hfirst := h c (List.mem_of_mem_head? hfirst)
  last c hlast := h c (List.mem_of_getLast? hlast)

/-! ### Blanks around a text -/

theorem trimEnd_eq_rdropWhile (chars : List Char) : trimEnd chars = chars.rdropWhile isBlank := rfl

/-- Blanks in front of a text are trimmed. -/
theorem trimStart_append (h : ∀ c ∈ before, isBlank c = true) (chars : List Char) :
    trimStart (before ++ chars) = trimStart chars := by
  rw [trimStart, List.dropWhile_append_of_pos h, trimStart]

/-- Blanks behind a text are trimmed. -/
theorem trim_append_blanks (h : ∀ c ∈ after, isBlank c = true) (chars : List Char) :
    trim (chars ++ after) = trim chars := by
  have hend : ∀ chars, trimEnd (chars ++ after) = trimEnd chars := by
    intro chars
    unfold trimEnd
    rw [List.reverse_append,
      List.dropWhile_append_of_pos fun c hmem => h c (List.mem_reverse.mp hmem)]
  unfold trim trimStart
  rw [List.dropWhile_append]
  split
  · next hblank =>
    -- then there are blanks only
    rw [List.isEmpty_iff.mp hblank, List.dropWhile_eq_nil_iff.mpr h]
  · exact hend _

/-- There is nothing to trim. -/
theorem IsTrimmed.trim_eq_self (h : IsTrimmed chars) : trim chars = chars := by
  have hstart : trimStart chars = chars := by
    cases chars with
    | nil =>
      -- nothing is there to trim
      rfl
    | cons c rest =>
      -- the first character is no blank
      exact trimStart_eq_self (h.first c rfl)
  rw [trim, hstart, trimEnd_eq_rdropWhile, List.rdropWhile_eq_self_iff]
  intro hne
  exact Bool.eq_false_iff.mp (h.last _ (List.getLast?_eq_some_getLast hne))

/-- **Blanks around a text** that neither begins nor ends with one are trimmed. -/
theorem trim_append (hbefore : ∀ c ∈ before, isBlank c = true)
    (hafter : ∀ c ∈ after, isBlank c = true) (h : IsTrimmed chars) :
    trim (before ++ chars ++ after) = chars := by
  rw [trim_append_blanks hafter, trim, trimStart_append hbefore]
  exact h.trim_eq_self

/-- The first character that is not blank stays the first one. -/
theorem exists_trim_cons (hbefore : ∀ c ∈ before, isBlank c = true) (hc : isBlank c = false)
    (rest : List Char) : ∃ shorter, trim (before ++ c :: rest) = c :: shorter := by
  rw [trim, trimStart_append hbefore, trimStart_eq_self hc]
  obtain hnil | ⟨shorter, hshorter, -⟩ :=
    List.prefix_cons_iff.mp (List.rdropWhile_prefix isBlank (c :: rest))
  · -- nothing would be left of blanks only
    have hblank := List.rdropWhile_eq_nil_iff.mp hnil c List.mem_cons_self
    rw [hc] at hblank
    cases hblank
  · exact ⟨shorter, hshorter⟩

/-! ### What is left -/

/-- **What a text is trimmed to** neither begins nor ends with a blank, -/
theorem isTrimmed_trim (chars : List Char) : IsTrimmed (trim chars) where
  first c hfirst := by
    cases hstart : trimStart chars with
    | nil =>
      -- nothing but blanks
      rw [trim, hstart] at hfirst
      cases hfirst
    | cons d rest =>
      -- the first one that is no blank stays in front
      have hd : isBlank d = false := by
        have hhead := List.head?_dropWhile_not isBlank chars
        rwa [show chars.dropWhile isBlank = d :: rest from hstart] at hhead
      obtain ⟨shorter, hshorter⟩ := exists_trim_cons (List.forall_mem_nil _) hd rest
      have htrim : trim chars = d :: shorter := by
        rw [← hshorter, List.nil_append, trim, trim, hstart, trimStart_eq_self hd]
      rw [htrim] at hfirst
      obtain rfl : d = c := Option.some.inj hfirst
      exact hd
  last c hlast := by
    obtain ⟨hne, rfl⟩ := List.mem_getLast?_eq_getLast hlast
    exact Bool.eq_false_iff.mpr (List.rdropWhile_last_not isBlank (trimStart chars) hne)

/-- and around it there are blanks. -/
theorem exists_trim (chars : List Char) : ∃ before after, chars = before ++ trim chars ++ after ∧
    (∀ c ∈ before, isBlank c = true) ∧ ∀ c ∈ after, isBlank c = true := by
  refine ⟨chars.takeWhile isBlank, (trimStart chars).rtakeWhile isBlank, ?_, ?_, ?_⟩
  · rw [List.append_assoc, trim, trimEnd_eq_rdropWhile, List.rdropWhile_append_rtakeWhile]
    exact List.takeWhile_append_dropWhile.symm
  · exact fun c hmem => List.mem_takeWhile_imp hmem
  · exact fun c hmem => List.mem_rtakeWhile_imp hmem

end SchemaBuild.Text
