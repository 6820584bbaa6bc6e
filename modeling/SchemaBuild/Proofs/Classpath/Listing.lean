import SchemaBuild.Classpath
import SchemaBuild.Proofs.Text.Trim

/-!
# The lines of a listing file

A listing file has one entry per line. A line ends with a line feed, with a carriage return before it or
without, and the last one need not end at all. Since blanks around an entry do not count, neither does
the carriage return, so what is listed is told by the lines alone, however they end.

* `Classpath.Joined` — lines are put together to a text, and `Classpath.HasLines` — without an empty
  line at its end;
* `Classpath.filterMap_entryOn?_lines` — the entries of a text are those on its lines;
* `Classpath.listed_of_joined` — so what a listing file lists is what stands on its lines.
-/

namespace SchemaBuild

namespace Classpath

/-- **The lines are put together to the text**, each with a line end behind it; the last one may lack
it. -/
inductive Joined : List (List Char) → List Char → Prop
  | none : Joined [] []
  | last (line : List Char) : Joined [line] line
  | line {line ending text : List Char} {lines : List (List Char)}
      (ends : ending = ['\n'] ∨ ending = ['\r', '\n']) (more : Joined lines text) :
      Joined (line :: lines) (line ++ ending ++ text)

/-- **The text has these lines**, each with a line end behind it; the last line may lack it if there is
something on it. -/
inductive HasLines : List (List Char) → List Char → Prop
  | none : HasLines [] []
  | last {line : List Char} (something : line ≠ []) : HasLines [line] line
  | line {line ending text : List Char} {lines : List (List Char)}
      (ends : ending = ['\n'] ∨ ending = ['\r', '\n']) (more : HasLines lines text) :
      HasLines (line :: lines) (line ++ ending ++ text)

theorem HasLines.joined {lines : List (List Char)} {text : List Char} (h : HasLines lines text) :
    Joined lines text := by
  induction h with
  | none => exact .none
  | @last line _ => exact .last line
  | line ends _ ih => exact .line ends ih

/-- Characters that are no line feeds are added to the line. -/
theorem linesFrom_append {line : List Char} (h : '\n' ∉ line) (current rest : List Char) :
    linesFrom current (line ++ rest) = linesFrom (line.reverse ++ current) rest := by
  induction line generalizing current with
  | nil => rfl
  | cons c line ih =>
    obtain ⟨hc, hline⟩ := not_or.mp (mt List.mem_cons.mpr h)
    rw [List.cons_append, linesFrom, ih hline, List.reverse_cons, List.append_assoc]
    · rfl
    · exact fun hfeed => hc hfeed.symm

/-- What is read up to a line feed is a line, but for a carriage return at its end. -/
theorem exists_line {line : List Char} (h : '\n' ∉ line) (rest : List Char) :
    ∃ found, lines (line ++ '\n' :: rest) = found :: lines rest ∧
      (line = found ∨ line = found ++ ['\r']) := by
  -- the line is read in reverse, so its last character is what the reader sees first
  have hread : lines (line ++ '\n' :: rest) = linesFrom line.reverse ('\n' :: rest) := by
    unfold lines
    rw [linesFrom_append h, List.append_nil]
  rw [hread]
  cases hreverse : line.reverse with
  | nil =>
    -- nothing stands before the line feed
    exact ⟨[], rfl, .inl (List.reverse_eq_nil_iff.mp hreverse)⟩
  | cons c shorter =>
    have hline : line = shorter.reverse ++ [c] := by
      rw [← List.reverse_reverse line, hreverse, List.reverse_cons]
    by_cases hc : c = '\r'
    · -- a return before the line feed is dropped with it
      subst hc
      exact ⟨shorter.reverse, rfl, .inr hline⟩
    · -- any other character belongs to the line
      refine ⟨line, ?_, .inl rfl⟩
      rw [linesFrom, ← hreverse, List.reverse_reverse]
      · rfl
      · exact fun _ hreturn => hc (List.cons.inj hreturn).1

/-- A carriage return at the end of a line does not change the entry on it. -/
theorem entryOn?_return (line : List Char) : entryOn? (line ++ ['\r']) = entryOn? line := by
  unfold entryOn?
  rw [Text.trim_append_blanks (List.forall_mem_singleton.mpr (by decide))]

/-- **The entries of a text** are those on its lines. -/
theorem filterMap_entryOn?_lines {lines : List (List Char)} {text : List Char}
    (h : Joined lines text) (hfeed : ∀ line ∈ lines, '\n' ∉ line) :
    (Classpath.lines text).filterMap entryOn? = lines.filterMap entryOn? := by
  induction h with
  | none => rfl
  | last line =>
    -- the last line has no line feed
    have hread : Classpath.lines (line ++ []) = linesFrom line.reverse [] := by
      unfold Classpath.lines
      rw [linesFrom_append (hfeed line List.mem_cons_self), List.append_nil]
    rw [List.append_nil, linesFrom, List.isEmpty_reverse, List.reverse_reverse] at hread
    rw [hread]
    split
    · next hempty =>
      -- no line is read then, and there is no entry on an empty one
      rw [List.isEmpty_iff.mp hempty]
      rfl
    · rfl
  | @line line ending rest lines ends more ih =>
    obtain ⟨hline, hlines⟩ := List.forall_mem_cons.mp hfeed
    -- whichever way the line ends, its entry is what is found before the line feed
    have hfirst : ∃ found, Classpath.lines (line ++ ending ++ rest) = found :: Classpath.lines rest ∧
        entryOn? found = entryOn? line := by
      obtain rfl | rfl := ends
      · -- the line ends with a line feed
        rw [List.append_assoc, List.singleton_append]
        obtain ⟨found, hfound, rfl | rfl⟩ := exists_line hline rest
        · exact ⟨line, hfound, rfl⟩
        · exact ⟨found, hfound, (entryOn?_return found).symm⟩
      · -- the line ends with a return and a line feed
        have hreturn : '\n' ∉ line ++ ['\r'] := by simpa using hline
        rw [show line ++ ['\r', '\n'] ++ rest = (line ++ ['\r']) ++ '\n' :: rest by simp]
        obtain ⟨found, hfound, hsame | hsame⟩ := exists_line hreturn rest
        · exact ⟨found, hfound, by rw [← hsame, entryOn?_return]⟩
        · exact ⟨found, hfound, by rw [List.append_cancel_right hsame]⟩
    obtain ⟨found, hfound, hentry⟩ := hfirst
    rw [hfound, List.filterMap_cons, List.filterMap_cons, hentry, ih hlines]

/-- **What a listing file lists** is what stands on its lines, relative paths being meant from `base`. -/
theorem listed_of_joined {lines : List (List Char)} {text : String}
    (h : Joined lines text.toList) (hfeed : ∀ line ∈ lines, '\n' ∉ line) (base : Path) :
    listed base text
      = (lines.filterMap entryOn?).map fun entry => base.join ⟨Utf8.encode entry⟩ := by
  rw [← filterMap_entryOn?_lines h hfeed, List.map_filterMap]
  rfl

end Classpath

end SchemaBuild
