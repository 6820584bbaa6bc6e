import SchemaBuild.Proofs.Path.Segments
import SchemaBuild.Proofs.Roots.Publishing
import SchemaBuild.Proofs.Text.Lossy

/-!
# Reading published roots back

The enclosing build reads what a publisher wrote line by line, each line as a variable and the root
that it stands for. A publisher writes a root as it is shown, and so the build gets the roots back if
they are shown as they are and on one line: if each is a text without a line feed
(`Path.IsPrintable`). One root that is not is enough for the build to read something else, and two
such roots may have the same line.

* `Published.readLines?_lines` — the reader gets what stands on the lines;
* `RootPublisher.writtenOf_eq` — with no limit every root is written, once;
* `RootPublisher.directives_recovered_iff` — when the build gets the roots back;
* `RootPublisher.directives_collide` — two roots with one line.
-/

namespace SchemaBuild

/-- The character that ends a line. -/
abbrev Bytes.newline : UInt8 := Bytes.ascii '\n'

open Bytes (newline)

/-! ### Lines -/

namespace Bytes

/-- Lines, each with a line feed behind it, and what is behind the last. -/
theorem split_lines {lines : List Bytes} (hlines : ∀ line ∈ lines, newline ∉ line) :
    split newline (lines.flatMap (· ++ [newline])) = lines ++ [[]] := by
  induction lines with
  | nil => rfl
  | cons line lines ih =>
    -- the first line ends at its line feed, since there is none in it
    rw [List.flatMap_cons, List.append_assoc, List.singleton_append, split_append,
      split_of_not_mem (hlines line List.mem_cons_self),
      ih fun other hmem => hlines other (List.mem_cons_of_mem _ hmem)]
    rfl

end Bytes

/-! ### The reader -/

/-- What the enclosing build gets from a line: a variable and what it stands for. -/
structure Published where
  variableName : Bytes
  value : Bytes
  deriving Repr, DecidableEq

namespace Published

/-- The word that a line begins with. -/
def keyword : Bytes := Bytes.ofString "cargo:rustc-env="

/-- The line that says so. -/
def line (published : Published) : Bytes :=
  keyword ++ published.variableName ++ Bytes.ascii '=' :: published.value

/-- Read a line. The variable is in front of the first equals sign behind the keyword. -/
def readLine? (line : Bytes) : Option Published :=
  if keyword <+: line then
    match Bytes.split (Bytes.ascii '=') (line.drop keyword.length) with
    | variableName :: piece :: pieces =>
      some ⟨variableName, Bytes.join (Bytes.ascii '=') (piece :: pieces)⟩
    | _ => none
  else none

/-- Read lines, behind the last of which there is nothing. -/
def readLines? : List Bytes → Option (List Published)
  | [] => none
  | [rest] => if rest = [] then some [] else none
  | line :: lines => do return (← readLine? line) :: (← readLines? lines)

/-- Read everything that was written. -/
def read? (written : Bytes) : Option (List Published) := readLines? (Bytes.split newline written)

/-- A line is a single line if its variable and its value are. -/
theorem newline_not_mem_line {published : Published} (hname : newline ∉ published.variableName)
    (hvalue : newline ∉ published.value) : newline ∉ published.line := by
  have hkeyword : newline ∉ keyword := by decide +kernel
  have hequals : newline ≠ Bytes.ascii '=' := by decide
  simp [line, hname, hvalue, hkeyword, hequals]

/-- **A line** is read as what it says, if the variable has no equals sign. -/
theorem readLine?_line {published : Published} (h : Bytes.ascii '=' ∉ published.variableName) :
    readLine? published.line = some published := by
  have hbehind : published.line.drop keyword.length
      = published.variableName ++ Bytes.ascii '=' :: published.value := by
    rw [line, List.append_assoc, List.drop_left]
  obtain ⟨piece, pieces, hsplit⟩ :=
    List.exists_cons_of_ne_nil (Bytes.split_ne_nil (Bytes.ascii '=') published.value)
  rw [readLine?, if_pos (by rw [line, List.append_assoc]; exact List.prefix_append ..), hbehind,
    Bytes.split_append, Bytes.split_of_not_mem h, hsplit]
  dsimp only [List.singleton_append]
  rw [← hsplit, Bytes.join_split]

/-- What is read from a line stands on it. -/
theorem mem_of_readLine? {line : Bytes} {published : Published} (h : readLine? line = some published)
    {b : UInt8} (hb : b ∈ published.value) : b ∈ line := by
  unfold readLine? at h
  split at h
  · split at h
    · next variableName piece pieces hsplit =>
      -- the value stands behind the equals sign
      cases h
      have hjoin := Bytes.join_split (Bytes.ascii '=') (line.drop keyword.length)
      rw [hsplit, Bytes.join] at hjoin
      · refine List.mem_of_mem_drop (i := keyword.length) ?_
        rw [← hjoin]
        exact List.mem_append_right _ (List.mem_cons_of_mem _ hb)
      · simp
    · -- there is no equals sign
      cases h
  · -- the line does not begin with the keyword
    cases h

/-- **The lines of a list** are read as the list. -/
theorem readLines?_lines {all : List Published}
    (h : ∀ published ∈ all, Bytes.ascii '=' ∉ published.variableName) :
    readLines? (all.map line ++ [[]]) = some all := by
  induction all with
  | nil => rfl
  | cons published all ih =>
    -- the line is read, and the others behind it
    have hrest := ih fun other hmem => h other (List.mem_cons_of_mem _ hmem)
    obtain ⟨next, lines, hlines⟩ :=
      List.exists_cons_of_ne_nil (List.append_ne_nil_of_right_ne_nil (all.map line) (List.cons_ne_nil [] []))
    rw [hlines] at hrest
    rw [List.map_cons, List.cons_append, hlines, readLines?, readLine?_line (h _ List.mem_cons_self),
      hrest]
    · rfl
    · simp

/-- Everything that is read was read from one of the lines. -/
theorem exists_readLine?_of_mem {lines : List Bytes} {all : List Published}
    (h : readLines? lines = some all) {published : Published} (hmem : published ∈ all) :
    ∃ line ∈ lines, readLine? line = some published := by
  induction lines generalizing all with
  | nil => cases h
  | cons line lines ih =>
    cases lines with
    | nil =>
      -- nothing is read from what is behind the last line
      rw [readLines?] at h
      split at h
      · cases h
        cases hmem
      · cases h
    | cons next lines =>
      obtain ⟨first, hfirst, h⟩ := Option.bind_eq_some_iff.mp h
      obtain ⟨others, hothers, h⟩ := Option.bind_eq_some_iff.mp h
      cases h
      obtain rfl | hmem := List.mem_cons.mp hmem
      · -- it stands on the first line
        exact ⟨line, List.mem_cons_self, hfirst⟩
      · -- it stands on a later one
        obtain ⟨found, hfound, hread⟩ := ih hothers hmem
        exact ⟨found, List.mem_cons_of_mem _ hfound, hread⟩

/-- No value that is read has a line feed. -/
theorem newline_not_mem_of_read? {written : Bytes} {all : List Published}
    (h : read? written = some all) {published : Published} (hmem : published ∈ all) :
    newline ∉ published.value := by
  obtain ⟨line, hline, hread⟩ := exists_readLine?_of_mem h hmem
  exact fun hb => Bytes.not_mem_of_mem_split hline (mem_of_readLine? hread hb)

/-- **What was written in lines is read back**, if nothing in it looks like the end of a line or of a
variable. -/
theorem read?_lines {all : List Published} (hline : ∀ published ∈ all, newline ∉ published.line)
    (hname : ∀ published ∈ all, Bytes.ascii '=' ∉ published.variableName) :
    read? ((all.map line).flatMap (· ++ [newline])) = some all := by
  rw [read?, Bytes.split_lines (List.forall_mem_map.mpr hline), readLines?_lines hname]

end Published

/-! ### Roots that can be printed -/

/-- The path is a text without a line feed. -/
structure Path.IsPrintable (path : Path) : Prop where
  isText : path.bytes.toString?.isSome = true
  singleLine : newline ∉ path.bytes

instance (path : Path) : Decidable path.IsPrintable :=
  decidable_of_iff (path.bytes.toString?.isSome = true ∧ newline ∉ path.bytes)
    ⟨fun h => ⟨h.1, h.2⟩, fun h => ⟨h.isText, h.singleLine⟩⟩

namespace RootPublisher

variable {variableName : String} {root other : Path}

/-- What the line of a root is meant to say. -/
def meant (variableName : String) (root : Path) : Published :=
  ⟨Bytes.ofString variableName, root.bytes⟩

/-- What the line of a root does say. -/
def shown (variableName : String) (root : Path) : Published :=
  ⟨Bytes.ofString variableName, Bytes.ofString root.display⟩

theorem directive_eq_line (variableName : String) (root : Path) :
    directive variableName root = (shown variableName root).line ++ [newline] := by
  rw [directive_eq]
  rfl

theorem shown_eq_meant_iff :
    shown variableName root = meant variableName root ↔ root.bytes.toString?.isSome = true := by
  rw [← Bytes.ofString_toStringLossy_iff, shown, meant, Published.mk.injEq, Path.display]
  exact and_iff_right rfl

/-- Two roots that can be printed and have the same line are the same string. -/
theorem bytes_eq_of_directive_eq (hroot : root.IsPrintable) (hother : other.IsPrintable)
    (h : directive variableName root = directive variableName other) : root.bytes = other.bytes := by
  rw [directive_eq, directive_eq] at h
  have hdisplay := (List.cons.inj (List.append_cancel_left (List.append_cancel_right h))).2
  rwa [Path.display, Path.display, Bytes.ofString_toStringLossy_iff.mpr hroot.isText,
    Bytes.ofString_toStringLossy_iff.mpr hother.isText] at hdisplay

/-! ### Without a limit -/

/-- What is written of roots when everything fits. -/
def writtenOf (variableName : String) (roots : List Path) : Bytes :=
  ((new variableName ⟨[], none⟩).after roots).sink.written

/-- With no limit every call succeeds. -/
theorem calls_unlimited (variableName : String) (roots : List Path) :
    (new variableName ⟨[], none⟩).calls roots = roots.map (·, .ok ()) := by
  induction roots using List.reverseRecOn with
  | nil => rfl
  | append_singleton roots root ih =>
    have hledger := Ledger.after variableName none roots
    have hanswer := (hledger.answer_iff root).mpr (.inr nofun)
    rw [calls_concat, hanswer, ih, List.map_append]
    rfl

theorem succeeded_of_ok (roots : List Path) : succeeded (roots.map (·, .ok ())) = roots := by
  simp [succeeded, List.filter_map, Function.comp_def, Except.isOk, Except.toBool]

theorem refused?_of_ok (roots : List Path) : refused? (roots.map (·, .ok ())) = none := by
  simp [refused?, Except.isOk, Except.toBool]

/-- **With no limit** every root is written, once. -/
theorem writtenOf_eq (variableName : String) (roots : List Path) :
    writtenOf variableName roots = (Path.distinct roots).flatMap (directive variableName) := by
  have hledger := Ledger.after variableName none roots
  rw [calls_unlimited] at hledger
  obtain ⟨torn, hwritten, ⟨-, rfl⟩ | ⟨root, hrefused, -⟩⟩ := hledger.lines
  · -- all calls succeeded, so all lines were written
    rw [writtenOf, hwritten, succeeded_of_ok, List.append_nil]
  · -- no call was refused
    rw [refused?_of_ok] at hrefused
    cases hrefused

theorem writtenOf_eq_lines (variableName : String) (roots : List Path) : writtenOf variableName roots
    = (((Path.distinct roots).map (shown variableName)).map Published.line).flatMap
        (· ++ [newline]) := by
  rw [writtenOf_eq, List.map_map, List.flatMap_map]
  exact congrArg (List.flatMap · _) (funext (directive_eq_line variableName))

section Recovered

variable {roots : List Path}

/-- A root without a line feed is shown on one line. -/
theorem newline_not_mem_shown_line (hnewline : '\n' ∉ variableName.toList)
    (h : newline ∉ root.bytes) : newline ∉ (shown variableName root).line :=
  Published.newline_not_mem_line (Bytes.ascii_not_mem_ofString (by decide) hnewline)
    (Bytes.not_mem_ofString_toStringLossy (by decide) h)

/-- Roots without line feeds are on a line each, as they are shown. -/
theorem split_writtenOf (hnewline : '\n' ∉ variableName.toList)
    (h : ∀ root ∈ Path.distinct roots, newline ∉ root.bytes) :
    Bytes.split newline (writtenOf variableName roots)
      = ((Path.distinct roots).map (shown variableName)).map Published.line ++ [[]] := by
  rw [writtenOf_eq_lines, Bytes.split_lines]
  simp only [List.forall_mem_map]
  exact fun root hroot => newline_not_mem_shown_line hnewline (h root hroot)

/-- Roots without line feeds are read back as they are shown. -/
theorem read?_writtenOf (hnewline : '\n' ∉ variableName.toList)
    (hequals : '=' ∉ variableName.toList) (h : ∀ root ∈ Path.distinct roots, newline ∉ root.bytes) :
    Published.read? (writtenOf variableName roots)
      = some ((Path.distinct roots).map (shown variableName)) := by
  rw [writtenOf_eq_lines]
  refine Published.read?_lines ?_ ?_
  · -- no line feed stands on a line
    exact List.forall_mem_map.mpr fun root hroot => newline_not_mem_shown_line hnewline (h root hroot)
  · -- no equals sign stands in the name
    exact List.forall_mem_map.mpr fun _ _ => Bytes.ascii_not_mem_ofString (by decide) hequals

theorem map_shown_eq (h : ∀ root ∈ Path.distinct roots, root.IsPrintable) :
    (Path.distinct roots).map (shown variableName) = (Path.distinct roots).map (meant variableName) :=
  List.map_congr_left fun root hroot => shown_eq_meant_iff.mpr (h root hroot).isText

/-- The lines are the roots themselves exactly if all of them can be printed. -/
theorem split_writtenOf_iff (hnewline : '\n' ∉ variableName.toList) :
    Bytes.split newline (writtenOf variableName roots)
        = ((Path.distinct roots).map (meant variableName)).map Published.line ++ [[]] ↔
      ∀ root ∈ Path.distinct roots, root.IsPrintable := by
  constructor
  · intro h root hroot
    -- a line holds no line feed, and so no root does; then the lines are the roots as they are shown
    have hsingle : ∀ root ∈ Path.distinct roots, newline ∉ root.bytes := by
      intro root hroot hmem
      have hline : (meant variableName root).line ∈ Bytes.split newline (writtenOf variableName roots) := by
        rw [h]
        exact List.mem_append_left _ (List.mem_map_of_mem (List.mem_map_of_mem hroot))
      exact Bytes.not_mem_of_mem_split hline
        (List.mem_append_right _ (List.mem_cons_of_mem _ hmem))
    rw [split_writtenOf hnewline hsingle, List.map_map, List.map_map] at h
    have hlines := List.map_inj_left.mp (List.append_cancel_right h) root hroot
    have hdisplay := List.cons.inj (List.append_cancel_left hlines)
    exact ⟨Bytes.ofString_toStringLossy_iff.mp hdisplay.2, hsingle root hroot⟩
  · intro h
    rw [split_writtenOf hnewline fun root hroot => (h root hroot).singleLine, map_shown_eq h]

/-- The roots are read back exactly if all of them can be printed. -/
theorem read?_writtenOf_iff (hnewline : '\n' ∉ variableName.toList)
    (hequals : '=' ∉ variableName.toList) :
    Published.read? (writtenOf variableName roots)
        = some ((Path.distinct roots).map (meant variableName)) ↔
      ∀ root ∈ Path.distinct roots, root.IsPrintable := by
  constructor
  · -- what is read back is what is shown, so each root is shown as it was meant
    intro h root hroot
    have hsingle : ∀ root ∈ Path.distinct roots, newline ∉ root.bytes := fun root hroot =>
      Published.newline_not_mem_of_read? h (List.mem_map_of_mem hroot)
    rw [read?_writtenOf hnewline hequals hsingle] at h
    have hshown := List.map_inj_left.mp (Option.some.inj h) root hroot
    exact ⟨shown_eq_meant_iff.mp hshown, hsingle root hroot⟩
  · -- texts on single lines are shown as they are meant
    intro h
    rw [read?_writtenOf hnewline hequals fun root hroot => (h root hroot).singleLine, map_shown_eq h]

/-- Roots that can be printed have lines of their own. -/
theorem directives_pairwise (h : ∀ root ∈ Path.distinct roots, root.IsPrintable) :
    (Path.distinct roots).Pairwise fun root other =>
      directive variableName root ≠ directive variableName other := by
  refine (Path.distinct_pairwise roots).imp_of_mem fun {root other} hroot hother hsame heq => hsame ?_
  have hbytes := bytes_eq_of_directive_eq (h root hroot) (h other hother) heq
  obtain ⟨bytes⟩ := root
  cases hbytes
  exact Path.Same.refl _

end Recovered

/-- **Directives can be read back** exactly if all of the roots can be printed: then the lines are
those of the roots, one for each and no others, a reader of lines gets the roots in their order, and
no two roots have the same line. -/
theorem directives_recovered_iff {variableName : String} (hnewline : '\n' ∉ variableName.toList)
    (hequals : '=' ∉ variableName.toList) (roots : List Path) :
    (Bytes.split newline (writtenOf variableName roots)
        = ((Path.distinct roots).map (meant variableName)).map Published.line ++ [[]] ↔
      ∀ root ∈ Path.distinct roots, root.IsPrintable) ∧
    (Published.read? (writtenOf variableName roots)
        = some ((Path.distinct roots).map (meant variableName)) ↔
      ∀ root ∈ Path.distinct roots, root.IsPrintable) ∧
    ((∀ root ∈ Path.distinct roots, root.IsPrintable) →
      (Path.distinct roots).Pairwise fun root other =>
        directive variableName root ≠ directive variableName other) :=
  ⟨split_writtenOf_iff hnewline, read?_writtenOf_iff hnewline hequals, directives_pairwise⟩

/-- A root with a character of two bytes in two spellings, and one with an equals sign. -/
def printableRoots : List Path :=
  [.ofString "/gen/ü", .ofString "/gen/./ü/", .ofString "/gen/a=b"]

theorem printableRoots_recovered :
    '\n' ∉ "OUT_DIR".toList ∧ '=' ∉ "OUT_DIR".toList ∧
    (∀ root ∈ Path.distinct printableRoots, root.IsPrintable) ∧
    Bytes.split newline (writtenOf "OUT_DIR" printableRoots)
      = [Bytes.ofString "cargo:rustc-env=OUT_DIR=/gen/ü",
        Bytes.ofString "cargo:rustc-env=OUT_DIR=/gen/a=b", []] ∧
    Published.read? (writtenOf "OUT_DIR" printableRoots)
      = some [⟨Bytes.ofString "OUT_DIR", Bytes.ofString "/gen/ü"⟩,
        ⟨Bytes.ofString "OUT_DIR", Bytes.ofString "/gen/a=b"⟩] ∧
    (Path.distinct printableRoots).Pairwise fun root other =>
      directive "OUT_DIR" root ≠ directive "OUT_DIR" other := by
  have hprintable : ∀ root ∈ Path.distinct printableRoots, root.IsPrintable := by decide +kernel
  have hname : '\n' ∉ "OUT_DIR".toList ∧ '=' ∉ "OUT_DIR".toList := by decide
  obtain ⟨hlines, hread, hpairwise⟩ := directives_recovered_iff hname.1 hname.2 printableRoots
  refine ⟨hname.1, hname.2, hprintable, ?_, ?_, hpairwise hprintable⟩
  · rw [hlines.mpr hprintable]
    decide +kernel
  · rw [hread.mpr hprintable]
    decide +kernel

/-- A root that ends in a byte which begins no character. -/
def strayRoot (stray : UInt8) : Path := ⟨Bytes.ofString "/gen/" ++ [stray]⟩

/-- A root with a line feed, behind which there stands what looks like a line. -/
def foldedRoot : Path := .ofString "/gen/a\ncargo:rustc-env=OUT_DIR=/gen/b"

/-- Two different roots have the same line, so that the reader gets neither, and from the line of one
root it gets two. -/
theorem directives_collide :
    ¬(strayRoot 0xFF).Same (strayRoot 0xFE) ∧
    directive "OUT_DIR" (strayRoot 0xFF) = directive "OUT_DIR" (strayRoot 0xFE) ∧
    Bytes.split newline (writtenOf "OUT_DIR" [strayRoot 0xFF, strayRoot 0xFE])
      ≠ [(meant "OUT_DIR" (strayRoot 0xFF)).line, (meant "OUT_DIR" (strayRoot 0xFE)).line, []] ∧
    Published.read? (writtenOf "OUT_DIR" [strayRoot 0xFF, strayRoot 0xFE])
      = some [⟨Bytes.ofString "OUT_DIR", Bytes.ofString "/gen/\uFFFD"⟩,
        ⟨Bytes.ofString "OUT_DIR", Bytes.ofString "/gen/\uFFFD"⟩] ∧
    Published.read? (writtenOf "OUT_DIR" [foldedRoot])
      = some [⟨Bytes.ofString "OUT_DIR", Bytes.ofString "/gen/a"⟩,
        ⟨Bytes.ofString "OUT_DIR", Bytes.ofString "/gen/b"⟩] := by
  decide +kernel

end RootPublisher

end SchemaBuild
