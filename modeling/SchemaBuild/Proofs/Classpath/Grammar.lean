import Mathlib.Data.List.Forall2
import Mathlib.Data.Set.List
import SchemaBuild.Proofs.Classpath.Listing
import SchemaBuild.Proofs.FileSystem.Elsewhere
import SchemaBuild.Proofs.Path.Segments

/-!
# What can stand in a listing file

A line of a listing file is blank, a comment or an entry. A comment begins with `#`; an entry is
anything else that neither begins nor ends with a blank, and blanks may stand in front of both and
behind an entry. A line is made of its parts here (`Classpath.Line`), so there is none that is something
else, and the reader finds in it what it was made of.

Every text consists of such lines. So no text is a listing file with an error in it: reading one fails
if there is no file or it holds no text, and otherwise the lines alone tell what is listed.

* `Classpath.Line.entryOn?_chars` — the entry that is read on a line is the one it was made of;
* `Classpath.Line.exists_chars_eq`, `Classpath.exists_joined` — every text consists of such lines;
* `Classpath.listing_told_by_lines` — the entries of a listing file, and when there is an error instead.
-/

namespace SchemaBuild.Classpath

/-! ### Lines -/

/-- Blanks on a line. -/
structure Gap where
  chars : List Char
  allBlank : chars.all Text.isBlank = true
  noFeed : '\n' ∉ chars

theorem Gap.blank (gap : Gap) : ∀ c ∈ gap.chars, Text.isBlank c = true :=
  List.all_eq_true.mp gap.allBlank

/-- The text of an entry: there is something on its line, without blanks around it, and it is no
comment. -/
structure EntryText where
  chars : List Char
  something : chars ≠ []
  noFeed : '\n' ∉ chars
  trimmed : Text.IsTrimmed chars
  noComment : chars.head? ≠ some '#'

/-- The path that an entry spells. -/
def EntryText.path (text : EntryText) : Path := ⟨Utf8.encode text.chars⟩

/-- **A line of a listing file.** -/
inductive Line where
  | blank (gap : Gap)
  | comment (indent : Gap) (remark : List Char) (noFeed : '\n' ∉ remark)
  | entry (before : Gap) (text : EntryText) (after : Gap)

namespace Line

/-- The characters on the line. -/
def chars : Line → List Char
  | blank gap => gap.chars
  | comment indent remark _ => indent.chars ++ '#' :: remark
  | entry before text after => before.chars ++ text.chars ++ after.chars

/-- The entry on the line, if it is one. -/
def entry? : Line → Option EntryText
  | blank _ => none
  | comment _ _ _ => none
  | entry _ text _ => some text

theorem noFeed (line : Line) : '\n' ∉ line.chars := by
  cases line with
  | blank gap => exact gap.noFeed
  | comment indent remark hremark =>
    have hhash : '\n' ≠ '#' := by decide
    simpa [chars, hhash] using ⟨indent.noFeed, hremark⟩
  | entry before text after =>
    simpa [chars] using ⟨before.noFeed, text.noFeed, after.noFeed⟩

/-- **What is read on a line** is the entry that it was made of. -/
theorem entryOn?_chars (line : Line) : entryOn? line.chars = line.entry?.map EntryText.chars := by
  cases line with
  | blank gap =>
    -- nothing is left of blanks
    have htrim : Text.trim gap.chars = [] := Text.trim_append_blanks gap.blank []
    rw [chars, entryOn?, htrim]
    rfl
  | comment indent remark _ =>
    -- the remark may lose blanks at its end, and the `#` in front of it stays
    have hhash : Text.isBlank '#' = false := by decide
    obtain ⟨shorter, htrim⟩ := Text.exists_trim_cons indent.blank hhash remark
    rw [chars, entryOn?, htrim]
    rfl
  | entry before text after =>
    -- the entry is left without the blanks around it
    rw [chars, entryOn?, Text.trim_append before.blank after.blank text.trimmed]
    split
    · next hnothing => exact absurd hnothing text.something
    · next hcomment => exact absurd (congrArg List.head? hcomment) text.noComment
    · rfl

/-- **Every line** is blank, a comment or an entry. -/
theorem exists_chars_eq {chars : List Char} (h : '\n' ∉ chars) : ∃ line : Line, line.chars = chars := by
  obtain ⟨before, after, hchars, hbefore, hafter⟩ := Text.exists_trim chars
  have htrimmed := Text.isTrimmed_trim chars
  generalize Text.trim chars = inner at hchars htrimmed
  subst hchars
  obtain ⟨⟨hfront, hinner⟩, hback⟩ : ('\n' ∉ before ∧ '\n' ∉ inner) ∧ '\n' ∉ after := by
    simpa [and_assoc] using h
  -- what is left without the blanks around it decides
  by_cases hnothing : inner = []
  · -- nothing but blanks
    have hblank : ∀ c ∈ before ++ after, Text.isBlank c = true :=
      List.forall_mem_append.mpr ⟨hbefore, hafter⟩
    refine ⟨.blank ⟨before ++ after, List.all_eq_true.mpr hblank, ?_⟩, by simp [hnothing, Line.chars]⟩
    simpa using ⟨hfront, hback⟩
  · by_cases hcomment : inner.head? = some '#'
    · -- a remark behind a `#`
      obtain ⟨remark, rfl⟩ := List.head?_eq_some_iff.mp hcomment
      refine ⟨.comment ⟨before, List.all_eq_true.mpr hbefore, hfront⟩ (remark ++ after) ?_,
        by simp [Line.chars]⟩
      simpa using ⟨(not_or.mp (mt List.mem_cons.mpr hinner)).2, hback⟩
    · -- an entry
      exact ⟨.entry ⟨before, List.all_eq_true.mpr hbefore, hfront⟩
        ⟨inner, hnothing, hinner, htrimmed, hcomment⟩ ⟨after, List.all_eq_true.mpr hafter, hback⟩, rfl⟩

end Line

/-! ### Texts -/

/-- With a character in front of it a text has a longer first line. -/
theorem Joined.exists_cons {lines : List (List Char)} {text : List Char} (h : Joined lines text)
    (c : Char) : ∃ longer, Joined longer (c :: text) ∧
      ∀ line ∈ longer, line ∈ lines ∨ line = [c] ∨ ∃ shorter ∈ lines, line = c :: shorter := by
  cases h with
  | none =>
    -- the character is a text of one line
    exact ⟨[[c]], .last [c], by simp⟩
  | last =>
    -- the character stands in front of the only line
    exact ⟨[c :: text], .last _, by simp⟩
  | @line line ending rest lines ends more =>
    -- the character stands in front of the first line
    exact ⟨(c :: line) :: lines, .line ends more, by simp +contextual⟩

/-- **Every text** consists of lines. -/
theorem exists_joined (text : List Char) :
    ∃ lines : List Line, Joined (lines.map Line.chars) text := by
  suffices hlines : ∃ lines, Joined lines text ∧ ∀ line ∈ lines, '\n' ∉ line by
    obtain ⟨lines, hjoined, hfeed⟩ := hlines
    have hmade : lines ∈ Set.range (List.map Line.chars) := by
      rw [Set.range_list_map]
      exact fun line hmem => Line.exists_chars_eq (hfeed line hmem)
    obtain ⟨made, rfl⟩ := hmade
    exact ⟨made, hjoined⟩
  -- from the end of the text: a line feed ends an empty line, and anything else goes in front of a line
  induction text with
  | nil => exact ⟨[], .none, List.forall_mem_nil _⟩
  | cons c text ih =>
    obtain ⟨lines, hjoined, hfeed⟩ := ih
    by_cases hc : c = '\n'
    · -- a line feed ends an empty line in front
      subst hc
      refine ⟨[] :: lines, .line (.inl rfl) hjoined, ?_⟩
      exact List.forall_mem_cons.mpr ⟨List.not_mem_nil, hfeed⟩
    · -- any other character goes in front of the first line
      obtain ⟨longer, hlonger, hmem⟩ := hjoined.exists_cons c
      refine ⟨longer, hlonger, fun line hline => ?_⟩
      have hne : '\n' ≠ c := fun hfeed => hc hfeed.symm
      obtain hold | rfl | ⟨shorter, hshorter, rfl⟩ := hmem line hline
      · -- the line was there before
        exact hfeed line hold
      · -- the line is the character alone
        simpa using hne
      · -- the line was there before without the character
        simpa [hne] using hfeed shorter hshorter

/-- What is listed is what the lines were made of. -/
theorem listed_of_lines {lines : List Line} {text : String}
    (h : Joined (lines.map Line.chars) text.toList) (base : Path) :
    listed base text = (lines.filterMap Line.entry?).map fun entry => base.join entry.path := by
  have hfeed : ∀ line ∈ lines.map Line.chars, '\n' ∉ line :=
    List.forall_mem_map.mpr fun line _ => line.noFeed
  have hentries : (lines.map Line.chars).filterMap entryOn?
      = (lines.filterMap Line.entry?).map EntryText.chars := by
    rw [List.filterMap_map, List.map_filterMap]
    exact List.filterMap_congr fun line _ => line.entryOn?_chars
  rw [listed_of_joined h hfeed, hentries, List.map_map]
  rfl

/-! ### Listing files -/

/-- A listing file fails if there is no text to be read from it. -/
theorem entries_listing_error_iff {world : World} {file : Path} :
    (∃ error, (listing file).entries world = .error
        ((Cause.ofIo error).inContext s!"failed to read classpath file {file.display}")) ↔
      ¬∃ content, world.read file = .ok (.ofString content) := by
  simp only [← World.readText_eq_ok_iff]
  rw [Classpath.entries, listingEntries]
  cases world.readText file with
  | error error => exact iff_of_true ⟨error, rfl⟩ (by rintro ⟨_, ⟨⟩⟩)
  | ok text => exact iff_of_false (by rintro ⟨_, ⟨⟩⟩) (not_not_intro ⟨text, rfl⟩)

/-- **The lines of a listing file tell what is listed.**

* If the file holds a text, it has a directory above it, and of whatever lines the text is put together,
  the entries are those on the lines, in order: absolute ones as they are, and relative ones from that
  directory.
* Every text is put together of lines.
* There is an error exactly if no text can be read from the file. -/
theorem listing_told_by_lines (world : World) (file : Path) :
    (∀ content : String, world.read file = .ok (.ofString content) →
      ∃ directory, file.parent? = some directory ∧
        ∀ lines : List Line, Joined (lines.map Line.chars) content.toList →
          ∃ entries, (listing file).entries world = .ok entries ∧
            List.Forall₂ (Path.MeantFrom directory)
              ((lines.filterMap Line.entry?).map EntryText.path) entries) ∧
    (∀ content : String, ∃ lines : List Line, Joined (lines.map Line.chars) content.toList) ∧
    ((∃ error, (listing file).entries world = .error
        ((Cause.ofIo error).inContext s!"failed to read classpath file {file.display}")) ↔
      ¬∃ content, world.read file = .ok (.ofString content)) := by
  refine ⟨fun content hread => ?_, fun content => exists_joined content.toList,
    entries_listing_error_iff⟩
  obtain ⟨directory, hdirectory⟩ := World.exists_parent_of_read hread
  refine ⟨directory, hdirectory, fun lines hlines =>
    ⟨(lines.filterMap Line.entry?).map fun entry => directory.join entry.path, ?_, ?_⟩⟩
  · -- the entries that are read are those on the lines, from the directory of the file
    have hbase : listingBase file = directory := by rw [listingBase, hdirectory, Option.getD_some]
    rw [Classpath.entries, listingEntries, World.readText_eq_ok_iff.mpr hread]
    dsimp only
    rw [listed_of_lines hlines, hbase]
  · -- each of them is meant from there
    rw [List.forall₂_map_left_iff, List.forall₂_map_right_iff, List.forall₂_same]
    exact fun entry _ => Path.meantFrom_join directory entry.path

/-- A text of every kind of line. Some lines end with a carriage return and some do not, the last one
does not end, and among the blanks are some beyond ASCII. -/
def listedText : String :=
  "\u2028\r\n\t# a remark\n \u0085lib #1\u00a0\r\n/opt/x.jar\r\n#\n\ny"

/-- A world with a listing file of that text. -/
def listedWorld : World where
  files := ⟨[(Bytes.ofString "p", .directory
    [(Bytes.ofString "list", .file (.ofString listedText) false)])]⟩
  environment := ⟨[]⟩
  here := .located []
  started := []

/-- The lines of that text. -/
def listedLines : List Line :=
  [.blank ⟨['\u2028'], by decide, by decide⟩,
   .comment ⟨['\t'], by decide, by decide⟩ " a remark".toList (by decide),
   .entry ⟨[' ', '\u0085'], by decide, by decide⟩
    ⟨"lib #1".toList, by decide, by decide, by decide, by decide⟩
    ⟨['\u00a0'], by decide, by decide⟩,
   .entry ⟨[], by decide, by decide⟩
    ⟨"/opt/x.jar".toList, by decide, by decide, by decide, by decide⟩
    ⟨[], by decide, by decide⟩,
   .comment ⟨[], by decide, by decide⟩ [] (by decide),
   .blank ⟨[], by decide, by decide⟩,
   .entry ⟨[], by decide, by decide⟩
    ⟨"y".toList, by decide, by decide, by decide, by decide⟩ ⟨[], by decide, by decide⟩]

/-- There, three paths are listed: an absolute one as it is, and two from the directory of the file. -/
theorem listing_told_by_lines_listedWorld :
    (listing (.ofString "p/list")).entries listedWorld
      = .ok [.ofString "p/lib #1", .ofString "/opt/x.jar", .ofString "p/y"] := by
  obtain ⟨htext, -, -⟩ := listing_told_by_lines listedWorld (.ofString "p/list")
  obtain ⟨directory, hdirectory, hlines⟩ := htext listedText (by decide +kernel)
  obtain rfl : Path.ofString "p" = directory := by
    have hparent : (Path.ofString "p/list").parent? = some (.ofString "p") := by decide
    exact Option.some.inj (hparent.symm.trans hdirectory)
  have hjoined : Joined (listedLines.map Line.chars) listedText.toList :=
    .line (.inr rfl) <| .line (.inl rfl) <| .line (.inr rfl) <| .line (.inr rfl) <| .line (.inl rfl) <|
      .line (.inl rfl) <| .last _
  obtain ⟨entries, hentries, hmeant⟩ := hlines listedLines hjoined
  obtain _ | ⟨hfirst, _ | ⟨hsecond, _ | ⟨hthird, ⟨⟩⟩⟩⟩ := hmeant
  rw [hentries, hfirst.eq_join, hsecond.eq_join, hthird.eq_join]
  decide

end SchemaBuild.Classpath
