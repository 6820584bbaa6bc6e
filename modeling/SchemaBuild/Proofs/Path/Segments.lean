import SchemaBuild.FileSystem.Walk

/-!
# Paths put together from stretches

A path is cut at its slashes and put together with slashes again. What is cut comes out as it was put
in, so the stretches of a joined path are those of its two parts, and the paths above a path begin as
the path does.

* `Bytes.split_append` — a string cut at a separator in it is its two parts, each cut by itself;
* `Path.plainSteps_join` — the steps of a joined path are those of the base and then those of the
  path behind it;
* `Path.components_prefix_of_mem_parents` — a path above a path leads along the beginning of it.
-/

namespace SchemaBuild

namespace Bytes

variable {separator : UInt8}

/-- Cutting at a separator in the middle. -/
theorem split_append (separator : UInt8) (a b : Bytes) :
    split separator (a ++ separator :: b) = split separator a ++ split separator b := by
  induction a with
  | nil => simp [split]
  | cons c a ih =>
    rw [List.cons_append, split, split, ih]
    by_cases hc : c = separator
    · -- the separator begins another piece
      rw [if_pos hc, if_pos hc, List.cons_append]
    · -- any other byte belongs to the first piece
      rw [if_neg hc, if_neg hc]
      obtain ⟨piece, pieces, hsplit⟩ := List.exists_cons_of_ne_nil (split_ne_nil separator a)
      rw [hsplit]
      rfl

/-- Pieces without the separator come out of a joined string as they were put in. -/
theorem split_join {pieces : List Bytes} (hpieces : ∀ piece ∈ pieces, separator ∉ piece)
    (hne : pieces ≠ []) : split separator (join separator pieces) = pieces := by
  induction pieces with
  | nil => exact absurd rfl hne
  | cons piece rest ih =>
    have hpiece : split separator piece = [piece] :=
      split_of_not_mem (hpieces piece List.mem_cons_self)
    cases rest with
    | nil =>
      -- there is no separator behind the last piece
      exact hpiece
    | cons next rest =>
      -- a separator stands behind each of the others
      have hrest := ih (fun other h => hpieces other (List.mem_cons_of_mem _ h)) (by simp)
      rw [join, split_append, hpiece, hrest]
      · rfl
      · simp

/-- A string with the separator in front of every piece. -/
theorem split_flatMap {pieces : List Bytes} (hpieces : ∀ piece ∈ pieces, separator ∉ piece)
    {front : Bytes} (hfront : separator ∉ front) :
    split separator (front ++ pieces.flatMap (separator :: ·)) = front :: pieces := by
  induction pieces generalizing front with
  | nil =>
    rw [List.flatMap_nil, List.append_nil]
    exact split_of_not_mem hfront
  | cons piece rest ih =>
    have hrest := ih (fun other h => hpieces other (List.mem_cons_of_mem _ h))
      (hpieces piece List.mem_cons_self)
    rw [List.flatMap_cons, List.cons_append, split_append, split_of_not_mem hfront, hrest]
    rfl

end Bytes

namespace Path

/-! ### Joined paths -/

/-- A path without a slash in it is relative. -/
theorem isAbsolute_of_noSlash {name : Bytes} (hslash : slash ∉ name) (hne : name ≠ []) :
    (Path.mk name).isAbsolute = false := by
  obtain ⟨first, rest, rfl⟩ := List.exists_cons_of_ne_nil hne
  have hfirst : first ≠ slash := fun h => hslash (h ▸ List.mem_cons_self)
  simpa [isAbsolute] using hfirst

/-- The spelling of a path behind a base that has to be followed by a slash. -/
theorem join_bytes_of_open {base path : Path} (hpath : path.isAbsolute = false)
    (hopen : (base.isEmpty || base.endsInSlash) = false) :
    (base.join path).bytes = base.bytes ++ slash :: path.bytes := by
  rw [join, if_neg (by simp [hpath]), if_neg (by simp [hopen])]

/-- The path behind a base is the end of the joined path. -/
theorem join_bytes_eq_append {path : Path} (base : Path) (hpath : path.isAbsolute = false) :
    ∃ front, (base.join path).bytes = front ++ path.bytes ∧
      (front = base.bytes ∨ front = base.bytes ++ [slash]) := by
  rw [join, hpath, if_neg Bool.false_ne_true]
  split
  · exact ⟨base.bytes, rfl, .inl rfl⟩
  · exact ⟨base.bytes ++ [slash], by simp, .inr rfl⟩

/-- An absolute path stands for itself. -/
theorem join_of_isAbsolute {path : Path} (h : path.isAbsolute = true) (base : Path) :
    base.join path = path := if_pos h

/-- **What a path stands for that is meant from a base**: an absolute path for itself, byte for byte, and
a relative one for the path behind the base, after a slash unless the base is empty or ends in one. -/
structure MeantFrom (base path placed : Path) : Prop where
  kept : path.isAbsolute = true → placed = path
  behind : path.isAbsolute = false → placed.bytes
    = base.bytes ++ (if base.isEmpty || base.endsInSlash then [] else [slash]) ++ path.bytes

theorem meantFrom_join (base path : Path) : MeantFrom base path (base.join path) where
  kept hpath := join_of_isAbsolute hpath base
  behind hpath := by
    cases hopen : base.isEmpty || base.endsInSlash with
    | true =>
      -- nothing is put between the two
      rw [join, hpath, hopen, if_neg Bool.false_ne_true, if_pos rfl, if_pos rfl,
        List.append_nil]
    | false =>
      -- a slash is put between the two
      rw [join_bytes_of_open hpath hopen, if_neg Bool.false_ne_true, List.append_assoc,
        List.singleton_append]

/-- Nothing else can be meant. -/
theorem MeantFrom.eq_join {base path placed : Path} (h : MeantFrom base path placed) :
    placed = base.join path := by
  have hjoin := meantFrom_join base path
  cases hpath : path.isAbsolute with
  | true =>
    -- an absolute path is kept
    rw [h.kept hpath, hjoin.kept hpath]
  | false =>
    -- a relative path is put behind the base
    have hbytes : placed.bytes = (base.join path).bytes := by rw [h.behind hpath, hjoin.behind hpath]
    exact congrArg Path.mk hbytes

/-- A name at the end of a path is no slash. -/
theorem endsInSlash_join {name : Bytes} (base : Path) (hslash : slash ∉ name) (hne : name ≠ []) :
    (base.join ⟨name⟩).endsInSlash = false := by
  obtain ⟨front, hfront, -⟩ := join_bytes_eq_append base (isAbsolute_of_noSlash hslash hne)
  have hlast : name.getLast? ≠ some slash := fun h => hslash (List.mem_of_getLast? h)
  obtain ⟨last, hsome⟩ := Option.ne_none_iff_exists'.mp (mt List.getLast?_eq_none_iff.mp hne)
  rw [hsome] at hlast
  rw [endsInSlash, hfront, List.getLast?_append, hsome]
  simpa using hlast

/-- The stretches of a joined path, empty ones aside, are those of its two parts. -/
theorem segments_join {base path : Path} (hpath : path.isAbsolute = false) :
    (base.join path).segments.filter (!·.isEmpty)
      = base.segments.filter (!·.isEmpty) ++ path.segments.filter (!·.isEmpty) := by
  unfold segments
  cases hopen : base.isEmpty || base.endsInSlash with
  | false => rw [join_bytes_of_open hpath hopen, Bytes.split_append, List.filter_append]
  | true =>
    rw [join, if_neg (by simp [hpath]), if_pos hopen]
    show (Bytes.split slash (base.bytes ++ path.bytes)).filter _ = _
    obtain hempty | hslash := Bool.or_eq_true_iff.mp hopen
    · -- nothing stands in front
      have hnil : base.bytes = [] := List.isEmpty_iff.mp hempty
      rw [hnil]
      rfl
    · -- the slash at the end of the base is the separator, and an empty stretch stood behind it
      have hlast : base.bytes.getLast? = some slash := by simpa [endsInSlash] using hslash
      obtain ⟨front, hfront⟩ := List.getLast?_eq_some_iff.mp hlast
      rw [hfront, List.append_assoc, List.singleton_append, Bytes.split_append, Bytes.split_append,
        List.filter_append, List.filter_append]
      simp [Bytes.split]

/-- **The steps of a joined path** are those of the base and those of the path behind it. -/
theorem plainSteps_join {base path : Path} (hpath : path.isAbsolute = false) :
    (base.join path).plainSteps = base.plainSteps ++ path.plainSteps := by
  unfold plainSteps
  rw [segments_join hpath, List.map_append]

/-- A path of one stretch is one step. -/
theorem plainSteps_of_noSlash {name : Bytes} (hslash : slash ∉ name) (hne : name ≠ []) :
    (Path.mk name).plainSteps = [Step.ofSegment name] := by
  have hsegments : (Path.mk name).segments = [name] := Bytes.split_of_not_mem hslash
  rw [plainSteps, hsegments]
  simp [hne]

/-- Slashes in front of a path are no steps. -/
theorem plainSteps_slashes (n : Nat) (bytes : Bytes) :
    (Path.mk (List.replicate n slash ++ bytes)).plainSteps = (Path.mk bytes).plainSteps := by
  induction n with
  | zero => rfl
  | succ n ih =>
    -- one more slash is one more empty stretch
    have hsegments : (Path.mk (List.replicate (n + 1) slash ++ bytes)).segments
        = [] :: (Path.mk (List.replicate n slash ++ bytes)).segments := by
      rw [segments, List.replicate_succ, List.cons_append, Bytes.split, if_pos rfl, segments]
    rw [← ih, plainSteps, hsegments, plainSteps]
    rfl

/-! ### Paths above a path -/

/-- Every path has a first stretch, and it decides how the path begins. -/
theorem exists_parts (path : Path) : ∃ first rest, path.segments = first :: rest ∧
    path.parts = if path.isAbsolute then (.root, rest)
      else if first = dot then (.current, rest) else (.plain, first :: rest) := by
  obtain ⟨first, rest, hsegments⟩ :=
    List.exists_cons_of_ne_nil (Bytes.split_ne_nil slash path.bytes)
  exact ⟨first, rest, hsegments, by rw [parts, show path.segments = _ from hsegments]⟩

/-- Stretches that can stand behind a beginning: no slash is in them, and what stands first behind
no beginning is itself no beginning. -/
structure Start.Fits (start : Start) (segments : List Bytes) : Prop where
  noSlash : ∀ segment ∈ segments, slash ∉ segment
  plain : start = .plain → ∀ first ∈ segments.head?, first ≠ dot ∧ (first = [] → segments = [[]])

/-- The stretches of a path fit its beginning. -/
theorem parts_fits (path : Path) : path.parts.1.Fits path.parts.2 := by
  obtain ⟨first, rest, hsegments, hparts⟩ := path.exists_parts
  have hnoSlash : ∀ segment ∈ first :: rest, slash ∉ segment := by
    rw [← hsegments]
    exact fun segment hmem => Bytes.not_mem_of_mem_split hmem
  have hrest : ∀ segment ∈ rest, slash ∉ segment :=
    fun segment hmem => hnoSlash segment (List.mem_cons_of_mem _ hmem)
  rw [hparts]
  split
  · -- the root was cut off, so no stretch has a slash
    exact ⟨hrest, fun hplain => by cases hplain⟩
  · next habsolute =>
    split
    · -- the dot was cut off
      exact ⟨hrest, fun hplain => by cases hplain⟩
    · next hdot =>
      refine ⟨hnoSlash, fun _ other hother => ?_⟩
      obtain rfl : first = other := by simpa using hother
      refine ⟨hdot, ?_⟩
      rintro rfl
      -- an empty first stretch of a path that does not begin with a slash is all of it
      have hbytes : Bytes.join slash ([] :: rest) = path.bytes := by
        rw [← hsegments]
        exact Bytes.join_split slash path.bytes
      cases rest with
      | nil => rfl
      | cons next rest =>
        refine absurd ?_ habsolute
        rw [isAbsolute, ← hbytes]
        rfl

/-- What fits still fits when stretches at the end are left out. -/
theorem Start.Fits.of_front {start : Start} {front segments : List Bytes} (h : start.Fits segments)
    (hfront : front <+: segments) : start.Fits front := by
  obtain ⟨behind, rfl⟩ := hfront
  refine ⟨fun other hmem => h.noSlash other (List.mem_append_left _ hmem), ?_⟩
  intro hplain first hfirst
  cases front with
  | nil =>
    -- there is no first stretch
    cases hfirst
  | cons head front =>
    -- the first stretch is that of the whole
    obtain rfl : head = first := by simpa using hfirst
    obtain ⟨hdot, hempty⟩ := h.plain hplain head rfl
    refine ⟨hdot, fun hnil => ?_⟩
    have hall := hempty hnil
    simp at hall
    simp [hall]

/-- A spelling that was put together begins at the root if that is its beginning. -/
theorem isAbsolute_assemble_iff {start : Start} {segments : List Bytes} (h : start.Fits segments) :
    (assemble start segments).isAbsolute = true ↔ start = .root := by
  cases start with
  | root =>
    -- a slash stands in front
    exact iff_of_true rfl rfl
  | current =>
    -- a dot stands in front
    have hdot : (Bytes.ascii '.' == slash) = false := by decide
    exact iff_of_false (by simp [assemble, isAbsolute, dot, hdot]) (by simp)
  | plain =>
    -- a slash in front would make the first stretch an empty one
    refine iff_of_false ?_ (by simp)
    cases segments with
    | nil => simp [assemble, isAbsolute, Bytes.join]
    | cons first rest =>
      cases first with
      | nil =>
        rw [(h.plain rfl [] rfl).2 rfl]
        simp [assemble, isAbsolute, Bytes.join]
      | cons b first =>
        have hb : b ≠ slash := fun hb => h.noSlash _ List.mem_cons_self (by simp [hb])
        cases rest <;> simpa [isAbsolute, assemble, Bytes.join] using hb

/-- The stretches that stand for what a path begins with. -/
def Start.segments : Start → List Bytes
  | root => [[]]
  | current => [dot]
  | plain => []

/-- The stretches of what was put together are those of its parts. -/
theorem segments_assemble {start : Start} {segments : List Bytes}
    (hslash : ∀ segment ∈ segments, slash ∉ segment) (hne : segments ≠ []) :
    (assemble start segments).segments = start.segments ++ segments := by
  cases start with
  | root =>
    -- in front of the first slash there is an empty stretch
    have hsplit : (assemble .root segments).segments
        = [] :: Bytes.split slash (Bytes.join slash segments) := Bytes.split_append slash [] _
    rw [Bytes.split_join hslash hne] at hsplit
    exact hsplit
  | current => exact Bytes.split_flatMap hslash (by decide)
  | plain =>
    obtain ⟨first, rest, rfl⟩ := List.exists_cons_of_ne_nil hne
    exact Bytes.split_join hslash hne

/-- What was put together is taken apart again. -/
theorem parts_assemble {start : Start} {segments : List Bytes} (h : start.Fits segments)
    (hne : segments ≠ []) : (assemble start segments).parts = (start, segments) := by
  rw [parts, segments_assemble h.noSlash hne]
  cases start with
  | root => rfl
  | current => rfl
  | plain =>
    obtain ⟨first, rest, rfl⟩ := List.exists_cons_of_ne_nil hne
    obtain ⟨hdot, -⟩ := h.plain rfl first rfl
    have habsolute : (assemble .plain (first :: rest)).isAbsolute = false :=
      Bool.eq_false_iff.mpr fun hroot => by cases (isAbsolute_assemble_iff h).mp hroot
    simp [Start.segments, habsolute, hdot]

/-- A spelling that was put together has the components of its stretches. -/
theorem components_assemble {start : Start} {segments : List Bytes} (h : start.Fits segments) :
    (assemble start segments).components
      = start.components ++ segments.filterMap Component.ofSegment? := by
  cases segments with
  | nil => cases start <;> rfl
  | cons first rest => rw [components, parts_assemble h (List.cons_ne_nil first rest)]

theorem components_prefix_of_mem_parentsOf {start : Start} {reversed : List Bytes} {above : Path}
    (hfits : start.Fits reversed.reverse) (h : above ∈ parentsOf start reversed) :
    above.components <+: start.components ++ reversed.reverse.filterMap Component.ofSegment? := by
  -- from the end of the path, where the nearest path above it is left
  induction reversed with
  | nil =>
    unfold parentsOf at h
    split at h
    · -- the path above a single stretch is the empty one
      obtain rfl : above = ⟨[]⟩ := by simpa using h
      exact List.nil_prefix
    · -- there is none above the root
      cases h
  | cons segment reversed ih =>
    rw [List.reverse_cons] at hfits ⊢
    have hshorter : ∀ {front : List Bytes}, front <+: reversed.reverse → start.Fits front :=
      fun hfront => hfits.of_front (hfront.trans (List.prefix_append _ _))
    rw [List.filterMap_append, ← List.append_assoc]
    unfold parentsOf at h
    split at h
    · -- a filler at the end makes no path of its own
      exact (ih (hshorter List.prefix_rfl) h).trans (List.prefix_append _ _)
    · obtain rfl | h := List.mem_cons.mp h
      · -- the nearest path above has all stretches but the last, and no fillers at its end
        have hdrop : (reversed.dropWhile isFiller).reverse <+: reversed.reverse :=
          List.reverse_prefix.mpr (List.dropWhile_suffix _)
        obtain ⟨behind, hbehind⟩ := hdrop
        rw [components_assemble (hshorter ⟨behind, hbehind⟩), ← hbehind, List.filterMap_append,
          ← List.append_assoc, List.append_assoc]
        exact List.prefix_append _ _
      · -- it is one of those above the nearest one
        exact (ih (hshorter List.prefix_rfl) h).trans (List.prefix_append _ _)

/-- **A path above a path** leads along the beginning of it. -/
theorem components_prefix_of_mem_parents {path above : Path} (h : above ∈ path.parents) :
    above.components <+: path.components := by
  have hfits := path.parts_fits
  rw [← path.parts.2.reverse_reverse] at hfits
  have hprefix := components_prefix_of_mem_parentsOf hfits h
  rwa [List.reverse_reverse] at hprefix

end Path

end SchemaBuild
