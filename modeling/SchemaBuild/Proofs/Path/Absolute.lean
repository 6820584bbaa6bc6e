import SchemaBuild.Proofs.Path.Segments

/-!
# The absolute form of a path

The absolute form puts the **names** of a path, the stretches that are no fillers, behind a base: the
root, or the working directory. So it takes the steps of the base and then those of the path that do
not stay, in their order; `..` is a step like any other. It is no longer than the base, a slash and
the path together, and for an absolute path no longer than the path.

* `Path.absoluteFrom_eq` — the base and the names, and a slash at the end if the path has one;
* `Path.exists_absoluteFrom_bytes` — how it is spelled: the base, and slashes and bytes of the path;
* `Path.plainSteps_absoluteFrom` — its steps;
* `Path.same_absoluteFrom` — it is another spelling of the path, if that is absolute already;
* `Path.length_absoluteFrom_le`, `Path.length_absoluteFrom_le_of_isAbsolute` — its length.
-/

namespace SchemaBuild

namespace Bytes

variable {separator : UInt8}

/-- Pieces behind a first one. -/
theorem join_cons (separator : UInt8) (piece : Bytes) (pieces : List Bytes) :
    join separator (piece :: pieces) = piece ++ pieces.flatMap (separator :: ·) := by
  induction pieces generalizing piece with
  | nil => simp [join]
  | cons next pieces ih => rw [join, ih, List.flatMap_cons, List.cons_append]; simp

/-- What is in a piece is in the string. -/
theorem mem_of_mem_split {bytes piece : Bytes} {b : UInt8} (hpiece : piece ∈ split separator bytes)
    (hb : b ∈ piece) : b ∈ bytes := by
  rw [← join_split separator bytes]
  obtain ⟨first, rest, hsplit⟩ := List.exists_cons_of_ne_nil (split_ne_nil separator bytes)
  rw [hsplit] at hpiece ⊢
  rw [join_cons]
  obtain rfl | hrest := List.mem_cons.mp hpiece
  · -- in the first piece
    exact List.mem_append_left _ hb
  · -- in one of the pieces behind it
    exact List.mem_append_right _ (List.mem_flatMap.mpr ⟨piece, hrest, List.mem_cons_of_mem _ hb⟩)

/-- With a separator in front of every piece a string is longer by one. -/
theorem length_flatMap_split (separator : UInt8) (bytes : Bytes) :
    ((split separator bytes).flatMap (separator :: ·)).length = bytes.length + 1 := by
  have hjoin := congrArg List.length (join_split separator bytes)
  obtain ⟨first, rest, hsplit⟩ := List.exists_cons_of_ne_nil (split_ne_nil separator bytes)
  rw [hsplit, join_cons, List.length_append] at hjoin
  rw [hsplit, List.flatMap_cons, List.length_append, List.length_cons]
  omega

/-- Leaving pieces out makes a string shorter, if it changes it at all. -/
theorem length_flatMap_le_of_sublist (separator : UInt8) {few many : List Bytes}
    (h : few.Sublist many) :
    (few.flatMap (separator :: ·)).length ≤ (many.flatMap (separator :: ·)).length := by
  induction h with
  | slnil => exact Nat.le_refl _
  | cons piece _ ih =>
    -- one piece is left out
    rw [List.flatMap_cons, List.length_append]
    exact Nat.le_add_left_of_le ih
  | cons_cons piece _ ih =>
    -- both have the piece
    rw [List.flatMap_cons, List.flatMap_cons, List.length_append, List.length_append]
    exact Nat.add_le_add_left ih _

/-- A string that ends in the separator has an empty piece at its end. -/
theorem split_concat (separator : UInt8) (bytes : Bytes) :
    split separator (bytes ++ [separator]) = split separator bytes ++ [[]] := by
  rw [split_append]
  rfl

end Bytes

namespace Path

/-! ### Names behind a base -/

/-- The stretches of a path that are no fillers: its names, and every `..`. -/
def names (path : Path) : List Bytes := path.segments.filter (!isFiller ·)

/-- Stretches behind a base, one after the other. -/
def descend (base : Path) (stretches : List Bytes) : Path :=
  stretches.foldl (fun path stretch => path.join ⟨stretch⟩) base

@[simp] theorem descend_nil (base : Path) : base.descend [] = base := rfl

@[simp] theorem descend_cons (base : Path) (stretch : Bytes) (stretches : List Bytes) :
    base.descend (stretch :: stretches) = (base.join ⟨stretch⟩).descend stretches := rfl

theorem descend_append (base : Path) (front back : List Bytes) :
    base.descend (front ++ back) = (base.descend front).descend back :=
  List.foldl_append

theorem noSlash_of_mem_names (path : Path) : ∀ name ∈ path.names, slash ∉ name :=
  fun _ hmem => Bytes.not_mem_of_mem_split (List.mem_filter.mp hmem).1

theorem ne_nil_of_mem_names (path : Path) : ∀ name ∈ path.names, name ≠ [] := by
  rintro _ hmem rfl
  exact absurd (List.mem_filter.mp hmem).2 (by decide)

/-- A stretch is no absolute path, also if it is empty. -/
theorem isAbsolute_of_stretch {stretch : Bytes} (h : slash ∉ stretch) :
    (Path.mk stretch).isAbsolute = false := by
  cases stretch with
  | nil => rfl
  | cons first rest => exact isAbsolute_of_noSlash h (by simp)

section Descend

variable (base : Path) {stretches : List Bytes} (hstretches : ∀ stretch ∈ stretches, slash ∉ stretch)

include hstretches

/-- Stretches behind a base are the base, and slashes and bytes of the stretches behind it. -/
theorem exists_descend_bytes :
    ∃ behind, (base.descend stretches).bytes = base.bytes ++ behind ∧
      ∀ b ∈ behind, b = slash ∨ ∃ stretch ∈ stretches, b ∈ stretch := by
  induction stretches generalizing base with
  | nil => exact ⟨[], by simp, by simp⟩
  | cons stretch stretches ih =>
    obtain ⟨behind, hbytes, hbehind⟩ := ih (base.join ⟨stretch⟩) fun other h =>
      hstretches other (List.mem_cons_of_mem _ h)
    have hrest : ∀ b ∈ behind, b = slash ∨ ∃ other ∈ stretch :: stretches, b ∈ other :=
      fun b hb => (hbehind b hb).imp id fun ⟨other, hmem, hb⟩ => ⟨other, by simp [hmem], hb⟩
    have hfirst : ∀ b ∈ stretch, b = slash ∨ ∃ other ∈ stretch :: stretches, b ∈ other :=
      fun b hb => .inr ⟨stretch, by simp, hb⟩
    obtain ⟨front, hfront, hends⟩ := join_bytes_eq_append base
      (isAbsolute_of_stretch (hstretches stretch List.mem_cons_self))
    rw [descend_cons, hbytes, hfront]
    obtain rfl | rfl := hends
    · -- the base is empty or ends in a slash, so nothing stands between the two
      refine ⟨stretch ++ behind, by simp, fun b hb => ?_⟩
      exact (List.mem_append.mp hb).elim (hfirst b) (hrest b)
    · -- a slash stands between the two
      refine ⟨slash :: (stretch ++ behind), by simp, fun b hb => ?_⟩
      obtain rfl | hb := List.mem_cons.mp hb
      · exact .inl rfl
      · exact (List.mem_append.mp hb).elim (hfirst b) (hrest b)

/-- A stretch takes its length and a slash. -/
theorem length_descend_le :
    (base.descend stretches).bytes.length
      ≤ base.bytes.length + (stretches.flatMap (slash :: ·)).length := by
  induction stretches generalizing base with
  | nil => simp
  | cons stretch stretches ih =>
    have hrest := ih (base.join ⟨stretch⟩) fun other h =>
      hstretches other (List.mem_cons_of_mem _ h)
    obtain ⟨front, hfront, hends⟩ := join_bytes_eq_append base
      (isAbsolute_of_stretch (hstretches stretch List.mem_cons_self))
    have hlength : front.length ≤ base.bytes.length + 1 := by
      obtain rfl | rfl := hends <;> simp
    rw [hfront, List.length_append] at hrest
    rw [descend_cons, List.flatMap_cons, List.length_append, List.length_cons]
    dsimp only at hrest
    omega

/-- Behind a slash the first stretch needs none. -/
theorem length_descend_lt (hclosed : base.endsInSlash = true) (hne : stretches ≠ []) :
    (base.descend stretches).bytes.length
      < base.bytes.length + (stretches.flatMap (slash :: ·)).length := by
  obtain ⟨stretch, rest, rfl⟩ := List.exists_cons_of_ne_nil hne
  have hrest := length_descend_le (base.join ⟨stretch⟩) fun other h =>
    hstretches other (List.mem_cons_of_mem _ h)
  have habsolute := isAbsolute_of_stretch (hstretches stretch List.mem_cons_self)
  have hbytes : (base.join ⟨stretch⟩).bytes = base.bytes ++ stretch := by
    rw [join, if_neg (by simp [habsolute]), if_pos (by simp [hclosed])]
  rw [hbytes, List.length_append] at hrest
  rw [descend_cons, List.flatMap_cons, List.length_append, List.length_cons]
  omega

/-- The steps of stretches behind a base; an empty stretch is none. -/
theorem plainSteps_descend :
    (base.descend stretches).plainSteps
      = base.plainSteps ++ (stretches.filter (!·.isEmpty)).map Step.ofSegment := by
  induction stretches generalizing base with
  | nil => simp
  | cons stretch stretches ih =>
    have hslash := hstretches stretch List.mem_cons_self
    have hplain : (Path.mk stretch).plainSteps
        = ([stretch].filter (!·.isEmpty)).map Step.ofSegment := by
      rw [plainSteps, show (Path.mk stretch).segments = [stretch] from Bytes.split_of_not_mem hslash]
    have hrest := ih (base.join ⟨stretch⟩) fun other h => hstretches other (List.mem_cons_of_mem _ h)
    rw [descend_cons, hrest, plainSteps_join (isAbsolute_of_stretch hslash), hplain,
      List.append_assoc, ← List.map_append, ← List.filter_append]
    rfl

end Descend

/-- A slash is put at the end of a path that has none there. -/
theorem join_nil (path : Path) :
    path.join ⟨[]⟩ =
      if path.isEmpty || path.endsInSlash then path else ⟨path.bytes ++ [slash]⟩ := by
  rw [join, if_neg (by simp [isAbsolute])]
  split <;> simp

/-! ### The names of a path -/

/-- The steps of the names are those of the path that do not stay. -/
theorem names_map_ofSegment (path : Path) :
    path.names.map Step.ofSegment = path.plainSteps.filter (· ≠ .stay) := by
  rw [plainSteps, List.filter_map, List.filter_filter, names]
  congr 1
  refine List.filter_congr fun segment _ => ?_
  by_cases hdot : segment = dot
  · -- a dot stays where it is, and is no name
    subst hdot
    rfl
  · -- any other segment moves, to a name or up
    have hmove : Step.ofSegment segment ≠ .stay := by
      rw [Step.ofSegment, if_neg hdot]
      split <;> simp
    simp [isFiller, hdot, hmove]

/-- Names behind a beginning are put behind a base one after the other. -/
theorem extend_filterMap (base : Path) (segments : List Bytes) :
    extend base (segments.filterMap Component.ofSegment?)
      = base.descend (segments.filter (!isFiller ·)) := by
  induction segments generalizing base with
  | nil => rfl
  | cons segment segments ih =>
    cases hfiller : isFiller segment with
    | true =>
      -- a filler is no component
      rw [List.filterMap_cons_none (by simp [Component.ofSegment?, hfiller]),
        List.filter_cons_of_neg (by simp [hfiller])]
      exact ih base
    | false =>
      rw [List.filter_cons_of_pos (by simp [hfiller]), descend_cons, ← ih]
      -- two dots are the parent, and anything else is a name
      by_cases hparent : segment = dotDot
      · subst hparent
        rfl
      · rw [List.filterMap_cons_some (b := .name segment)]
        · rfl
        · simp [Component.ofSegment?, hfiller, hparent]

/-- A path that begins at the root has nothing before its first slash. -/
theorem segments_of_isAbsolute {path : Path} {rest : Bytes} (h : path.bytes = slash :: rest) :
    path.segments = [] :: Bytes.split slash rest := by
  rw [segments, h, Bytes.split, if_pos rfl]

theorem exists_of_isAbsolute {path : Path} (h : path.isAbsolute = true) :
    ∃ rest, path.bytes = slash :: rest := by
  cases hbytes : path.bytes with
  | nil => simp [isAbsolute, hbytes] at h
  | cons first rest =>
    have hfirst : first = slash := by simpa [isAbsolute, hbytes] using h
    exact ⟨rest, by rw [hfirst]⟩

/-- The stretches of a path are those of its beginning and those behind it. -/
theorem segments_eq (path : Path) : path.segments = path.parts.1.segments ++ path.parts.2 := by
  obtain ⟨first, rest, hsegments, hparts⟩ := path.exists_parts
  rw [hparts, hsegments]
  split
  · next habsolute =>
    -- the first segment is the empty one before the root
    obtain ⟨bytes, hbytes⟩ := exists_of_isAbsolute habsolute
    rw [segments_of_isAbsolute hbytes] at hsegments
    obtain ⟨rfl, rfl⟩ := List.cons.inj hsegments
    rfl
  · split
    · next hdot =>
      -- a dot at the beginning is kept
      subst hdot
      rfl
    · -- any other first segment is one of the others
      rfl

theorem Start.isFiller_of_mem {start : Start} {segment : Bytes} (h : segment ∈ start.segments) :
    isFiller segment = true := by
  cases start with
  | root =>
    -- the segment before the root is empty
    rw [List.mem_singleton.mp h]
    rfl
  | current =>
    -- the dot at the beginning is a filler
    rw [List.mem_singleton.mp h]
    rfl
  | plain => cases h

/-- The beginning of a path is no name. -/
theorem parts_names (path : Path) : path.parts.2.filter (!isFiller ·) = path.names := by
  have hnone : path.parts.1.segments.filter (!isFiller ·) = [] :=
    List.filter_eq_nil_iff.mpr fun segment hmem => by simp [Start.isFiller_of_mem hmem]
  rw [names, segments_eq, List.filter_append, hnone, List.nil_append]

theorem components_of_isAbsolute {path : Path} (h : path.isAbsolute = true) :
    path.components = .root :: path.parts.2.filterMap Component.ofSegment? := by
  obtain ⟨first, rest, -, hparts⟩ := path.exists_parts
  rw [components, hparts, if_pos h]
  rfl

/-- Behind the beginning no component is a beginning. -/
theorem current_notMem (segments : List Bytes) :
    Component.current ∉ segments.filterMap Component.ofSegment? := by
  intro h
  obtain ⟨segment, -, hsegment⟩ := List.mem_filterMap.mp h
  rw [Component.ofSegment?] at hsegment
  split at hsegment
  · -- a filler is no component
    cases hsegment
  · -- the others are no dots
    split at hsegment <;> cases hsegment

/-- A leading dot of a relative path is no step, either. -/
theorem componentsInside_of_relative {path : Path} (h : path.isAbsolute = false) :
    path.componentsInside = path.parts.2.filterMap Component.ofSegment? := by
  obtain ⟨first, rest, -, hparts⟩ := path.exists_parts
  rw [h, if_neg Bool.false_ne_true] at hparts
  rw [componentsInside, components, hparts]
  by_cases hdot : first = dot
  · -- the dot at the beginning is dropped
    rw [if_pos hdot]
    rfl
  · -- there is no dot at the beginning, and none further on
    rw [if_neg hdot]
    split
    · next hcurrent =>
      have hmem : Component.current ∈ (first :: rest).filterMap Component.ofSegment? := by
        rw [show (first :: rest).filterMap Component.ofSegment? = _ from hcurrent]
        exact List.mem_cons_self
      exact absurd hmem (current_notMem _)
    · rfl

/-! ### The absolute form -/

/-- What the absolute form of a path begins with, as seen from the directory `here`. -/
def baseFrom (here path : Path) : Path :=
  if path.isAbsolute then if path.hasDoubleRoot then ⟨[slash, slash]⟩ else ⟨[slash]⟩ else here

/-- The stretches behind the base: the names, and an empty one if the path ends in a slash. -/
def trail (path : Path) : List Bytes := path.names ++ if path.endsInSlash then [[]] else []

/-- **The absolute form** is the base and the names, and a slash at the end if the path has one. -/
theorem absoluteFrom_eq (here path : Path) :
    absoluteFrom here path = (baseFrom here path).descend path.trail := by
  have hspelled : (if path.isAbsolute then
      if path.hasDoubleRoot then extend ⟨[slash, slash]⟩ (path.components.drop 1)
      else extend ⟨[]⟩ path.components
    else extend here path.componentsInside) = (baseFrom here path).descend path.names := by
    rw [baseFrom, ← parts_names]
    cases habsolute : path.isAbsolute with
    | false =>
      -- what is behind the base is the relative path
      rw [if_neg Bool.false_ne_true, if_neg Bool.false_ne_true, componentsInside_of_relative habsolute]
      exact extend_filterMap _ _
    | true =>
      -- the base is the root, and what is behind it is the rest
      rw [if_pos rfl, if_pos rfl, components_of_isAbsolute habsolute]
      split <;> exact extend_filterMap _ _
  rw [absoluteFrom, hspelled, trail, descend_append]
  split <;> rfl

theorem noSlash_of_mem_trail (path : Path) : ∀ stretch ∈ path.trail, slash ∉ stretch := by
  intro stretch hmem
  obtain hname | hend := List.mem_append.mp hmem
  · exact path.noSlash_of_mem_names stretch hname
  · split at hend <;> simp_all

section AbsoluteForm

variable {here path : Path}

theorem isAbsolute_baseFrom (h : path.isAbsolute = true ∨ here.isAbsolute = true) :
    (baseFrom here path).isAbsolute = true := by
  unfold baseFrom
  split
  · split <;> rfl
  · next habsolute => exact h.resolve_left habsolute

/-- The absolute form begins with its base, and behind it come slashes and bytes of the path. -/
theorem exists_absoluteFrom_bytes (here path : Path) :
    ∃ behind, (absoluteFrom here path).bytes = (baseFrom here path).bytes ++ behind ∧
      ∀ b ∈ behind, b = slash ∨ b ∈ path.bytes := by
  obtain ⟨behind, hbytes, hbehind⟩ := exists_descend_bytes (baseFrom here path)
    path.noSlash_of_mem_trail
  rw [absoluteFrom_eq]
  refine ⟨behind, hbytes, fun b hb => (hbehind b hb).imp id ?_⟩
  rintro ⟨stretch, hmem, hb⟩
  obtain hname | hend := List.mem_append.mp hmem
  · -- in a name of the path
    exact Bytes.mem_of_mem_split (List.mem_filter.mp hname).1 hb
  · -- the empty stretch at the end has no bytes
    split at hend <;> simp_all

/-- **The absolute form is absolute.** -/
theorem isAbsolute_absoluteFrom (h : path.isAbsolute = true ∨ here.isAbsolute = true) :
    (absoluteFrom here path).isAbsolute = true := by
  obtain ⟨rest, hbase⟩ := exists_of_isAbsolute (isAbsolute_baseFrom h)
  obtain ⟨behind, hbytes, -⟩ := exists_absoluteFrom_bytes here path
  rw [isAbsolute, hbytes, hbase]
  rfl

/-- The steps of the absolute form, a slash at the end aside. -/
theorem plainSteps_absoluteFrom (here path : Path) :
    (absoluteFrom here path).plainSteps
      = (baseFrom here path).plainSteps ++ path.plainSteps.filter (· ≠ .stay) := by
  have hnames : path.trail.filter (!·.isEmpty) = path.names := by
    have hall : ∀ name ∈ path.names, (!name.isEmpty) = true := fun name hmem => by
      simpa using path.ne_nil_of_mem_names name hmem
    rw [trail, List.filter_append, List.filter_eq_self.mpr hall]
    split <;> simp
  rw [absoluteFrom_eq, plainSteps_descend _ path.noSlash_of_mem_trail, hnames, names_map_ofSegment]

/-- A slash at the end stays. -/
theorem endsInSlash_absoluteFrom (h : path.isAbsolute = true ∨ here.isAbsolute = true)
    (hslash : path.endsInSlash = true) : (absoluteFrom here path).endsInSlash = true := by
  obtain ⟨rest, hbase⟩ := exists_of_isAbsolute (isAbsolute_baseFrom h)
  obtain ⟨behind, hbytes, -⟩ := exists_descend_bytes (baseFrom here path)
    path.noSlash_of_mem_names
  have hjoin : absoluteFrom here path = ((baseFrom here path).descend path.names).join ⟨[]⟩ := by
    rw [absoluteFrom_eq, trail, if_pos hslash, descend_append]
    rfl
  have hne : ((baseFrom here path).descend path.names).isEmpty = false := by
    rw [isEmpty, hbytes, hbase]
    rfl
  rw [hjoin, join_nil, hne, Bool.false_or]
  split
  · -- the base has ended in a slash before
    assumption
  · -- the slash is put behind it
    rw [endsInSlash, List.getLast?_concat]
    rfl

/-- None is put there but behind a base that ends in one and is all of the form. -/
theorem names_eq_nil_of_endsInSlash (hslash : path.endsInSlash = false)
    (h : (absoluteFrom here path).endsInSlash = true) : path.names = [] := by
  obtain hnil | ⟨front, name, hnames⟩ := List.eq_nil_or_concat path.names
  · exact hnil
  · rw [List.concat_eq_append] at hnames
    have hmem : name ∈ path.names := by simp [hnames]
    -- the form ends in the last name, and no name ends in a slash
    have hjoin : absoluteFrom here path = ((baseFrom here path).descend front).join ⟨name⟩ := by
      rw [absoluteFrom_eq, trail, hslash, if_neg Bool.false_ne_true, List.append_nil, hnames,
        descend_append]
      rfl
    have hend := endsInSlash_join ((baseFrom here path).descend front)
      (path.noSlash_of_mem_names name hmem) (path.ne_nil_of_mem_names name hmem)
    rw [hjoin, hend] at h
    cases h

/-! ### Length -/

/-- The stretches behind the base stand, in their order, among those of what is behind a beginning
without names. -/
theorem trail_sublist {tail : Bytes}
    (hnames : path.names = (Bytes.split slash tail).filter (!isFiller ·))
    (hend : path.endsInSlash = true → tail = [] ∨ tail.getLast? = some slash) :
    path.trail.Sublist (Bytes.split slash tail) := by
  rw [trail]
  split
  · next hslash =>
    -- the last stretch is the empty one behind the slash, and it is no name
    obtain ⟨front, hfront⟩ : ∃ front, Bytes.split slash tail = front ++ [[]] := by
      obtain rfl | hlast := hend hslash
      · -- nothing but the root is written
        exact ⟨[], rfl⟩
      · -- a stretch comes before the last slash
        obtain ⟨front, rfl⟩ := List.getLast?_eq_some_iff.mp hlast
        exact ⟨_, Bytes.split_concat slash front⟩
    have hfilter : path.names = front.filter (!isFiller ·) := by
      rw [hnames, hfront, List.filter_append]
      exact List.append_nil _
    rw [hfilter, hfront]
    exact List.filter_sublist.append (List.Sublist.refl _)
  · -- without a slash at the end there are only the names
    rw [List.append_nil, hnames]
    exact List.filter_sublist

/-- The absolute form is no longer than the base, a slash and the path. -/
theorem length_absoluteFrom_le (h : path.isAbsolute = false) :
    (absoluteFrom here path).bytes.length ≤ here.bytes.length + 1 + path.bytes.length := by
  have hlength := length_descend_le here path.noSlash_of_mem_trail
  have htrail : path.trail.Sublist (Bytes.split slash path.bytes) :=
    trail_sublist rfl fun hslash => .inr (by simpa [endsInSlash] using hslash)
  have hsublist := Bytes.length_flatMap_le_of_sublist slash htrail
  rw [Bytes.length_flatMap_split] at hsublist
  rw [absoluteFrom_eq, baseFrom, h, if_neg Bool.false_ne_true]
  omega

/-- An absolute path is its base, and what is behind it. -/
theorem exists_bytes_of_isAbsolute (here : Path) (h : path.isAbsolute = true) :
    ∃ tail, path.bytes = (baseFrom here path).bytes ++ tail ∧
      path.names = (Bytes.split slash tail).filter (!isFiller ·) := by
  rw [baseFrom, if_pos h]
  split
  · next hdouble =>
    -- two slashes are a root of their own
    obtain ⟨hfirst, -⟩ := Bool.and_eq_true_iff.mp hdouble
    obtain ⟨tail, htail⟩ := List.isPrefixOf_iff_prefix.mp hfirst
    have hbytes : path.bytes = slash :: slash :: tail := htail.symm
    refine ⟨tail, hbytes, ?_⟩
    rw [names, segments_of_isAbsolute hbytes, Bytes.split, if_pos rfl]
    rfl
  · -- one slash is the root
    obtain ⟨tail, hbytes⟩ := exists_of_isAbsolute h
    refine ⟨tail, hbytes, ?_⟩
    rw [names, segments_of_isAbsolute hbytes]
    rfl

/-- **The absolute form of an absolute path** is no longer than the path. -/
theorem length_absoluteFrom_le_of_isAbsolute (here : Path) (h : path.isAbsolute = true) :
    (absoluteFrom here path).bytes.length ≤ path.bytes.length := by
  obtain ⟨tail, hbytes, hnames⟩ := exists_bytes_of_isAbsolute here h
  have hclosed : (baseFrom here path).endsInSlash = true := by
    rw [baseFrom, if_pos h]
    split <;> rfl
  rw [absoluteFrom_eq, hbytes, List.length_append]
  by_cases htrail : path.trail = []
  · -- nothing is put behind the base
    rw [htrail]
    exact Nat.le_add_right _ _
  · -- what is put behind it is no longer than what stands behind the root of the path
    have hlength := length_descend_lt _ path.noSlash_of_mem_trail hclosed htrail
    have hend : path.endsInSlash = true → tail = [] ∨ tail.getLast? = some slash := by
      intro hslash
      rw [endsInSlash, hbytes, List.getLast?_append] at hslash
      cases htail : tail.getLast? with
      | none => exact .inl (List.getLast?_eq_none_iff.mp htail)
      | some last => exact .inr (by simpa [htail] using hslash)
    have hsublist := Bytes.length_flatMap_le_of_sublist slash (trail_sublist hnames hend)
    rw [Bytes.length_flatMap_split] at hsublist
    omega

/-- The component that a step stands for, if it leads anywhere. -/
def Component.ofStep? : Step → Option Component
  | .stay => none
  | .up => some .parent
  | .enter word => some (.name word)

/-- An absolute path means the root and its steps. -/
theorem components_eq_steps (h : path.isAbsolute = true) :
    path.components = .root :: path.plainSteps.filterMap Component.ofStep? := by
  obtain ⟨rest, hbytes⟩ := exists_of_isAbsolute h
  obtain ⟨first, segments, hsegments, hparts⟩ := path.exists_parts
  rw [if_pos h] at hparts
  have hempty : first = [] := by
    rw [segments_of_isAbsolute hbytes] at hsegments
    exact (List.cons.inj hsegments).1.symm
  rw [components_of_isAbsolute h, hparts, plainSteps, hsegments, hempty, List.filterMap_map,
    List.filterMap_filter, List.filterMap_cons_none rfl]
  congr 2
  -- an empty stretch is no step and no component, and any other is the step that it is as a component
  funext segment
  cases segment with
  | nil => rfl
  | cons b segment =>
    show Component.ofSegment? (b :: segment) = Component.ofStep? (Step.ofSegment (b :: segment))
    unfold Component.ofSegment? Step.ofSegment isFiller
    by_cases hdot : b :: segment = dot
    · -- a dot is no component, although it is a step
      rw [hdot]
      rfl
    · -- two dots and names are both
      rw [if_neg hdot, if_neg (by simpa using hdot)]
      split <;> rfl

/-- **The absolute form of an absolute path** is another spelling of it. -/
theorem same_absoluteFrom (here : Path) (h : path.isAbsolute = true) :
    (absoluteFrom here path).Same path := by
  have hbase : (baseFrom here path).plainSteps = [] := by
    rw [baseFrom, if_pos h]
    split <;> decide
  show (absoluteFrom here path).components = path.components
  rw [components_eq_steps (isAbsolute_absoluteFrom (.inl h)), components_eq_steps h,
    plainSteps_absoluteFrom, hbase, List.nil_append, List.filterMap_filter]
  congr 2
  funext step
  cases step <;> rfl

/-- What is put behind an absolute path is absolute. -/
theorem isAbsolute_join (h : here.isAbsolute = true) : (here.join path).isAbsolute = true := by
  cases hpath : path.isAbsolute with
  | true =>
    -- an absolute path stands for itself
    rw [join, hpath, if_pos rfl]
    exact hpath
  | false =>
    -- the joined path begins as the base does
    obtain ⟨front, hfront, hends⟩ := join_bytes_eq_append here hpath
    obtain ⟨rest, hrest⟩ := exists_of_isAbsolute h
    rw [isAbsolute, hfront]
    obtain rfl | rfl := hends <;>
    · rw [hrest]
      rfl

end AbsoluteForm

end Path

end SchemaBuild
