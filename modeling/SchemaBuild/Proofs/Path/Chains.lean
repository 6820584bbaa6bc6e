import Mathlib.Data.List.TakeWhile
import SchemaBuild.Proofs.Path.Absolute

/-!
# The directories on the way to a path

A path is its beginning and the stretches behind it, and the paths above it are its beginning with
fewer of them: the stretches are left out from the end, a name with the fillers in front of it at
once. So every path above begins with the same bytes and takes the same first steps.

A filler at the very end is not left out by itself: above `a/b/.` comes `a` and not `a/b`.

* `Path.assemble_parts` — a path is what its parts are put together to;
* `Path.plainSteps_assemble` — the steps of what was put together;
* `Path.chainOf` — the path of some stretches, without fillers at its end, and the paths above it.
-/

namespace SchemaBuild.Path

variable {start : Start} {segment : Bytes} {segments front behind reversed : List Bytes}

/-! ### Steps -/

/-- The steps that a beginning stands for. -/
def Start.steps : Start → List Step
  | .root => []
  | .current => [.stay]
  | .plain => []

/-- A beginning leads nowhere else. -/
theorem Start.eq_stay_of_mem_steps {step : Step} (h : step ∈ start.steps) : step = .stay := by
  cases start with
  | root => cases h
  | current => exact List.mem_singleton.mp h
  | plain => cases h

/-- The steps that stretches stand for. -/
def stepsOf (segments : List Bytes) : List Step :=
  (segments.filter (!·.isEmpty)).map Step.ofSegment

@[simp] theorem stepsOf_nil : stepsOf [] = [] := rfl

theorem stepsOf_append (front behind : List Bytes) :
    stepsOf (front ++ behind) = stepsOf front ++ stepsOf behind := by
  rw [stepsOf, List.filter_append, List.map_append]
  rfl

theorem stepsOf_front (h : front <+: segments) : stepsOf front <+: stepsOf segments := by
  obtain ⟨behind, rfl⟩ := h
  exact ⟨stepsOf behind, (stepsOf_append front behind).symm⟩

/-- A slash at the end of a path is a step that stays, and there is no other step behind the plain
ones. -/
theorem exists_steps_eq (path : Path) : ∃ behind, path.steps = path.plainSteps ++ behind ∧
    ∀ step ∈ behind, step = .stay := by
  refine ⟨_, rfl, fun step hmem => ?_⟩
  split at hmem
  · exact List.mem_singleton.mp hmem
  · cases hmem

/-- Fillers are steps that stay, or none. -/
theorem eq_stay_of_mem_stepsOf (hfillers : ∀ segment ∈ segments, isFiller segment = true) :
    ∀ step ∈ stepsOf segments, step = .stay := by
  intro step hmem
  obtain ⟨segment, hsegment, rfl⟩ := List.mem_map.mp hmem
  obtain ⟨hsegment, hne⟩ := List.mem_filter.mp hsegment
  have hdot : segment = dot := by
    have hfiller := hfillers segment hsegment
    rw [isFiller, Bool.or_eq_true_iff] at hfiller
    obtain hempty | hdot := hfiller
    · -- an empty segment is no step
      rw [hempty] at hne
      cases hne
    · -- a dot stays
      exact eq_of_beq hdot
  rw [hdot]
  rfl

/-- A stretch that is no filler is one step, and it does not stay. -/
theorem stepsOf_singleton (h : isFiller segment = false) :
    stepsOf [segment] = [Step.ofSegment segment] ∧ Step.ofSegment segment ≠ .stay := by
  obtain ⟨hne, hdot⟩ := Bool.or_eq_false_iff.mp h
  constructor
  · -- a segment that is no filler is not left out
    rw [stepsOf, List.filter_cons_of_pos (by rw [hne]; rfl)]
    rfl
  · -- the only segment that stays is the dot
    rw [Step.ofSegment, if_neg (by simpa using hdot)]
    split <;> simp

/-! ### Putting together -/

/-- **A path** is what its beginning and its stretches are put together to. -/
theorem assemble_parts (path : Path) : assemble path.parts.1 path.parts.2 = path := by
  obtain ⟨first, rest, hsegments, hparts⟩ := path.exists_parts
  have hbytes : Bytes.join slash (first :: rest) = path.bytes := by
    rw [← hsegments]
    exact Bytes.join_split slash path.bytes
  rw [hparts]
  split
  · next habsolute =>
    -- the root stands in front of the first slash
    obtain ⟨tail, htail⟩ := exists_of_isAbsolute habsolute
    rw [segments_of_isAbsolute htail] at hsegments
    obtain ⟨rfl, rfl⟩ := List.cons.inj hsegments
    rw [assemble, Bytes.join_split, ← htail]
  · split
    · next hdot =>
      -- the dot in front is the first segment
      rw [assemble, ← hdot, ← Bytes.join_cons, hbytes]
    · -- nothing stands in front
      rw [assemble, hbytes]

/-- The steps of what was put together are those of its parts. -/
theorem plainSteps_assemble (hslash : ∀ segment ∈ segments, slash ∉ segment) :
    (assemble start segments).plainSteps = start.steps ++ stepsOf segments := by
  cases segments with
  | nil => cases start <;> rfl
  | cons first rest =>
    rw [plainSteps, segments_assemble hslash (List.cons_ne_nil first rest)]
    cases start <;> rfl

/-- The steps of a path are those of its beginning and of the stretches behind it. -/
theorem plainSteps_eq (path : Path) :
    path.plainSteps = path.parts.1.steps ++ stepsOf path.parts.2 := by
  rw [← plainSteps_assemble path.parts_fits.noSlash, assemble_parts]

/-- With stretches left out at its end a path takes the first of its steps. -/
theorem plainSteps_front {path : Path} (h : front <+: path.parts.2) :
    (assemble path.parts.1 front).plainSteps = path.parts.1.steps ++ stepsOf front :=
  plainSteps_assemble (path.parts_fits.of_front h).noSlash

theorem isPrefix_plainSteps_front {path : Path} (h : front <+: path.parts.2) :
    (assemble path.parts.1 front).plainSteps <+: path.plainSteps := by
  rw [plainSteps_front h, plainSteps_eq]
  exact (List.prefix_append_right_inj _).mpr (stepsOf_front h)

/-- With fewer stretches a spelling is the front of what it was. -/
theorem isPrefix_assemble_front (start : Start) (h : front <+: segments) :
    (assemble start front).bytes <+: (assemble start segments).bytes := by
  obtain ⟨behind, rfl⟩ := h
  have hjoin : Bytes.join slash front <+: Bytes.join slash (front ++ behind) := by
    cases front with
    | nil => exact List.nil_prefix
    | cons first front =>
      rw [List.cons_append, Bytes.join_cons, Bytes.join_cons, List.flatMap_append, ← List.append_assoc]
      exact List.prefix_append _ _
  cases start with
  | root =>
    -- the slash stands in front of both
    exact List.cons_prefix_cons.mpr ⟨rfl, hjoin⟩
  | current =>
    -- the dot stands in front of both
    rw [assemble, assemble, List.flatMap_append, ← List.append_assoc]
    exact List.prefix_append _ _
  | plain =>
    -- what stands in front of neither makes no difference
    exact hjoin

/-- A path and the paths that its beginning and stretches are put together to begin in the same
place. -/
theorem startOf_assemble {path : Path} (here : Place) (h : front <+: path.parts.2) :
    FileSystem.startOf here (assemble path.parts.1 front) = FileSystem.startOf here path := by
  have habsolute : (assemble path.parts.1 front).isAbsolute = path.isAbsolute := by
    rw [Bool.eq_iff_iff, isAbsolute_assemble_iff (path.parts_fits.of_front h),
      ← isAbsolute_assemble_iff path.parts_fits, assemble_parts]
  rw [FileSystem.startOf, FileSystem.startOf, habsolute]

/-! ### Chains -/

/-- The path of stretches, without fillers at its end, and the paths above it. The stretches are given
in reverse order. -/
def chainOf (start : Start) (reversed : List Bytes) : List Path :=
  assemble start (reversed.dropWhile isFiller).reverse :: parentsOf start reversed

theorem chainOf_filler (h : isFiller segment = true) :
    chainOf start (segment :: reversed) = chainOf start reversed := by
  rw [chainOf, List.dropWhile_cons_of_pos h, parentsOf, if_pos h]
  rfl

theorem chainOf_name (h : isFiller segment = false) :
    chainOf start (segment :: reversed)
      = assemble start (segment :: reversed).reverse :: chainOf start reversed := by
  rw [chainOf, List.dropWhile_cons_of_neg (by simp [h]), parentsOf, if_neg (by simp [h])]
  rfl

/-- Above a path is the chain of the stretches in front of its last name. -/
theorem parentsOf_fillers {fillers : List Bytes} (hfillers : ∀ other ∈ fillers, isFiller other = true)
    (h : isFiller segment = false) :
    parentsOf start (fillers ++ segment :: reversed) = chainOf start reversed := by
  induction fillers with
  | nil =>
    -- the segment is the last name, and the paths above it end before it
    rw [List.nil_append, parentsOf, if_neg (by simp [h])]
    rfl
  | cons filler fillers ih =>
    -- a filler at the end makes no path of its own
    rw [List.cons_append, parentsOf, if_pos (hfillers filler List.mem_cons_self)]
    exact ih fun other hmem => hfillers other (List.mem_cons_of_mem _ hmem)

/-- A path that takes a step that does not stay has a last name, and only fillers behind it. -/
theorem exists_last_name {path : Path} (h : ∃ step ∈ path.plainSteps, step ≠ .stay) :
    ∃ reversed segment fillers, path.parts.2 = reversed.reverse ++ [segment] ++ fillers ∧
      isFiller segment = false ∧ (∀ other ∈ fillers, isFiller other = true) ∧
      path.parents = chainOf path.parts.1 reversed := by
  obtain ⟨step, hmem, hstep⟩ := h
  have hsplit := List.takeWhile_append_dropWhile (p := isFiller) (l := path.parts.2.reverse)
  cases hdrop : path.parts.2.reverse.dropWhile isFiller with
  | nil =>
    -- without a name all steps would stay
    have hfillers : ∀ segment ∈ path.parts.2, isFiller segment = true := by
      intro segment hsegment
      exact List.dropWhile_eq_nil_iff.mp hdrop segment (List.mem_reverse.mpr hsegment)
    rw [plainSteps_eq] at hmem
    obtain hstart | hmem := List.mem_append.mp hmem
    · exact absurd (Start.eq_stay_of_mem_steps hstart) hstep
    · exact absurd (eq_stay_of_mem_stepsOf hfillers step hmem) hstep
  | cons segment reversed =>
    -- the last name is what stands before the fillers at the end
    have hsegment : isFiller segment = false := by
      have hhead := List.head?_dropWhile_not isFiller path.parts.2.reverse
      rw [hdrop] at hhead
      simpa using hhead
    have hfillers : ∀ other ∈ path.parts.2.reverse.takeWhile isFiller, isFiller other = true :=
      fun other hmem => List.mem_takeWhile_imp hmem
    rw [hdrop] at hsplit
    refine ⟨reversed, segment, (path.parts.2.reverse.takeWhile isFiller).reverse, ?_, hsegment, ?_, ?_⟩
    · -- from the end to the beginning and back is the path
      have hsegments := congrArg List.reverse hsplit
      rw [List.reverse_append, List.reverse_cons, List.reverse_reverse] at hsegments
      exact hsegments.symm
    · -- what stands behind the last name are fillers
      intro other hmem
      exact hfillers other (List.mem_reverse.mp hmem)
    · -- the paths above are those of the stretches before the last name
      rw [parents, ← hsplit]
      exact parentsOf_fillers hfillers hsegment

end SchemaBuild.Path
