import Mathlib.Data.List.Forall2
import SchemaBuild.Resolution

/-!
# Chains of classpaths

A chain has the entries of its sources one after the other, and its sources may be chains themselves.
How they are nested does not matter: a classpath has the entries of its leaves from left to right, each
as often as it is there. If a leaf fails, the leftmost one that does decides, and nothing is left of what
was found before it.

* `Classpath.chainEntries_append` — a chain put together of two has the entries of both;
* `Classpath.chainEntries_leaves` — a classpath has the entries of the chain of its leaves;
* `Classpath.chainEntries_eq_ok_iff`, `Classpath.chainEntries_eq_error_iff` — what a chain has, and when
  it fails;
* `Classpath.entries_told_by_leaves` — so the leaves tell what a classpath has.
-/

namespace SchemaBuild.Classpath

variable {world : World} {sources : List Classpath}

theorem chainEntries_singleton (world : World) (source : Classpath) :
    chainEntries world [source] = source.entries world := by
  rw [chainEntries, chainEntries]
  cases source.entries world with
  | error cause => rfl
  | ok found => exact congrArg Except.ok (List.append_nil found)

theorem chainEntries_append (world : World) (first second : List Classpath) :
    chainEntries world (first ++ second)
      = (do let found ← chainEntries world first
            let more ← chainEntries world second
            return found ++ more) := by
  induction first with
  | nil => cases h : chainEntries world second <;> rw [List.nil_append, h] <;> rfl
  | cons source first ih =>
    rw [List.cons_append, chainEntries, chainEntries, ih]
    cases source.entries world with
    | error cause =>
      -- the first source fails
      rfl
    | ok found =>
      cases chainEntries world first with
      | error cause =>
        -- one of the sources behind it fails
        rfl
      | ok others =>
        cases chainEntries world second with
        | error cause =>
          -- one of the second sources fails
          rfl
        | ok more =>
          -- all of them have entries
          exact congrArg Except.ok (List.append_assoc found others more).symm

/-! ### Leaves -/

mutual

/-- A leaf is no chain. -/
theorem ne_chain_of_mem_leaves (nested : List Classpath) :
    ∀ tree : Classpath, ∀ leaf ∈ tree.leaves, leaf ≠ chain nested
  | fixed _, _, hmem => by rw [List.mem_singleton.mp hmem]; exact nofun
  | listing _, _, hmem => by rw [List.mem_singleton.mp hmem]; exact nofun
  | environment _, _, hmem => by rw [List.mem_singleton.mp hmem]; exact nofun
  | custom _, _, hmem => by rw [List.mem_singleton.mp hmem]; exact nofun
  | chain sources, leaf, hmem => ne_chain_of_mem_chainLeaves nested sources leaf hmem

theorem ne_chain_of_mem_chainLeaves (nested : List Classpath) :
    ∀ sources : List Classpath, ∀ leaf ∈ chainLeaves sources, leaf ≠ chain nested
  | source :: sources, leaf, hmem =>
    (List.mem_append.mp hmem).elim (ne_chain_of_mem_leaves nested source leaf)
      (ne_chain_of_mem_chainLeaves nested sources leaf)

end

mutual

/-- **However chains are nested**, a classpath has the entries of its leaves, -/
theorem chainEntries_leaves (world : World) :
    ∀ tree : Classpath, chainEntries world tree.leaves = tree.entries world
  | fixed _ => chainEntries_singleton world _
  | listing _ => chainEntries_singleton world _
  | environment _ => chainEntries_singleton world _
  | custom _ => chainEntries_singleton world _
  | chain sources => chainEntries_chainLeaves world sources

/-- and sources one after the other have those of theirs. -/
theorem chainEntries_chainLeaves (world : World) :
    ∀ sources : List Classpath, chainEntries world (chainLeaves sources) = chainEntries world sources
  | [] => rfl
  | source :: sources => by
    rw [chainLeaves, chainEntries_append, chainEntries_leaves world source,
      chainEntries_chainLeaves world sources, chainEntries]
    cases source.entries world with
    | error cause => rfl
    | ok found => cases chainEntries world sources <;> rfl

end

/-! ### Success and failure -/

/-- The source has these entries. -/
def Yields (world : World) (source : Classpath) (found : List Path) : Prop :=
  source.entries world = .ok found

/-- **The leftmost source that fails** fails with this cause. -/
def FailsFirst (world : World) (sources : List Classpath) (cause : Cause) : Prop :=
  ∃ before failing after, sources = before ++ failing :: after ∧
    (∀ source ∈ before, ∃ found, Yields world source found) ∧
    failing.entries world = .error cause

theorem chainEntries_cons_eq_ok_iff {source : Classpath} {found : List Path} :
    chainEntries world (source :: sources) = .ok found ↔
      ∃ first rest, Yields world source first ∧ chainEntries world sources = .ok rest ∧
        found = first ++ rest := by
  rw [chainEntries]
  unfold Yields
  cases source.entries world with
  | error cause =>
    -- a source that fails gives no entries
    exact iff_of_false nofun (by rintro ⟨_, _, ⟨⟩, -⟩)
  | ok first =>
    cases chainEntries world sources with
    | error cause =>
      -- sources that fail give no entries
      exact iff_of_false nofun (by rintro ⟨_, _, -, ⟨⟩, -⟩)
    | ok rest => simp [eq_comm]

theorem chainEntries_cons_eq_error_iff {source : Classpath} {cause : Cause} :
    chainEntries world (source :: sources) = .error cause ↔
      source.entries world = .error cause ∨
        (∃ first, Yields world source first) ∧ chainEntries world sources = .error cause := by
  rw [chainEntries]
  unfold Yields
  cases source.entries world with
  | error cause => simp
  | ok first => cases chainEntries world sources <;> simp

/-- **A chain has the entries of its sources**, if they all have some. -/
theorem chainEntries_eq_ok_iff {found : List Path} :
    chainEntries world sources = .ok found ↔
      ∃ yields, List.Forall₂ (Yields world) sources yields ∧ found = yields.flatten := by
  induction sources generalizing found with
  | nil =>
    constructor
    · -- no source has no entries
      rintro ⟨⟩
      exact ⟨[], .nil, rfl⟩
    · rintro ⟨_, ⟨⟩, rfl⟩
      rfl
  | cons source sources ih =>
    rw [chainEntries_cons_eq_ok_iff]
    constructor
    · -- the first entries come before the others
      rintro ⟨first, rest, hfirst, hrest, rfl⟩
      obtain ⟨yields, hyields, rfl⟩ := ih.mp hrest
      exact ⟨first :: yields, .cons hfirst hyields, rfl⟩
    · -- the entries of the first source are those in front
      rintro ⟨yields, hyields, rfl⟩
      obtain _ | ⟨hfirst, hrest⟩ := hyields
      exact ⟨_, _, hfirst, ih.mpr ⟨_, hrest, rfl⟩, rfl⟩

/-- **A chain fails as the leftmost source does** that fails. -/
theorem chainEntries_eq_error_iff {cause : Cause} :
    chainEntries world sources = .error cause ↔ FailsFirst world sources cause := by
  induction sources with
  | nil =>
    -- no source can be the first one to fail
    refine iff_of_false nofun ?_
    rintro ⟨before, failing, after, hnothing, -⟩
    exact List.append_ne_nil_of_right_ne_nil before (List.cons_ne_nil failing after) hnothing.symm
  | cons source sources ih =>
    rw [chainEntries_cons_eq_error_iff, ih]
    constructor
    · -- the first source fails, or a later one is the first one to fail
      rintro (hfails | ⟨hfirst, before, failing, after, rfl, hbefore, hfails⟩)
      · exact ⟨[], source, sources, rfl, List.forall_mem_nil _, hfails⟩
      · exact ⟨source :: before, failing, after, rfl, List.forall_mem_cons.mpr ⟨hfirst, hbefore⟩,
          hfails⟩
    · rintro ⟨before, failing, after, hsources, hbefore, hfails⟩
      -- either the first source fails, or it is one of those that succeed before
      cases before with
      | nil =>
        obtain ⟨rfl, rfl⟩ := List.cons.inj hsources
        exact .inl hfails
      | cons first before =>
        obtain ⟨rfl, rfl⟩ := List.cons.inj hsources
        obtain ⟨hfirst, hrest⟩ := List.forall_mem_cons.mp hbefore
        exact .inr ⟨hfirst, before, failing, after, rfl, hrest, hfails⟩

/-! ### What the leaves tell -/

/-- **The leaves of a classpath tell what it has.** They are no chains, and the classpath has the
entries of the flat chain of them:

* the entries of the leaves from left to right, if no leaf fails;
* otherwise it fails with the cause of the leftmost leaf that does, and whatever the resource directory
  is, that cause is all that stands below the failure of the search path. -/
theorem entries_told_by_leaves (world : World) (tree : Classpath) :
    (∀ leaf ∈ tree.leaves, ∀ nested, leaf ≠ chain nested) ∧
    tree.entries world = (chain tree.leaves).entries world ∧
    (∀ found, tree.entries world = .ok found ↔
      ∃ yields, List.Forall₂ (Yields world) tree.leaves yields ∧ found = yields.flatten) ∧
    (∀ cause, tree.entries world = .error cause ↔ FailsFirst world tree.leaves cause) ∧
    ∀ cause resources, FailsFirst world tree.leaves cause →
      ∃ error, Supplier.resolve world resources tree = .error error ∧ error = .classpath cause ∧
        error.toCause.below = cause.faults := by
  have hflat := chainEntries_leaves world tree
  have hfails : ∀ cause, tree.entries world = .error cause ↔ FailsFirst world tree.leaves cause := by
    intro cause
    rw [← hflat, chainEntries_eq_error_iff]
  refine ⟨?_, hflat.symm, ?_, hfails, ?_⟩
  · -- leaves are no chains
    exact fun leaf hmem nested => ne_chain_of_mem_leaves nested tree leaf hmem
  · -- the entries are those of the leaves, in their order
    intro found
    rw [← hflat, chainEntries_eq_ok_iff]
  · -- the first leaf that fails is the cause
    intro cause resources hfirst
    refine ⟨.classpath cause, ?_, rfl, rfl⟩
    rw [Supplier.resolve, (hfails cause).mpr hfirst]

/-- A world with a classpath variable and no files. -/
def variableWorld : World where
  files := ⟨[]⟩
  environment := ⟨[(Bytes.ofString "LIBRARIES", Bytes.ofString "b:c::b")]⟩
  here := .located []
  started := []

/-- There, a nest of chains has the entries of its leaves; with two leaves more that fail, it fails with
the cause of the first of them. -/
theorem entries_told_by_leaves_variableWorld :
    let path := Path.ofString
    let nest : Classpath :=
      chain [fixed [path "a"], chain [chain [], chain [environment (.ofString "LIBRARIES")]],
        fixed [path "a"]]
    let failing (message : String) : Classpath := custom fun _ => .error (.ofMessage message)
    let broken : Classpath := chain [nest, chain [failing "first", nest], failing "second"]
    nest.entries variableWorld = .ok [path "a", path "b", path "c", path "b", path "a"] ∧
      Supplier.resolve variableWorld (path "r") broken = .error (.classpath (.ofMessage "first")) := by
  intro path nest failing broken
  have hvariable : Yields variableWorld (environment (.ofString "LIBRARIES"))
      [path "b", path "c", path "b"] := by
    show _ = _
    decide +kernel
  constructor
  · obtain ⟨-, -, hyields, -⟩ := entries_told_by_leaves variableWorld nest
    exact (hyields _).mpr ⟨_, .cons rfl (.cons hvariable (.cons rfl .nil)), rfl⟩
  · have hnest : ∀ leaf ∈ nest.leaves, ∃ found, Yields variableWorld leaf found :=
      List.forall_mem_cons.mpr ⟨⟨_, rfl⟩, List.forall_mem_cons.mpr ⟨⟨_, hvariable⟩,
        List.forall_mem_singleton.mpr ⟨_, rfl⟩⟩⟩
    obtain ⟨-, -, -, -, hfails⟩ := entries_told_by_leaves variableWorld broken
    obtain ⟨_, hresolve, rfl, -⟩ := hfails (.ofMessage "first") (path "r")
      ⟨nest.leaves, failing "first", nest.leaves ++ [failing "second"], rfl, hnest, rfl⟩
    exact hresolve

end SchemaBuild.Classpath
