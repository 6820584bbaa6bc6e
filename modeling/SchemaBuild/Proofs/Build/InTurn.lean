import SchemaBuild.Build.Stages

/-!
# One item after the other

Compiling packages and generating from schemas are both walks along a list that stop at the first
failure. What such a walk does is told here without the walk:

* `InTurn` — a step for each item of a list, each from the state that the one before it left;
* `compileAll_eq_ok_iff`, `generateAll_eq_ok_iff` — the walk succeeds exactly when every step does,
  and then it ends where the last step ended;
* `compileAll_eq_error_iff`, `generateAll_eq_error_iff` — it fails exactly when the steps up to some
  item succeed and that item's call fails; the failure names the item, and the state is the one that
  the failing call left.

A step is a relation, so nothing is assumed of the compiler and the generator: their answers may
depend on every call before.
-/

namespace SchemaBuild

variable {α σ S : Type}

/-- A step for each item of a list, the first item first. -/
inductive InTurn (step : α → σ → σ → Prop) : List α → σ → σ → Prop
  | nil (state : σ) : InTurn step [] state state
  | cons {item : α} {items : List α} {before between after : σ} (first : step item before between)
      (later : InTurn step items between after) : InTurn step (item :: items) before after

namespace InTurn

variable {step : α → σ → σ → Prop} {items : List α} {before after : σ}

theorem nil_iff : InTurn step [] before after ↔ after = before := by
  constructor
  · intro h
    cases h
    rfl
  · rintro rfl
    exact .nil _

theorem cons_iff {item : α} : InTurn step (item :: items) before after ↔
    ∃ between, step item before between ∧ InTurn step items between after := by
  constructor
  · intro h
    cases h with
    | cons first later => exact ⟨_, first, later⟩
  · rintro ⟨between, first, later⟩
    exact .cons first later

/-- What no step changes is the same in the end. -/
theorem frame {β : Type} (view : σ → β)
    (hstep : ∀ item before after, step item before after → view after = view before)
    (h : InTurn step items before after) : view after = view before := by
  induction h with
  | nil => rfl
  | cons first _ ih => rw [ih, hstep _ _ _ first]

/-- Steps that leave every state as it is can each be taken from the first one. -/
theorem forall_of_still (hstill : ∀ item before after, step item before after → after = before)
    (h : InTurn step items before after) :
    after = before ∧ ∀ item ∈ items, step item before before := by
  induction h with
  | nil => exact ⟨rfl, by simp⟩
  | cons first _ ih =>
    -- the first step stays where it is, so the later ones are taken from there, too
    obtain rfl := hstill _ _ _ first
    obtain ⟨rfl, hlater⟩ := ih
    exact ⟨rfl, List.forall_mem_cons.mpr ⟨first, hlater⟩⟩

end InTurn

/-! ### Compiling -/

/-- Compiling a package gives its schema. -/
def Compiles (compile : PackageName → Task σ Cause S) (compiled : CompiledSchema S)
    (before after : σ) : Prop :=
  compile compiled.package before = (.ok compiled.schema, after)

variable {compile : PackageName → Task σ Cause S} {packages : List PackageName} {before after : σ}

/-- **Compiling all packages succeeds** exactly when each call does, and pairs every package with
the answer of its own call. -/
theorem compileAll_eq_ok_iff {schemas : List (CompiledSchema S)} :
    compileAll compile packages before = (.ok schemas, after) ↔
      packages = schemas.map (·.package) ∧ InTurn (Compiles compile) schemas before after := by
  -- from any state, since the rest begins where the first call ends
  induction packages generalizing before schemas with
  | nil =>
    simp only [compileAll, Prod.mk.injEq, Except.ok.injEq]
    constructor
    · -- nothing is compiled
      rintro ⟨rfl, rfl⟩
      exact ⟨rfl, .nil _⟩
    · -- nothing was to be compiled
      rintro ⟨hmap, hturn⟩
      obtain rfl : schemas = [] := List.map_eq_nil_iff.mp hmap.symm
      exact ⟨rfl, (InTurn.nil_iff.mp hturn).symm⟩
  | cons package packages ih =>
    constructor
    · intro h
      rw [compileAll] at h
      split at h
      · -- the first package fails
        cases h
      · next schema between hfirst =>
        split at h
        · -- a later package fails
          cases h
        · next later final hlater =>
          cases h
          obtain ⟨hmap, hturn⟩ := ih.mp hlater
          refine ⟨by rw [List.map_cons, ← hmap], .cons hfirst hturn⟩
    · rintro ⟨hmap, hturn⟩
      cases schemas with
      | nil =>
        -- there is no first schema
        cases hmap
      | cons compiled later =>
        rw [List.map_cons, List.cons.injEq] at hmap
        obtain ⟨rfl, hmap⟩ := hmap
        obtain ⟨between, hfirst, hturn⟩ := InTurn.cons_iff.mp hturn
        rw [compileAll, hfirst]
        simp only [ih.mpr ⟨hmap, hturn⟩]

/-- **Compiling all packages fails** exactly when the packages before one compile and that one does
not. -/
theorem compileAll_eq_error_iff {error : BuildError} :
    compileAll compile packages before = (.error error, after) ↔
      ∃ done package rest between cause, packages = done.map (·.package) ++ package :: rest ∧
        InTurn (Compiles compile) done before between ∧
        compile package between = (.error cause, after) ∧ error = .compilation package cause := by
  induction packages generalizing before with
  | nil => simp [compileAll]
  | cons first packages ih =>
    constructor
    · intro h
      rw [compileAll] at h
      split at h
      · next cause between hfirst =>
        -- the first package is the one, and none is done
        cases h
        exact ⟨[], first, packages, before, cause, rfl, .nil _, hfirst, rfl⟩
      · next schema between hfirst =>
        split at h
        · next error final hlater =>
          -- the one is among the rest, and the first package is done as well
          cases h
          obtain ⟨done, package, rest, middle, cause, rfl, hturn, hlast, rfl⟩ := ih.mp hlater
          exact ⟨⟨first, schema⟩ :: done, package, rest, middle, cause, rfl,
            .cons hfirst hturn, hlast, rfl⟩
        · cases h
    · rintro ⟨done, package, rest, middle, cause, hsplit, hturn, hlast, rfl⟩
      cases done with
      | nil =>
        obtain ⟨rfl, rfl⟩ := List.cons.inj hsplit
        obtain rfl := InTurn.nil_iff.mp hturn
        rw [compileAll, hlast]
      | cons compiled done =>
        obtain ⟨rfl, rfl⟩ := List.cons.inj hsplit
        obtain ⟨between, hfirst, hturn⟩ := InTurn.cons_iff.mp hturn
        -- the first call succeeds, and the rest fails by induction
        rw [compileAll, hfirst]
        simp only [ih.mpr ⟨done, package, rest, middle, cause, rfl, hturn, hlast, rfl⟩]

/-! ### Generating -/

/-- Generating from a schema succeeds. -/
def Generates (generate : S → Task σ Cause Unit) (compiled : CompiledSchema S)
    (before after : σ) : Prop :=
  generate compiled.schema before = (.ok (), after)

variable {generate : S → Task σ Cause Unit} {schemas : List (CompiledSchema S)}

/-- **Generating from all schemas succeeds** exactly when each call does. -/
theorem generateAll_eq_ok_iff : generateAll generate schemas before = (.ok (), after) ↔
    InTurn (Generates generate) schemas before after := by
  induction schemas generalizing before with
  | nil =>
    rw [InTurn.nil_iff, generateAll, Prod.mk.injEq]
    exact ⟨fun h => h.2.symm, fun h => ⟨rfl, h.symm⟩⟩
  | cons compiled schemas ih =>
    rw [InTurn.cons_iff, generateAll]
    split
    · next cause between hfirst =>
      -- the first call fails
      simp [Generates, hfirst]
    · next between hfirst =>
      -- the first call succeeds, and the others follow
      simp [Generates, hfirst, ih]

/-- **Generating from all schemas fails** exactly when it succeeds for the schemas before one and
not for that one. What the calls did stays. -/
theorem generateAll_eq_error_iff {error : BuildError} :
    generateAll generate schemas before = (.error error, after) ↔
      ∃ done failing rest between cause, schemas = done ++ failing :: rest ∧
        InTurn (Generates generate) done before between ∧
        generate failing.schema between = (.error cause, after) ∧
        error = .generation failing.package cause := by
  induction schemas generalizing before with
  | nil => simp [generateAll]
  | cons first schemas ih =>
    constructor
    · intro h
      rw [generateAll] at h
      split at h
      · next cause between hfirst =>
        -- the first schema is the one
        cases h
        exact ⟨[], first, schemas, before, cause, rfl, .nil _, hfirst, rfl⟩
      · next between hfirst =>
        -- the one is among the rest; what the first call did stays
        obtain ⟨done, failing, rest, middle, cause, rfl, hturn, hlast, rfl⟩ := ih.mp h
        exact ⟨first :: done, failing, rest, middle, cause, rfl, .cons hfirst hturn, hlast, rfl⟩
    · rintro ⟨done, failing, rest, middle, cause, hsplit, hturn, hlast, rfl⟩
      cases done with
      | nil =>
        -- the failing schema is the first one
        obtain ⟨rfl, rfl⟩ := List.cons.inj hsplit
        obtain rfl := InTurn.nil_iff.mp hturn
        rw [generateAll, hlast]
      | cons compiled done =>
        -- the failing schema comes later
        obtain ⟨rfl, rfl⟩ := List.cons.inj hsplit
        obtain ⟨between, hfirst, hturn⟩ := InTurn.cons_iff.mp hturn
        rw [generateAll, hfirst]
        exact ih.mpr ⟨done, failing, rest, middle, cause, rfl, hturn, hlast, rfl⟩

end SchemaBuild
