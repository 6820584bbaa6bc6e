import Mathlib.Data.List.Basic
import SchemaBuild.CommandLine.Parse
import SchemaBuild.Proofs.Path.Text

/-!
# The options that a command line has

Reading a command line goes from argument to argument and collects options with their values. A value is
added only when it has been judged, so what has been collected is in order at every moment: the options
are those that the scope has, their values are such as they take, and one that may be given once is
there once at most.

* `Collected.InOrder` — what has been collected is in order;
* `State.InOrder` — the invariant of reading, with `step_inOrder` for an argument and
  `readScope_inOrder` for all of them;
* `given` — the values of an option behind the command, and `overrides_of_parse`: what the command says
  about the configuration is made of them.
-/

namespace SchemaBuild.CommandLine

/-- The scope has the option. -/
def Scope.Offers (scope : Scope) (parameter : Parameter) : Prop :=
  .parameter parameter ∈ scope.longNames.map (·.2) ∨ .parameter parameter ∈ scope.shortNames.map (·.2)

instance (scope : Scope) (parameter : Parameter) : Decidable (scope.Offers parameter) :=
  inferInstanceAs (Decidable (_ ∨ _))

/-! ### What has been collected -/

namespace Collected

/-- **The options are in order**: they are options of the scope, every value is such as its option takes,
and an option that may be given once has one value at most. -/
structure InOrder (scope : Scope) (collected : Collected) : Prop where
  offered : ∀ entry ∈ collected.values, scope.Offers entry.1
  judged : ∀ entry ∈ collected.values, entry.1.valueError? entry.2 = none
  once : ∀ parameter : Parameter, parameter.isRepeatable = false →
    (collected.valuesOf parameter).length ≤ 1

variable {scope : Scope} {collected after : Collected} {parameter : Parameter} {value : Bytes}

theorem InOrder.empty (scope : Scope) : InOrder scope {} where
  offered entry hmem := by cases hmem
  judged entry hmem := by cases hmem
  once _ _ := Nat.zero_le 1

theorem mem_valuesOf : value ∈ collected.valuesOf parameter ↔ (parameter, value) ∈ collected.values := by
  unfold valuesOf
  rw [List.mem_filterMap]
  constructor
  · -- a value that is found stands behind its parameter
    rintro ⟨⟨other, found⟩, hmem, hvalue⟩
    obtain ⟨rfl, hsame⟩ := Option.ite_none_right_eq_some.mp hvalue
    rwa [← Option.some.inj hsame]
  · exact fun hmem => ⟨_, hmem, if_pos rfl⟩

/-- An option that may be given once is refused the second time. -/
theorem add_eq_ok_iff : collected.add parameter value = .ok after ↔
    (parameter.isRepeatable = true ∨ collected.valuesOf parameter = []) ∧
      parameter.valueError? value = none ∧
      after = { collected with values := collected.values ++ [(parameter, value)] } := by
  have hconflict : (!parameter.isRepeatable && collected.values.any (·.1 = parameter)) = true ↔
      ¬(parameter.isRepeatable = true ∨ collected.valuesOf parameter = []) := by
    rw [Bool.and_eq_true, List.any_eq_true, not_or, List.eq_nil_iff_forall_not_mem, not_forall]
    refine and_congr (by simp) ?_
    constructor
    · -- the other value stands behind the same parameter
      rintro ⟨⟨other, found⟩, hmem, hsame⟩
      obtain rfl : other = parameter := of_decide_eq_true hsame
      exact ⟨found, not_not.mpr (mem_valuesOf.mpr hmem)⟩
    · -- a value that is there is a conflict
      rintro ⟨found, hmem⟩
      exact ⟨_, mem_valuesOf.mp (not_not.mp hmem), decide_eq_true rfl⟩
  unfold add
  split
  · next h =>
    -- the parameter has a value and takes no other one
    exact ⟨nofun, fun ⟨hfree, _⟩ => absurd hfree (hconflict.mp h)⟩
  · next h =>
    rw [hconflict, not_not] at h
    split
    · next hrefused =>
      -- the value is refused as such
      exact ⟨nofun, fun ⟨_, hnone, _⟩ => by rw [hrefused] at hnone; cases hnone⟩
    · next hnone => exact ⟨fun hok => ⟨h, hnone, (Except.ok.inj hok).symm⟩, fun ⟨_, _, hok⟩ => by rw [hok]⟩

/-- A value that is added to an option comes behind the values that the option has. -/
theorem valuesOf_concat (collected : Collected) (parameter other : Parameter) (value : Bytes) :
    ({ collected with values := collected.values ++ [(parameter, value)] } : Collected).valuesOf other
      = collected.valuesOf other ++ if parameter = other then [value] else [] := by
  unfold valuesOf
  dsimp only
  rw [List.filterMap_append]
  congr 1
  by_cases hsame : parameter = other <;> simp [hsame]

/-- **Adding an option** keeps the order. -/
theorem InOrder.add (h : collected.InOrder scope) (hoffered : scope.Offers parameter)
    (hadd : collected.add parameter value = .ok after) : after.InOrder scope := by
  obtain ⟨hfree, hvalue, rfl⟩ := add_eq_ok_iff.mp hadd
  refine ⟨?_, ?_, ?_⟩
  · -- the values before are options of the scope, and so is the new one
    intro entry hmem
    obtain hold | hnew := List.mem_append.mp hmem
    · exact h.offered entry hold
    · rwa [List.mem_singleton.mp hnew]
  · -- the values before were judged, and the new one has been judged just now
    intro entry hmem
    obtain hold | hnew := List.mem_append.mp hmem
    · exact h.judged entry hold
    · rwa [List.mem_singleton.mp hnew]
  · -- an option that is not repeatable has one value at most
    intro other hother
    rw [valuesOf_concat]
    by_cases hsame : parameter = other
    · -- the option is no repeatable one, so it had no value before
      subst hsame
      rw [hfree.resolve_left (by simp [hother]), if_pos rfl]
      exact Nat.le_refl 1
    · rw [if_neg hsame, List.append_nil]
      exact h.once other hother

theorem InOrder.addFlag {flag : Flag} (h : collected.InOrder scope)
    (hadd : collected.addFlag flag = .ok after) : after.InOrder scope := by
  unfold Collected.addFlag at hadd
  split at hadd
  · cases hadd
  · obtain rfl := Except.ok.inj hadd
    exact ⟨h.offered, h.judged, h.once⟩

/-- The value of an option as a path is its only value. -/
theorem InOrder.path?_eq (h : collected.InOrder scope) (honce : parameter.isRepeatable = false)
    (hvalue : value ∈ collected.valuesOf parameter) : collected.path? parameter = some ⟨value⟩ := by
  unfold path?
  have hlength := h.once parameter honce
  cases hvalues : collected.valuesOf parameter with
  | nil =>
    -- there is a value, so there is a first one
    rw [hvalues] at hvalue
    cases hvalue
  | cons first rest =>
    -- there is no second one, since the option is not repeatable
    rw [hvalues] at hlength hvalue
    obtain rfl : rest = [] := List.length_eq_zero_iff.mp (by simpa using hlength)
    rw [List.mem_singleton.mp hvalue]
    rfl

/-- The values of an option as words are its values, if it takes texts only. -/
theorem InOrder.map_words (h : collected.InOrder scope)
    (htext : ∀ value, parameter.valueError? value = none → value.toString?.isSome) :
    (collected.words parameter).map Bytes.ofString = collected.valuesOf parameter := by
  have hall : ∀ value ∈ collected.valuesOf parameter, value.toString?.isSome :=
    fun value hmem => htext value (h.judged _ (mem_valuesOf.mp hmem))
  unfold words
  generalize collected.valuesOf parameter = values at hall
  induction values with
  | nil =>
    -- no values, no words
    rfl
  | cons value values ih =>
    obtain ⟨hvalue, hvalues⟩ := List.forall_mem_cons.mp hall
    obtain ⟨text, hread⟩ := Option.isSome_iff_exists.mp hvalue
    rw [List.filterMap_cons_some hread, List.map_cons, ih hvalues,
      ← Bytes.toString?_eq_some_iff.mp hread]

end Collected

/-! ### Reading -/

/-- **The invariant of reading**: what has been judged is in order, and what is pending is an option of
the scope. -/
structure State.InOrder (scope : Scope) (state : State) : Prop where
  collected : state.collected.InOrder scope
  pending : ∀ parameter value, state.pending = some (parameter, value) → scope.Offers parameter

namespace State.InOrder

variable {scope : Scope} {state after : State} {parameter : Parameter} {value : Bytes}

/-- With nothing pending it is the options that have been collected that count. -/
theorem of_collected {collected : Collected} (h : collected.InOrder scope) :
    InOrder scope { collected } where
  collected := h
  pending _ _ hpending := by cases hpending

theorem settle (h : state.InOrder scope) {collected : Collected}
    (hsettle : state.settle = .ok collected) : collected.InOrder scope := by
  unfold State.settle at hsettle
  split at hsettle
  · -- nothing is pending
    obtain rfl := Except.ok.inj hsettle
    exact h.collected
  · -- a value is missing
    cases hsettle
  · next parameter value hpending =>
    -- the value that was pending is judged now
    exact h.collected.add (h.pending parameter value hpending) hsettle

theorem addValue (h : state.InOrder scope) (hoffered : scope.Offers parameter)
    (hadd : state.addValue parameter value = .ok after) : after.InOrder scope := by
  unfold State.addValue at hadd
  split at hadd
  · -- what was pending is refused
    cases hadd
  · next collected hsettle =>
    cases hafter : collected.add parameter value with
    | error refusal =>
      -- the value itself is refused
      rw [hafter] at hadd
      cases hadd
    | ok collected =>
      -- both are in order, and nothing is pending
      rw [hafter] at hadd
      obtain rfl := Except.ok.inj hadd
      exact of_collected ((h.settle hsettle).add hoffered hafter)

theorem awaitValue (h : state.InOrder scope) (hoffered : scope.Offers parameter)
    (hawait : state.awaitValue parameter = .ok after) : after.InOrder scope := by
  unfold State.awaitValue at hawait
  split at hawait
  · -- what was pending is refused
    cases hawait
  · next hsettle =>
    obtain rfl := Except.ok.inj hawait
    refine ⟨h.settle hsettle, ?_⟩
    rintro _ _ ⟨⟩
    exact hoffered

theorem addSwitch (h : state.InOrder scope) {switch : Switch}
    (hoffered : switch ∈ scope.longNames.map (·.2) ∨ switch ∈ scope.shortNames.map (·.2))
    (hadd : state.addSwitch switch = .ok after) : after.InOrder scope := by
  unfold State.addSwitch at hadd
  cases switch with
  | parameter parameter => exact h.awaitValue hoffered hadd
  | flag flag =>
    dsimp only at hadd
    split at hadd
    · -- what was pending is refused
      cases hadd
    · next collected hsettle =>
      cases hafter : collected.addFlag flag with
      | error refusal =>
        -- the flag was given before
        rw [hafter] at hadd
        cases hadd
      | ok collected =>
        rw [hafter] at hadd
        obtain rfl := Except.ok.inj hadd
        exact of_collected ((h.settle hsettle).addFlag hafter)
  | help =>
    -- no state is behind a wish for help, nor behind one for the version
    dsimp only at hadd
    split at hadd <;> cases hadd
  | version =>
    dsimp only at hadd
    split at hadd <;> cases hadd

/-- A name that is found is one of the names. -/
theorem mem_map_of_lookup {κ : Type} [BEq κ] [LawfulBEq κ] {names : List (κ × Switch)} {name : κ}
    {switch : Switch} (h : names.lookup name = some switch) : switch ∈ names.map (·.2) := by
  obtain ⟨before, after, rfl, -⟩ := List.lookup_eq_some_iff.mp h
  simp

theorem readLong (h : state.InOrder scope) {name : Bytes} {value : Option Bytes}
    (hread : readLong scope state name value = .ok after) : after.InOrder scope := by
  unfold CommandLine.readLong at hread
  -- which name it is, if it is a text and one of the scope's
  have hoffered : ∀ {switch}, (name.toString?.bind fun name => scope.longNames.lookup name)
      = some switch → switch ∈ scope.longNames.map (·.2) := by
    intro switch hfound
    obtain ⟨text, -, hlookup⟩ := Option.bind_eq_some_iff.mp hfound
    exact mem_map_of_lookup hlookup
  split at hread
  · -- the name is none of the scope's
    cases hread
  · next switch hfound => exact h.addSwitch (.inl (hoffered hfound)) hread
  · next parameter value hfound => exact h.addValue (.inl (hoffered hfound)) hread
  · -- a value stands behind an equals sign, and the option takes none
    cases hread

theorem readShort (h : state.InOrder scope) {names : Bytes}
    (hread : readShort scope state names = .ok after) : after.InOrder scope := by
  -- the letters are read one by one, each in the state that the ones before it lead to
  induction names generalizing state with
  | nil =>
    obtain rfl := Except.ok.inj hread
    exact h
  | cons name rest ih =>
    unfold CommandLine.readShort at hread
    have hoffered : ∀ {switch}, shortSwitch? scope name = some switch →
        switch ∈ scope.shortNames.map (·.2) := fun hfound => mem_map_of_lookup hfound
    split at hread
    · -- the letter is none of the scope's
      cases hread
    · next parameter hfound =>
      split at hread
      · -- the letter is the last one, so its value has yet to come
        exact h.awaitValue (.inr (hoffered hfound)) hread
      · -- what stands behind the letter is its value
        exact h.addValue (.inr (hoffered hfound)) hread
    · next switch _ hfound =>
      split at hread
      · -- the letter cannot be taken
        cases hread
      · next hswitch => exact ih (h.addSwitch (.inr (hoffered hfound)) hswitch) hread

end State.InOrder

section Reading

variable {scope : Scope} {state after : State}

theorem optionStep_inOrder (h : state.InOrder scope) {argument : Bytes} {plain : Except Refusal Step}
    (hplain : plain = .ok (.next after) → after.InOrder scope)
    (hstep : optionStep scope state argument plain = .ok (.next after)) : after.InOrder scope := by
  unfold optionStep at hstep
  have hnext : ∀ {read : Except Refusal State}, read.map Step.next = .ok (.next after) →
      read = .ok after := by
    intro read hread
    cases read with
    | error refusal => cases hread
    | ok state =>
      cases hread
      rfl
  split at hstep
  · -- two hyphens end the options
    cases hstep
  · exact h.readLong (hnext hstep)
  · exact h.readShort (hnext hstep)
  · -- an argument that does not look like an option
    exact hplain hstep

/-- **One argument** keeps the invariant. -/
theorem step_inOrder (h : state.InOrder scope) {argument : Bytes}
    (hstep : step scope state argument = .ok (.next after)) : after.InOrder scope := by
  unfold step at hstep
  split at hstep
  · next parameter hawaiting =>
    -- the argument is the value of an option that is pending already
    have hoffered : scope.Offers parameter := by
      unfold State.awaiting? at hawaiting
      split at hawaiting
      · next hpending =>
        cases hawaiting
        exact h.pending _ _ hpending
      · cases hawaiting
    have hvalue : Except.ok (.next { state with pending := some (parameter, some argument) })
        = (.ok (.next after) : Except Refusal Step) → after.InOrder scope := by
      rintro ⟨⟩
      refine ⟨h.collected, ?_⟩
      rintro _ _ ⟨⟩
      exact hoffered
    dsimp only at hstep
    split at hstep
    · -- the option takes any argument for its value
      exact hvalue hstep
    · -- what looks like an option is read as one, and anything else is the value
      exact optionStep_inOrder h hvalue hstep
  · split at hstep
    · -- a wish for help
      cases hstep
    · split at hstep
      · -- a command ends the scope
        cases hstep
      · refine optionStep_inOrder h ?_ hstep
        rintro ⟨⟩

/-- **All arguments** of a scope keep it. -/
theorem readScope_inOrder {arguments : List Bytes} {found : Option (Scope × List Bytes)}
    (h : state.InOrder scope) (hread : readScope scope arguments state = .ok (after, found)) :
    after.InOrder scope := by
  induction arguments generalizing state with
  | nil =>
    cases hread
    exact h
  | cons argument rest ih =>
    unfold readScope at hread
    split at hread
    · -- the argument is refused
      cases hread
    · next hstep => exact ih (step_inOrder h hstep) hread
    · -- a command follows, and the state stays
      cases hread
      exact h
    · -- help is shown
      cases hread
    · split at hread
      · -- the options have ended, and nothing stands behind them
        cases hread
        exact h
      · -- no argument may stand behind the end
        cases hread

/-- What a reading comes to is what it goes on to from what was read first. -/
theorem of_bind_eq_ok {α β : Type} {read : Except Refusal α} {next : α → Except Refusal β} {made : β}
    (h : (read >>= next) = .ok made) : ∃ found, read = .ok found ∧ next found = .ok made := by
  cases read with
  | error refusal => cases h
  | ok found => exact ⟨found, rfl, h⟩

theorem readCommand_inOrder {arguments : List Bytes} {collected : Collected}
    (h : readCommand scope arguments = .ok collected) : collected.InOrder scope := by
  unfold readCommand at h
  obtain ⟨⟨state, found⟩, hread, h⟩ := of_bind_eq_ok h
  obtain ⟨settled, hsettle, h⟩ := of_bind_eq_ok h
  obtain ⟨_, -, h⟩ := of_bind_eq_ok h
  obtain rfl := Except.ok.inj h
  exact (readScope_inOrder (.of_collected (.empty scope)) hread).settle hsettle

end Reading

/-! ### The options of the command -/

/-- The values that an option has behind the command, in their order. -/
def given (arguments : List Bytes) (parameter : Parameter) : List Bytes :=
  match readScope .top arguments {} with
  | .ok (_, some (scope, rest)) =>
    match readCommand scope rest with
    | .ok behind => behind.valuesOf parameter
    | .error _ => []
  | _ => []

section Parsed

variable {arguments : List Bytes} {line : CommandLine}

/-- A command line that is understood has a command, and behind it options in order. -/
theorem exists_behind (h : parse arguments = .ok line) :
    ∃ scope behind, behind.InOrder scope ∧ line.command = commandOf scope behind ∧
      ∀ parameter, given arguments parameter = behind.valuesOf parameter := by
  unfold parse at h
  obtain ⟨⟨state, found⟩, hread, h⟩ := of_bind_eq_ok h
  dsimp only at h
  split at h
  · -- without a command nothing is understood
    obtain ⟨_, -, h⟩ := of_bind_eq_ok h
    cases h
  · next scope rest =>
    obtain ⟨behind, hbehind, h⟩ := of_bind_eq_ok h
    obtain ⟨before, -, h⟩ := of_bind_eq_ok h
    obtain ⟨_, -, h⟩ := of_bind_eq_ok h
    obtain rfl := Except.ok.inj h
    refine ⟨scope, behind, readCommand_inOrder hbehind, rfl, fun parameter => ?_⟩
    rw [given, hread]
    dsimp only
    rw [hbehind]

/-- An option that the scope has not is not given. -/
theorem Collected.InOrder.valuesOf_eq_nil {scope : Scope} {collected : Collected}
    (h : collected.InOrder scope) {parameter : Parameter} (hoffered : ¬ scope.Offers parameter) :
    collected.valuesOf parameter = [] := by
  rw [List.eq_nil_iff_forall_not_mem]
  exact fun value hmem => hoffered (h.offered _ (mem_valuesOf.mp hmem))

/-- **What a command line says** are the values that are given: all of them for packages and the plugin,
and for the other options the only one. -/
theorem overrides_of_parse (h : parse arguments = .ok line) :
    line.command.overrides.packages.map Bytes.ofString = given arguments .package ∧
      line.command.overrides.plugin.map Bytes.ofString = given arguments .plugin ∧
      (∀ value ∈ given arguments .output, line.command.overrides.output = some ⟨value⟩) ∧
      (∀ value ∈ given arguments .resources, line.command.overrides.resources = some ⟨value⟩) ∧
      (∀ value ∈ given arguments .classpathFile,
        line.command.overrides.classpathFile = some ⟨value⟩) ∧
      ∀ value ∈ given arguments .classpath,
        line.command.overrides.classpathEntries = Path.splitList value := by
  obtain ⟨scope, behind, horder, hcommand, hgiven⟩ := exists_behind h
  have hclasspath : ∀ value ∈ behind.valuesOf .classpath,
      behind.sourceOptions.overrides.classpathEntries = Path.splitList value := by
    intro value hvalue
    have hpath := horder.path?_eq rfl hvalue
    obtain ⟨first, hfirst, hsame⟩ := Option.map_eq_some_iff.mp hpath
    obtain rfl : first = value := congrArg Path.bytes hsame
    show ((behind.valuesOf .classpath).head?.map Path.splitList).getD [] = _
    rw [hfirst]
    rfl
  have hresources : ∀ value ∈ behind.valuesOf .resources,
      behind.sourceOptions.overrides.resources = some ⟨value⟩ :=
    fun value hvalue => horder.path?_eq rfl hvalue
  have hfile : ∀ value ∈ behind.valuesOf .classpathFile,
      behind.sourceOptions.overrides.classpathFile = some ⟨value⟩ :=
    fun value hvalue => horder.path?_eq rfl hvalue
  simp only [hgiven, hcommand, commandOf]
  by_cases hgenerate : scope = .generate
  · -- the command that generates takes all options
    rw [if_pos hgenerate]
    have htext : ∀ {parameter : Parameter}, parameter = .package ∨ parameter = .plugin →
        ∀ value, parameter.valueError? value = none → value.toString?.isSome := by
      rintro parameter (rfl | rfl) value hvalue <;>
      · by_contra hnot
        rw [Parameter.valueError?, if_neg hnot] at hvalue
        cases hvalue
    exact ⟨horder.map_words (htext (.inl rfl)), horder.map_words (htext (.inr rfl)),
      fun value hvalue => horder.path?_eq rfl hvalue, hresources, hfile, hclasspath⟩
  · rw [if_neg hgenerate]
    -- the command that shows the search path has no other options
    have hno : ∀ {parameter : Parameter}, parameter = .package ∨ parameter = .plugin ∨
        parameter = .output → behind.valuesOf parameter = [] := by
      intro parameter hparameter
      apply horder.valuesOf_eq_nil
      cases scope with
      | generate => exact absurd rfl hgenerate
      | top => rcases hparameter with rfl | rfl | rfl <;> decide
      | suppliers => rcases hparameter with rfl | rfl | rfl <;> decide
    refine ⟨(hno (.inl rfl)).symm, (hno (.inr (.inl rfl))).symm, ?_, hresources, hfile, hclasspath⟩
    intro value hvalue
    rw [hno (.inr (.inr rfl))] at hvalue
    cases hvalue

end Parsed

end SchemaBuild.CommandLine
