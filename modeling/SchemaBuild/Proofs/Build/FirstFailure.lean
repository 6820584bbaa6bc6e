import SchemaBuild.Proofs.Build.Calls

/-!
# The first failure of a walk

Compiling and generating walk along a list and ask a collaborator for one item after the other. An
answer may depend on every call before it, so what a collaborator says at a position is told by making
the calls up to there, and not by the walk:

* `Task.afterAll` — the state that the calls for some items leave, and `Task.answer?` — the answer to
  the call at a position, in the state that the calls before it leave;
* `Task.FailsFirst` — the first position at which a call fails; `Task.Succeeds` — there is none;
* `InTurn.of_answers` — calls that succeed are steps taken in turn;
* `Collaborators.compileAll_fails_fast`, `Collaborators.generateAll_fails_fast` — the walks make the
  calls up to the first failure and no other, and end in the state that these calls leave.

Which calls a walk makes is seen by the recording collaborators. They answer as the others do, so they
have the same first failure, and what is proved for all collaborators is proved for them.
-/

namespace SchemaBuild

namespace Task

variable {α β σ ε : Type}

/-- The state that the calls for these items leave, the first item first, whatever they answer. -/
def afterAll (call : α → Task σ ε β) (items : List α) (state : σ) : σ :=
  items.foldl (fun state item => (call item state).2) state

/-- The answer to the call at a position, in the state that the calls for the items before it leave. -/
def answer? (call : α → Task σ ε β) (items : List α) (state : σ) (position : Nat) :
    Option (Except ε β) :=
  items[position]?.map fun item => (call item (afterAll call (items.take position) state)).1

/-- The call at a position succeeds. -/
def SucceedsAt (call : α → Task σ ε β) (items : List α) (state : σ) (position : Nat) : Prop :=
  ∃ value, answer? call items state position = some (.ok value)

/-- No call fails. -/
def Succeeds (call : α → Task σ ε β) (items : List α) (state : σ) : Prop :=
  ∀ position < items.length, SucceedsAt call items state position

/-- **The first failure**: the call for an item at a position fails, and those before it succeed. -/
structure FailsFirst (call : α → Task σ ε β) (items : List α) (state : σ) (position : Nat) (item : α)
    (error : ε) : Prop where
  item_eq : items[position]? = some item
  fails : answer? call items state position = some (.error error)
  succeeds : ∀ earlier < position, SucceedsAt call items state earlier

variable {call : α → Task σ ε β} {items : List α} {state : σ}

theorem afterAll_append (first second : List α) :
    afterAll call (first ++ second) state = afterAll call second (afterAll call first state) :=
  List.foldl_append

/-- The answer to the first call, -/
theorem answer?_zero (item : α) :
    answer? call (item :: items) state 0 = some (call item state).1 := rfl

/-- and the answers to the later ones, which begin in the state that the first one leaves. -/
theorem answer?_succ (item : α) (position : Nat) :
    answer? call (item :: items) state (position + 1)
      = answer? call items (call item state).2 position := rfl

/-- An answer depends on the items up to it. -/
theorem answer?_take {position count : Nat} (h : position < count) :
    answer? call (items.take count) state position = answer? call items state position := by
  rw [answer?, answer?, List.getElem?_take_of_lt h, List.take_take,
    Nat.min_eq_left (Nat.le_of_lt h)]

/-- The items before the first failure succeed on their own. -/
theorem FailsFirst.succeeds_take {position : Nat} {item : α} {error : ε}
    (h : FailsFirst call items state position item error) :
    Succeeds call (items.take position) state := by
  intro earlier hearlier
  have hlt : earlier < position := Nat.lt_of_lt_of_le hearlier (List.length_take_le _ _)
  obtain ⟨value, hvalue⟩ := h.succeeds earlier hlt
  exact ⟨value, by rw [answer?_take hlt, hvalue]⟩

/-- The call that fails is made in the state that the items before it leave. -/
theorem FailsFirst.call_eq {position : Nat} {item : α} {error : ε}
    (h : FailsFirst call items state position item error) :
    call item (afterAll call (items.take position) state)
      = (.error error, afterAll call (items.take (position + 1)) state) := by
  have hfails := h.fails
  rw [answer?, h.item_eq] at hfails
  have hnext : items.take (position + 1) = items.take position ++ [item] := by
    rw [List.take_add_one, h.item_eq]
    rfl
  rw [hnext, afterAll_append]
  exact Prod.ext (Option.some.inj hfails) rfl

/-- The items are those before the first failure, the failing one, and the rest. -/
theorem FailsFirst.items_eq {position : Nat} {item : α} {error : ε}
    (h : FailsFirst call items state position item error) :
    items = items.take position ++ item :: items.drop (position + 1) := by
  obtain ⟨hlt, hitem⟩ := List.getElem?_eq_some_iff.mp h.item_eq
  rw [← hitem, ← List.drop_eq_getElem_cons hlt, List.take_append_drop]

end Task

/-! ### Steps and answers -/

section Steps

variable {α β γ σ ε : Type} {step : γ → σ → σ → Prop} {call : α → Task σ ε β} {item : γ → α}

/-- **Calls that succeed** are steps taken in turn, one for each item. -/
theorem InTurn.of_answers
    (hstep : ∀ asked before value, (call asked before).1 = .ok value →
      ∃ done, item done = asked ∧ step done before (call asked before).2)
    {items : List α} {state : σ} (h : Task.Succeeds call items state) :
    ∃ done : List γ, done.map item = items ∧ InTurn step done state (Task.afterAll call items state) := by
  -- from any state, since the later calls begin where the first one ends
  induction items generalizing state with
  | nil =>
    -- nothing fails where nothing is asked
    exact ⟨[], rfl, .nil state⟩
  | cons first items ih =>
    obtain ⟨value, hvalue⟩ := h 0 (Nat.zero_lt_succ _)
    obtain ⟨done, rfl, hdone⟩ := hstep first state value (Option.some.inj hvalue)
    obtain ⟨later, rfl, hlater⟩ := ih fun position hlt => h (position + 1) (Nat.succ_lt_succ hlt)
    exact ⟨done :: later, rfl, .cons hdone hlater⟩

/-- Steps taken in turn answer one by one. -/
theorem InTurn.answer?_eq {value : γ → β}
    (hstep : ∀ done before after, step done before after →
      call (item done) before = (.ok (value done), after))
    {done : List γ} {before after : σ} (h : InTurn step done before after) (position : Nat) :
    Task.answer? call (done.map item) before position = done[position]?.map (.ok <| value ·) := by
  induction h generalizing position with
  | nil => rfl
  | cons first _ ih =>
    cases position with
    | zero =>
      -- the answer to the first call
      rw [List.map_cons, Task.answer?_zero, hstep _ _ _ first]
      rfl
    | succ position =>
      -- the answer to a later one
      rw [List.map_cons, Task.answer?_succ, hstep _ _ _ first, List.getElem?_cons_succ]
      exact ih position

end Steps

section Walks

variable {σ S : Type} {state : σ} {compile : PackageName → Task σ Cause S}
  {packages : List PackageName} {generate : S → Task σ Cause Unit}
  {schemas : List (CompiledSchema S)} {position : Nat} {cause : Cause}

/-- A call of the compiler that succeeds compiles the package that it is for. -/
theorem exists_compiles {package : PackageName} {before : σ} {schema : S}
    (h : (compile package before).1 = .ok schema) :
    ∃ compiled : CompiledSchema S, compiled.package = package ∧
      Compiles compile compiled before (compile package before).2 :=
  ⟨⟨package, schema⟩, rfl, Prod.ext h rfl⟩

/-- **Compiling** ends at the first package that is not compiled. -/
theorem compileAll_of_failsFirst {package : PackageName}
    (h : Task.FailsFirst compile packages state position package cause) :
    compileAll compile packages state
      = (.error (.compilation package cause),
          Task.afterAll compile (packages.take (position + 1)) state) := by
  obtain ⟨done, hdone, hturn⟩ := InTurn.of_answers (fun _ _ _ => exists_compiles) h.succeeds_take
  refine compileAll_eq_error_iff.mpr
    ⟨done, package, packages.drop (position + 1), _, cause, ?_, hturn, h.call_eq, rfl⟩
  rw [hdone]
  exact h.items_eq

/-- If no call fails, it pairs each package with the answer to its call. -/
theorem compileAll_of_succeeds (h : Task.Succeeds compile packages state) :
    ∃ schemas, compileAll compile packages state
        = (.ok schemas, Task.afterAll compile packages state) ∧
      schemas.map (·.package) = packages ∧
      ∀ position, Task.answer? compile packages state position
        = schemas[position]?.map fun compiled => .ok compiled.schema := by
  obtain ⟨schemas, rfl, hturn⟩ := InTurn.of_answers (fun _ _ _ => exists_compiles) h
  exact ⟨schemas, compileAll_eq_ok_iff.mpr ⟨rfl, hturn⟩, rfl,
    hturn.answer?_eq fun _ _ _ hcompiles => hcompiles⟩

/-- A call of the generator that succeeds generates from the schema that it is for. -/
theorem exists_generates {compiled : CompiledSchema S} {before : σ} {done : Unit}
    (h : (generate compiled.schema before).1 = .ok done) :
    ∃ generated : CompiledSchema S, id generated = compiled ∧
      Generates generate generated before (generate compiled.schema before).2 :=
  ⟨compiled, rfl, Prod.ext h rfl⟩

/-- **Generating** ends at the first schema that nothing is generated from. -/
theorem generateAll_of_failsFirst {failing : CompiledSchema S}
    (h : Task.FailsFirst (generate ·.schema) schemas state position failing cause) :
    generateAll generate schemas state
      = (.error (.generation failing.package cause),
          Task.afterAll (generate ·.schema) (schemas.take (position + 1)) state) := by
  obtain ⟨done, hdone, hturn⟩ := InTurn.of_answers (fun _ _ _ => exists_generates) h.succeeds_take
  refine generateAll_eq_error_iff.mpr
    ⟨done, failing, schemas.drop (position + 1), _, cause, ?_, hturn, h.call_eq, rfl⟩
  rw [List.map_id] at hdone
  rw [hdone]
  exact h.items_eq

/-- If no call fails, it succeeds. -/
theorem generateAll_of_succeeds (h : Task.Succeeds (generate ·.schema) schemas state) :
    generateAll generate schemas state
      = (.ok (), Task.afterAll (generate ·.schema) schemas state) := by
  obtain ⟨done, hdone, hturn⟩ := InTurn.of_answers (fun _ _ _ => exists_generates) h
  rw [List.map_id] at hdone
  subst hdone
  exact generateAll_eq_ok_iff.mpr hturn

end Walks

/-! ### The calls of a walk -/

section Recording

variable {τ α β ε S : Type} {call : α → Task (Site τ) ε β} {items : List α} {site : Site τ}

/-- Calls that are written down leave the state that they leave anyway, and the record of them. -/
theorem Task.afterAll_recorded (written : α → Call S) (items : List α) (site : Site τ)
    (calls : List (Call S)) :
    Task.afterAll (fun item => (call item).recorded (written item)) items (site.withRecord calls)
      = (Task.afterAll call items site).withRecord (calls ++ items.map written) := by
  induction items generalizing site calls with
  | nil =>
    -- nothing is written down
    rw [List.map_nil, List.append_nil]
    rfl
  | cons first items ih =>
    -- one call is written down, and then those of the others
    have hfirst : (call first).recorded (written first) (site.withRecord calls)
        = ((call first site).1, (call first site).2.withRecord (calls ++ [written first])) := rfl
    rw [List.map_cons, List.append_cons]
    show Task.afterAll _ items ((call first).recorded (written first) (site.withRecord calls)).2 = _
    rw [hfirst, ih]
    rfl

/-- So the record holds one call for each item. -/
theorem Task.calls_afterAll_recorded (written : α → Call S) (items : List α) (site : Site τ) :
    (Task.afterAll (fun item => (call item).recorded (written item)) items
      (site.withRecord [])).kept.calls = items.map written := by
  rw [Task.afterAll_recorded]
  rfl

/-- They are answered as they are anyway. -/
theorem Task.answer?_recorded (written : α → Call S) (calls : List (Call S)) (position : Nat) :
    Task.answer? (fun item => (call item).recorded (written item)) items (site.withRecord calls)
      position = Task.answer? call items site position := by
  rw [Task.answer?, Task.afterAll_recorded]
  rfl

theorem Task.SucceedsAt.recorded {position : Nat} (h : Task.SucceedsAt call items site position)
    (written : α → Call S) (calls : List (Call S)) :
    Task.SucceedsAt (fun item => (call item).recorded (written item)) items (site.withRecord calls)
      position := by
  obtain ⟨value, hvalue⟩ := h
  exact ⟨value, by rw [Task.answer?_recorded, hvalue]⟩

theorem Task.Succeeds.recorded (h : Task.Succeeds call items site) (written : α → Call S)
    (calls : List (Call S)) :
    Task.Succeeds (fun item => (call item).recorded (written item)) items (site.withRecord calls) :=
  fun position hlt => (h position hlt).recorded written calls

/-- The first failure stays where it is. -/
theorem Task.FailsFirst.recorded {position : Nat} {item : α} {error : ε}
    (h : Task.FailsFirst call items site position item error) (written : α → Call S)
    (calls : List (Call S)) :
    Task.FailsFirst (fun item => (call item).recorded (written item)) items (site.withRecord calls)
      position item error where
  item_eq := h.item_eq
  fails := by rw [Task.answer?_recorded, h.fails]
  succeeds earlier hearlier := (h.succeeds earlier hearlier).recorded written calls

end Recording

namespace Collaborators

variable {τ C S : Type}

/-- The call of the generator for a compiled package. -/
def generateFor (all : Collaborators τ C S) (compiler : C) (options : GenerationOptions)
    (output : Path) (compiled : CompiledSchema S) : Task (Site τ) Cause Unit :=
  all.generate compiler options compiled.schema output

/-- The calls that compiling makes. -/
def compileAllCalls (all : Collaborators τ C S) (compiler : C) (packages : List PackageName)
    (site : Site τ) : List (Call S) :=
  (compileAll (all.recorded.compile compiler) packages (site.withRecord [])).2.kept.calls

/-- The calls that generating makes. -/
def generateAllCalls (all : Collaborators τ C S) (compiler : C) (options : GenerationOptions)
    (output : Path) (schemas : List (CompiledSchema S)) (site : Site τ) : List (Call S) :=
  (generateAll (all.recorded.generate compiler options · output) schemas
    (site.withRecord [])).2.kept.calls

variable {all : Collaborators τ C S} {compiler : C} {packages : List PackageName}
  {options : GenerationOptions} {output : Path} {schemas : List (CompiledSchema S)} {site : Site τ}
  {position : Nat} {cause : Cause}

/-- The compiler is asked up to the first package that is not compiled, -/
theorem compileAllCalls_of_failsFirst {package : PackageName}
    (h : Task.FailsFirst (all.compile compiler) packages site position package cause) :
    all.compileAllCalls compiler packages site = (packages.take (position + 1)).map .compile := by
  have hrecorded : Task.FailsFirst (all.recorded.compile compiler) packages (site.withRecord [])
      position package cause := h.recorded Call.compile []
  rw [compileAllCalls, compileAll_of_failsFirst hrecorded]
  exact Task.calls_afterAll_recorded Call.compile _ site

/-- and for all packages if there is none. -/
theorem compileAllCalls_of_succeeds (h : Task.Succeeds (all.compile compiler) packages site) :
    all.compileAllCalls compiler packages site = packages.map .compile := by
  have hrecorded : Task.Succeeds (all.recorded.compile compiler) packages (site.withRecord []) :=
    h.recorded Call.compile []
  obtain ⟨_, hcompiles, -⟩ := compileAll_of_succeeds hrecorded
  rw [compileAllCalls, hcompiles]
  exact Task.calls_afterAll_recorded Call.compile packages site

/-- The generator is called up to the first schema that nothing is generated from, -/
theorem generateAllCalls_of_failsFirst {failing : CompiledSchema S}
    (h : Task.FailsFirst (all.generateFor compiler options output) schemas site position failing
      cause) :
    all.generateAllCalls compiler options output schemas site
      = (schemas.take (position + 1)).map fun compiled => .generate options compiled.schema output := by
  have hrecorded : Task.FailsFirst (all.recorded.generateFor compiler options output) schemas
      (site.withRecord []) position failing cause := h.recorded _ []
  rw [generateAllCalls, generateAll_of_failsFirst hrecorded]
  exact Task.calls_afterAll_recorded _ (schemas.take (position + 1)) site

/-- and for all schemas if there is none. -/
theorem generateAllCalls_of_succeeds
    (h : Task.Succeeds (all.generateFor compiler options output) schemas site) :
    all.generateAllCalls compiler options output schemas site
      = schemas.map fun compiled => .generate options compiled.schema output := by
  have hrecorded : Task.Succeeds (all.recorded.generateFor compiler options output) schemas
      (site.withRecord []) := h.recorded _ []
  rw [generateAllCalls, generateAll_of_succeeds hrecorded]
  exact Task.calls_afterAll_recorded _ schemas site

/-- **Compiling fails fast.** If there is a first package that is not compiled, the compiler is asked
for the packages up to that one, each as often as it stands there, and the failure names the package
and carries the cause of its call. Otherwise it is asked for all packages, and the result holds each of
them with the answer to its own call. -/
theorem compileAll_fails_fast (all : Collaborators τ C S) (compiler : C)
    (packages : List PackageName) (site : Site τ) :
    (∀ position package cause,
      Task.FailsFirst (all.compile compiler) packages site position package cause →
        all.compileAllCalls compiler packages site = (packages.take (position + 1)).map .compile ∧
        compileAll (all.compile compiler) packages site
          = (.error (.compilation package cause),
              Task.afterAll (all.compile compiler) (packages.take (position + 1)) site)) ∧
    (Task.Succeeds (all.compile compiler) packages site →
      all.compileAllCalls compiler packages site = packages.map .compile ∧
      ∃ schemas, compileAll (all.compile compiler) packages site
          = (.ok schemas, Task.afterAll (all.compile compiler) packages site) ∧
        schemas.length = packages.length ∧
        ∀ position (h : position < schemas.length),
          packages[position]? = some schemas[position].package ∧
          Task.answer? (all.compile compiler) packages site position
            = some (.ok schemas[position].schema)) := by
  refine ⟨fun position package cause hfails =>
    ⟨compileAllCalls_of_failsFirst hfails, compileAll_of_failsFirst hfails⟩,
    fun hsucceeds => ⟨compileAllCalls_of_succeeds hsucceeds, ?_⟩⟩
  obtain ⟨schemas, hcompiles, rfl, hanswers⟩ := compileAll_of_succeeds hsucceeds
  refine ⟨schemas, hcompiles, (List.length_map _).symm, fun position hlt => ⟨?_, ?_⟩⟩
  · -- the schema is that of the package at its place
    rw [List.getElem?_map, List.getElem?_eq_getElem hlt]
    rfl
  · -- it is the answer to the call at that place
    rw [hanswers, List.getElem?_eq_getElem hlt]
    rfl

/-- Collaborators of which the compiler remembers what it was asked for and refuses to compile a package
a second time, and the generator does not write where something is already. -/
def unrepeating : Collaborators (List PackageName) Unit PackageName where
  connect _ site := ((), site)
  compile _ package site :=
    let result := if package ∈ site.kept then .error (.ofMessage "once only") else .ok package
    (result, { site with kept := site.kept ++ [package] })
  generate _ _ schema output site :=
    let location := [output.bytes.drop 1, Bytes.ofString schema.text]
    if (site.world.files.node? location).isSome then (.error (.ofMessage "in the way"), site)
    else
      let files := site.world.files.put location (.file [] false)
      (.ok (), { site with world := { site.world with files } })
  register _ site := (.ok (), site)

/-- A site with an empty directory in it. -/
def roomySite : Site (List PackageName) where
  world :=
    { files := ⟨[(Bytes.ofString "out", .directory [])]⟩
      environment := ⟨[]⟩
      here := .root
      started := [] }
  kept := []

/-- Four packages, of which the third is the first one again. -/
def repeatedPackages : List PackageName := [⟨"x", rfl⟩, ⟨"y", rfl⟩, ⟨"x", rfl⟩, ⟨"z", rfl⟩]

/-- The third package is not compiled, since the first one was, and the fourth is not asked for. The
first two are compiled if they are all. -/
theorem compileAll_fails_fast_repeated :
    (Task.FailsFirst (unrepeating.compile ()) repeatedPackages roomySite 2 ⟨"x", rfl⟩
        (.ofMessage "once only") ∧
      unrepeating.compileAllCalls () repeatedPackages roomySite
        = [.compile ⟨"x", rfl⟩, .compile ⟨"y", rfl⟩, .compile ⟨"x", rfl⟩]) ∧
    Task.Succeeds (unrepeating.compile ()) (repeatedPackages.take 2) roomySite ∧
      unrepeating.compileAllCalls () (repeatedPackages.take 2) roomySite
        = [.compile ⟨"x", rfl⟩, .compile ⟨"y", rfl⟩] := by
  have hfails : Task.FailsFirst (unrepeating.compile ()) repeatedPackages roomySite 2 ⟨"x", rfl⟩
      (.ofMessage "once only") := by
    refine ⟨rfl, rfl, fun earlier hearlier => ?_⟩
    obtain rfl | rfl : earlier = 0 ∨ earlier = 1 := by omega
    · exact ⟨⟨"x", rfl⟩, rfl⟩
    · exact ⟨⟨"y", rfl⟩, rfl⟩
  have hsucceeds := hfails.succeeds_take
  exact ⟨⟨hfails, ((compileAll_fails_fast unrepeating () _ roomySite).1 _ _ _ hfails).1⟩, hsucceeds,
    ((compileAll_fails_fast unrepeating () _ roomySite).2 hsucceeds).1⟩

/-- **Generating fails fast and undoes nothing.** If there is a first schema that nothing is generated
from, the generator is called for the schemas up to that one, always with these options and this
output directory. The failure names the package of the schema and carries the cause of its call, which
was made where generating from the schemas before it has ended, and what that call leaves is what is
there in the end. Otherwise the generator is called for all schemas, and that is a success. -/
theorem generateAll_fails_fast (all : Collaborators τ C S) (compiler : C)
    (options : GenerationOptions) (output : Path) (schemas : List (CompiledSchema S))
    (site : Site τ) :
    (∀ position failing cause,
      Task.FailsFirst (all.generateFor compiler options output) schemas site position failing
        cause →
        all.generateAllCalls compiler options output schemas site
          = (schemas.take (position + 1)).map
              (fun compiled => .generate options compiled.schema output) ∧
        ∃ between after,
          generateAll (all.generate compiler options · output) (schemas.take position) site
            = (.ok (), between) ∧
          all.generate compiler options failing.schema output between = (.error cause, after) ∧
          after = Task.afterAll (all.generateFor compiler options output)
            (schemas.take (position + 1)) site ∧
          generateAll (all.generate compiler options · output) schemas site
            = (.error (.generation failing.package cause), after)) ∧
    (Task.Succeeds (all.generateFor compiler options output) schemas site →
      all.generateAllCalls compiler options output schemas site
        = schemas.map (fun compiled => .generate options compiled.schema output) ∧
      generateAll (all.generate compiler options · output) schemas site
        = (.ok (), Task.afterAll (all.generateFor compiler options output) schemas site)) := by
  refine ⟨fun position failing cause hfails => ?_, fun hsucceeds => ?_⟩
  · -- the calls before the failing one succeed
    have hbefore : generateAll (all.generate compiler options · output) (schemas.take position) site
        = (.ok (), _) := generateAll_of_succeeds hfails.succeeds_take
    exact ⟨generateAllCalls_of_failsFirst hfails, _, _, hbefore, hfails.call_eq, rfl,
      generateAll_of_failsFirst hfails⟩
  · exact ⟨generateAllCalls_of_succeeds hsucceeds, generateAll_of_succeeds hsucceeds⟩

/-- The schemas of three packages, the second the same as the first. -/
def repeatedSchemas : List (CompiledSchema PackageName) :=
  [⟨⟨"x", rfl⟩, ⟨"x", rfl⟩⟩, ⟨⟨"y", rfl⟩, ⟨"x", rfl⟩⟩, ⟨⟨"z", rfl⟩, ⟨"z", rfl⟩⟩]

/-- What is generated from the first schema is in the way of the second, and stays there. The third one
is not asked for. -/
theorem generateAll_fails_fast_repeated :
    Task.FailsFirst (unrepeating.generateFor () {} (.ofString "/out")) repeatedSchemas roomySite 1
        ⟨⟨"y", rfl⟩, ⟨"x", rfl⟩⟩ (.ofMessage "in the way") ∧
      unrepeating.generateAllCalls () {} (.ofString "/out") repeatedSchemas roomySite
        = [.generate {} ⟨"x", rfl⟩ (.ofString "/out"), .generate {} ⟨"x", rfl⟩ (.ofString "/out")] ∧
      ∃ after, generateAll (unrepeating.generate () {} · (.ofString "/out")) repeatedSchemas roomySite
          = (.error (.generation ⟨"y", rfl⟩ (.ofMessage "in the way")), after) ∧
        after.world.files.node? [Bytes.ofString "out", Bytes.ofString "x"] = some (.file [] false) := by
  have hfails : Task.FailsFirst (unrepeating.generateFor () {} (.ofString "/out")) repeatedSchemas
      roomySite 1 ⟨⟨"y", rfl⟩, ⟨"x", rfl⟩⟩ (.ofMessage "in the way") := by
    refine ⟨rfl, rfl, fun earlier hearlier => ?_⟩
    obtain rfl : earlier = 0 := by omega
    exact ⟨(), rfl⟩
  obtain ⟨hcalls, _, after, -, -, rfl, hgenerates⟩ :=
    (generateAll_fails_fast unrepeating () {} _ _ roomySite).1 _ _ _ hfails
  exact ⟨hfails, hcalls, _, hgenerates, rfl⟩

end Collaborators

end SchemaBuild
