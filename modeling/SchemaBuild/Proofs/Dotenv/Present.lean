import SchemaBuild.Proofs.CommandLine.Frame
import SchemaBuild.Proofs.Config.Elsewhere

/-!
# Variables that are there before a dotenv file is loaded

A dotenv file is meant to add variables to those of the process. Which variables it assigns can be told
from the file alone, up to the first line that cannot be understood: a reference in a value stands for
a text of which nothing but the value depends. A variable is set unless there is **text** in it. So a
variable that is assigned in the file is kept if it has a text, and is overwritten if its value is no
text, as if it had not been there. A variable that is to be set to a value with a NUL in it ends the load
before it is set; there was no text in it, so it is none of those that were assigned before.

* `Dotenv.nameOn`, `Dotenv.map_name_ofLine` — the name that a line assigns, whatever references in the
  value stand for;
* `Dotenv.loadLines_eq_foldl` — loading a file carries out assignments to the variables that
  `Dotenv.namesFrom` lists;
* `Config.loadDotenv_effect` — the variables that are kept, and `Config.loadDotenv_overwrites`: one
  that is not.
-/

namespace SchemaBuild

/-- There is text in the variable of that name. -/
def Environment.HasText (environment : Environment) (name : Bytes) : Prop :=
  ∃ value, environment.get? name = some value ∧ value.IsText

theorem Environment.hasText_iff {environment : Environment} {name : Bytes} :
    environment.HasText name ↔ ∃ text, environment.getText? name = some text := by
  constructor
  · -- a value that is text is read as that text
    rintro ⟨value, hvalue, htext⟩
    obtain ⟨text, hread⟩ := Option.isSome_iff_exists.mp (Bytes.isText_iff.mp htext)
    exact ⟨text, by rw [getText?, hvalue]; exact hread⟩
  · -- what is read as a text is a value with that text
    rintro ⟨text, hread⟩
    obtain ⟨value, hvalue, htext⟩ := Option.bind_eq_some_iff.mp hread
    exact ⟨value, hvalue, Bytes.isText_iff.mpr (Option.isSome_iff_exists.mpr ⟨text, htext⟩)⟩

namespace Dotenv

/-! ### The name on a line -/

namespace ValueState

/-- A state but for the value so far: all that decides what may come next. -/
def form (state : ValueState) : ValueState := { state with done := [] }

variable {state other : ValueState}

/-- Two states with one form are one state with two values so far. -/
theorem exists_of_form_eq (h : state.form = other.form) : ∃ done, other = { state with done } := by
  obtain ⟨_, quotes, reference, escaped, ended⟩ := state
  obtain ⟨done, otherQuotes, otherReference, otherEscaped, otherEnded⟩ := other
  simp only [form, mk.injEq, true_and] at h
  obtain ⟨rfl, rfl, rfl, rfl⟩ := h
  exact ⟨done, rfl⟩

theorem form_plain (h : state.form = other.form) (c : Char) :
    (state.plain c).form = (other.plain c).form := by
  obtain ⟨done, rfl⟩ := exists_of_form_eq h
  unfold plain
  dsimp only
  repeat' split
  all_goals rfl

theorem form_named (h : state.form = other.form) (valueOf otherOf : String → String) (c : Char) :
    (state.named valueOf c).form = (other.named otherOf c).form := by
  have hplain := form_plain h c
  obtain ⟨done, rfl⟩ := exists_of_form_eq h
  unfold named
  dsimp only
  split
  · -- no name is being read, so references do not matter
    exact hplain
  · -- behind `$` the name goes on or ends
    repeat' split
    all_goals rfl
  · -- between braces the name goes on until they close
    split <;> rfl

/-- What comes next has the same form, whatever the value so far and whatever references stand for. -/
theorem form_next? (h : state.form = other.form) (valueOf otherOf : String → String) (c : Char) :
    (state.next? valueOf c).map form = (other.next? otherOf c).map form := by
  have hnamed := form_named h valueOf otherOf c
  obtain ⟨done, rfl⟩ := exists_of_form_eq h
  unfold next?
  dsimp only
  split
  · -- nothing but blanks may stand behind the end
    split <;> rfl
  · split
    · -- a backslash may stand before few characters only
      cases escape? c <;> rfl
    · split
      · -- between single quotes no name is read
        split <;> rfl
      · -- anywhere else a name may begin, go on or end
        exact congrArg some hnamed

/-- A value may end in all states of one form or in none. -/
theorem isSome_finish? (h : state.form = other.form) (valueOf otherOf : String → String) :
    (state.finish? valueOf).isSome = (other.finish? otherOf).isSome := by
  obtain ⟨done, rfl⟩ := exists_of_form_eq h
  unfold finish?
  dsimp only
  split
  · -- a value within quotes has no end
    rfl
  · -- an open reference ends with the value, unless a brace is missing
    split <;> rfl

end ValueState

/-- Values cannot be understood for the same reason, whatever references in them stand for. -/
theorem valueFrom_alike (valueOf otherOf : String → String) (whole rest : List Char)
    (position : Nat) {state other : ValueState} (h : state.form = other.form) :
    (valueFrom valueOf whole position state rest).map (fun _ => ())
      = (valueFrom otherOf whole position other rest).map (fun _ => ()) := by
  have hend : ∀ {position} {state other : ValueState}, state.form = other.form →
      (valueFrom valueOf whole position state []).map (fun _ => ())
        = (valueFrom otherOf whole position other []).map (fun _ => ()) := by
    intro position state other h
    have hsome := ValueState.isSome_finish? h valueOf otherOf
    unfold valueFrom
    cases hleft : state.finish? valueOf with
    | none =>
      -- neither of the two has an end here
      rw [hleft, Option.isSome_none, eq_comm, Option.isSome_eq_false_iff,
        Option.isNone_iff_eq_none] at hsome
      rw [hsome]
    | some value =>
      -- both have an end, and only what they stand for may differ
      rw [hleft, Option.isSome_some, eq_comm] at hsome
      obtain ⟨otherValue, hright⟩ := Option.isSome_iff_exists.mp hsome
      rw [hright]
      rfl
  induction rest generalizing position state other with
  | nil => exact hend h
  | cons c rest ih =>
    have hended : state.form.ended = other.form.ended := congrArg ValueState.ended h
    unfold valueFrom
    rw [show state.ended = other.ended from hended]
    split
    · -- a blank has ended both
      exact hend h
    · -- either the character may stand behind neither of the states, or it leads to one form
      have hnext := ValueState.form_next? h valueOf otherOf c
      cases hleft : state.next? valueOf c with
      | none =>
        -- the character may stand behind neither
        rw [hleft, Option.map_none, eq_comm, Option.map_eq_none_iff] at hnext
        rw [hnext]
      | some next =>
        -- it may stand behind both, and they go on alike
        rw [hleft, Option.map_some, eq_comm] at hnext
        obtain ⟨otherNext, hright, hform⟩ := Option.map_eq_some_iff.mp hnext
        rw [hright]
        exact ih _ hform.symm

/-- The name of the variable that a line assigns, if there is an assignment on it. References in the
value stand for nothing, which makes no difference to the name. -/
def nameOn (line : List Char) : Except BadLine (Option String) :=
  (Assignment.ofLine (fun _ => "") line).map (Option.map (·.name))

/-- **The name on a line** does not depend on what references stand for, nor does what is wrong
with the line. -/
theorem map_name_ofLine (valueOf : String → String) (line : List Char) :
    (Assignment.ofLine valueOf line).map (Option.map (·.name)) = nameOn line := by
  unfold nameOn Assignment.ofLine
  dsimp only
  split
  · -- there is nothing on the line
    rfl
  · split
    · -- the name cannot be understood
      rfl
    · next name cursor _ =>
      split
      · -- there is a name and no value
        rfl
      · -- the value can be understood with both readings of references, or with none
        have hvalue := valueFrom_alike valueOf (fun _ => "") cursor.skipBlanks.rest
          cursor.skipBlanks.rest 0 (rfl : ValueState.start.form = ValueState.start.form)
        unfold readValue
        obtain ⟨bad, hleft, hright⟩ | ⟨value, other, hleft, hright, -⟩ := cases_of_map_eq hvalue
        · rw [hleft, hright]
        · rw [hleft, hright]
          rfl

/-! ### Carrying assignments out -/

variable {world : World} {name : Bytes}

/-- There is text in a variable behind an assignment to it. -/
theorem hasText_assign_self (world : World) (assignment : Assignment) :
    (assign world assignment).environment.HasText (.ofString assignment.name) := by
  unfold assign
  dsimp only
  split
  · next text hread => exact Environment.hasText_iff.mpr ⟨text, hread⟩
  · exact ⟨assignment.given, Environment.get?_set_self .., _, rfl⟩

theorem hasText_assign (h : world.environment.HasText name) (assignment : Assignment) :
    (assign world assignment).environment.HasText name := by
  obtain ⟨value, hvalue, htext⟩ := h
  exact ⟨value, assign_keeps htext hvalue assignment, htext⟩

theorem assign_get?_of_ne {assignment : Assignment} (h : name ≠ .ofString assignment.name) :
    (assign world assignment).environment.get? name = world.environment.get? name := by
  unfold assign
  dsimp only
  split
  · rfl
  · exact world.environment.get?_set_of_ne _ h

/-- A run of assignments puts text into each variable that is assigned or has text. -/
theorem hasText_foldl_assign {assignments : List Assignment} {world : World}
    (h : world.environment.HasText name ∨ name ∈ assignments.map (.ofString ·.name)) :
    (assignments.foldl assign world).environment.HasText name := by
  induction assignments generalizing world with
  | nil => exact h.resolve_right List.not_mem_nil
  | cons assignment assignments ih =>
    refine ih ?_
    rw [List.map_cons, List.mem_cons] at h
    obtain htext | rfl | hlater := h
    · -- it has had text before
      exact .inl (hasText_assign htext assignment)
    · -- it is the one that is assigned now
      exact .inl (hasText_assign_self world assignment)
    · -- it is assigned further on
      exact .inr hlater

/-- A run of assignments keeps the variables that are not assigned. -/
theorem foldl_assign_get?_of_not_mem {assignments : List Assignment} {world : World}
    (h : name ∉ assignments.map (.ofString ·.name)) :
    (assignments.foldl assign world).environment.get? name = world.environment.get? name := by
  induction assignments generalizing world with
  | nil => rfl
  | cons assignment assignments ih =>
    rw [List.map_cons, List.mem_cons, not_or] at h
    rw [List.foldl_cons, ih h.2, assign_get?_of_ne h.1]

/-! ### Loading a file -/

/-- The variables that lines of a file assign, up to the first line that cannot be understood. -/
def namesFrom : List Bytes → Pending → List Bytes
  | [], _ => []
  | line :: lines, pending =>
    match Utf8.decode? line with
    | none => []
    | some line =>
      match pending.add line with
      | .inr pending => namesFrom lines pending
      | .inl text =>
        match nameOn text with
        | .error _ => []
        | .ok none => namesFrom lines .empty
        | .ok (some name) => .ofString name :: namesFrom lines .empty

/-- The variables of a list that a load has come to: all of them, or those before the one that cannot have
its value. -/
def reached (names : List Bytes) : Except LoadError Unit → List Bytes
  | .error (.nul name) => names.takeWhile (· ≠ .ofString name)
  | _ => names

/-- A load ends with a NUL only at a variable with no text in it. -/
theorem not_hasText_of_nul {lines : List Bytes} {pending : Pending} {earlier : List Assignment}
    {world : World} {name : String}
    (h : (loadLines lines pending earlier world).1 = .error (.nul name)) :
    ¬ world.environment.HasText (.ofString name) := by
  induction lines generalizing pending earlier world with
  | nil =>
    unfold loadLines at h
    split at h <;> cases h
  | cons line lines ih =>
    unfold loadLines at h
    split at h
    · -- a line that is no text ends the load otherwise
      cases h
    · split at h
      · -- the line goes on with the next one
        exact ih h
      · split at h
        · -- a line that cannot be understood ends the load otherwise
          cases h
        · -- nothing is assigned on the line
          exact ih h
        · split at h
          · next himpossible =>
            -- it ends here, where the variable would have to be set
            cases h
            intro htext
            obtain ⟨text, hread⟩ := Environment.hasText_iff.mp htext
            rw [impossible, hread] at himpossible
            cases himpossible
          · -- it ends further on, and a text would still be there
            exact fun htext => ih h (hasText_assign htext _)

/-- What is assigned first has been reached, since it has text ever after. -/
theorem reached_cons {lines : List Bytes} {pending : Pending} {earlier : List Assignment}
    {world : World} {name : Bytes} (h : world.environment.HasText name) (names : List Bytes) :
    reached (name :: names) (loadLines lines pending earlier world).1
      = name :: reached names (loadLines lines pending earlier world).1 := by
  cases hresult : (loadLines lines pending earlier world).1 with
  | ok done => rfl
  | error error =>
    cases error with
    | io error =>
      -- only a NUL takes variables away
      rfl
    | line bad => rfl
    | nul last =>
      -- the variable had text before, so it is not the one that the load ends with
      have hne : name ≠ .ofString last := fun hsame => not_hasText_of_nul hresult (hsame ▸ h)
      rw [reached, reached, List.takeWhile_cons_of_pos (by simpa using hne)]

/-- **Loading lines carries out assignments** to the variables that the lines assign, also when a line
cannot be understood or a value cannot be set. -/
theorem loadLines_eq_foldl (lines : List Bytes) (pending : Pending) (earlier : List Assignment)
    (world : World) :
    ∃ assignments : List Assignment,
      (loadLines lines pending earlier world).2 = assignments.foldl assign world ∧
      assignments.map (.ofString ·.name)
        = reached (namesFrom lines pending) (loadLines lines pending earlier world).1 := by
  induction lines generalizing pending earlier world with
  | nil =>
    unfold loadLines
    split <;> exact ⟨[], rfl, rfl⟩
  | cons line lines ih =>
    unfold loadLines namesFrom
    cases Utf8.decode? line with
    | none =>
      -- a line that is no text
      exact ⟨[], rfl, rfl⟩
    | some chars =>
      dsimp only
      cases pending.add chars with
      | inr pending =>
        -- a line that goes on with the next one
        exact ih ..
      | inl text =>
        dsimp only
        rw [← map_name_ofLine (valueOf world.environment earlier) text]
        cases Assignment.ofLine (valueOf world.environment earlier) text with
        | error bad =>
          -- a line that cannot be understood
          exact ⟨[], rfl, rfl⟩
        | ok found =>
          cases found with
          | none =>
            -- a line without an assignment
            exact ih ..
          | some assignment =>
            -- an assignment, which is carried out or ends the load
            dsimp only
            split
            · -- the load ends at this variable, and none was reached from here on
              have hnone : reached (.ofString assignment.name :: namesFrom lines .empty)
                  (.error (.nul assignment.name)) = [] := by
                rw [reached, List.takeWhile_cons_of_neg (by simp)]
              exact ⟨[], rfl, hnone.symm⟩
            · -- the variable is assigned, and the load goes on behind it
              obtain ⟨assignments, hafter, hnames⟩ :=
                ih .empty (assignment :: earlier) (assign world assignment)
              refine ⟨assignment :: assignments, hafter, ?_⟩
              rw [List.map_cons, hnames]
              exact (reached_cons (hasText_assign_self world assignment) _).symm

/-- The variables that the file at a path assigns, up to the first line that cannot be understood and up
to a variable that cannot have its value. -/
def namesIn (file : Path) (world : World) : List Bytes :=
  match world.read file with
  | .ok content => reached (namesFrom (fileLines (withoutMark content)) .empty) (load file world).1
  | .error _ => []

/-- Loading the file that a path leads to carries out its assignments as far as it comes. -/
theorem load_eq_foldl (file : Path) (world : World) :
    ∃ assignments : List Assignment,
      (load file world).2 = assignments.foldl assign world ∧
      assignments.map (.ofString ·.name) = namesIn file world := by
  unfold namesIn
  cases hread : world.read file with
  | error error =>
    -- a file that cannot be read assigns nothing
    rw [load, hread]
    exact ⟨[], rfl, rfl⟩
  | ok content =>
    dsimp only
    rw [load, hread]
    exact loadLines_eq_foldl ..

end Dotenv

namespace Config

/-- The variables that the dotenv file of a project assigns. -/
def dotenvNames (project : Path) (world : World) : List Bytes :=
  Dotenv.namesIn (project.join (.ofString ".env")) world

theorem loadDotenv_eq_foldl (project : Path) (world : World) :
    ∃ assignments : List Dotenv.Assignment,
      (loadDotenv project world).2 = assignments.foldl Dotenv.assign world ∧
      assignments.map (.ofString ·.name) = dotenvNames project world := by
  unfold loadDotenv dotenvNames
  dsimp only
  split
  · -- the result decides nothing about the world, which is that behind the lines that were read
    obtain ⟨assignments, hafter, hnames⟩ :=
      Dotenv.load_eq_foldl (project.join (.ofString ".env")) world
    refine ⟨assignments, ?_, hnames⟩
    split
    · next hloaded => rwa [hloaded] at hafter
    · next hloaded => rwa [hloaded] at hafter
  · next hmissing =>
    -- there is no file, so there is nothing to read and nothing to assign
    have hread : ∃ error, world.read (project.join (.ofString ".env")) = .error error := by
      unfold World.read
      cases hfind : world.find (project.join (.ofString ".env")) with
      | error error => exact ⟨error, rfl⟩
      | ok node => exact absurd (by rw [World.has, hfind]; rfl) hmissing
    obtain ⟨error, hread⟩ := hread
    rw [Dotenv.namesIn, hread]
    exact ⟨[], rfl, rfl⟩

/-- **What a dotenv file does**, whether it can be understood to its end or not. It changes nothing but
the environment. A variable keeps its value, or stays missing, exactly if there is text in it or the
file does not assign it, and there is text in every variable that the file assigns. -/
theorem loadDotenv_effect (project : Path) (world : World) :
    let loaded := (loadDotenv project world).2
    loaded = { world with environment := loaded.environment } ∧
      (∀ name, loaded.environment.get? name = world.environment.get? name ↔
        world.environment.HasText name ∨ name ∉ dotenvNames project world) ∧
      ∀ name ∈ dotenvNames project world, loaded.environment.HasText name := by
  intro loaded
  obtain ⟨assignments, hafter, hnames⟩ := loadDotenv_eq_foldl project world
  have hassigned : ∀ name ∈ dotenvNames project world, loaded.environment.HasText name := by
    intro name hname
    rw [show loaded = assignments.foldl Dotenv.assign world from hafter]
    exact Dotenv.hasText_foldl_assign (.inr (hnames ▸ hname))
  refine ⟨?_, fun name => ⟨fun hsame => ?_, ?_⟩, hassigned⟩
  · -- nothing but the environment is changed
    obtain ⟨environment, henvironment⟩ := loadDotenv_world project world
    rw [show loaded = { world with environment } from henvironment]
  · -- a variable that is assigned has text afterwards, so it had if it is the same
    by_cases hname : name ∈ dotenvNames project world
    · -- it is assigned, and had its text before
      obtain ⟨value, hvalue, htext⟩ := hassigned name hname
      exact .inl ⟨value, hsame ▸ hvalue, htext⟩
    · -- it is not assigned
      exact .inr hname
  · -- what has text or is not assigned stays as it is
    rintro (⟨value, hvalue, htext⟩ | hname)
    · rw [hvalue]
      exact loadDotenv_keeps htext hvalue
    · rw [show loaded = assignments.foldl Dotenv.assign world from hafter]
      exact Dotenv.foldl_assign_get?_of_not_mem (hnames ▸ hname)

/-- A directory with a dotenv file that assigns `A`, where `A` has a value that is no text. -/
def textlessWorld : World where
  files := ⟨[(.ofString ".env", .file (.ofString "A=") false)]⟩
  environment := ⟨[(.ofString "A", [0xFF])]⟩
  here := .located []
  started := []

/-- **A variable that is no text is overwritten**: it is there before the file is loaded, and what the
file assigns is there afterwards. -/
theorem loadDotenv_overwrites :
    textlessWorld.environment.get? (.ofString "A") = some [0xFF] ∧
      (loadDotenv (.ofString "/") textlessWorld).1.isOk ∧
      (loadDotenv (.ofString "/") textlessWorld).2.environment.get? (.ofString "A") = some [] :=
  ⟨by decide, by decide +kernel, by decide +kernel⟩

end Config

end SchemaBuild
