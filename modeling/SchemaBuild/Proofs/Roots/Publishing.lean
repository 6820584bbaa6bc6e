import Mathlib.Data.List.Induction
import SchemaBuild.Proofs.Roots.Distinct
import SchemaBuild.Proofs.Text.Utf8

/-!
# Publishing on a sink that may be full

A publisher writes a line for every root that it does not know, and knows the root from then on if
the whole line was written. When the sink gets full in the middle of a line, the root stays unknown,
and a later call tries again. So what is written and what is known never get out of step: the sink
holds the lines of the known roots and perhaps the beginning of one more line, the line of the first
root that was refused.

* `Sink.writeAll_eq` — in how many pieces a line is written makes no difference;
* `RootPublisher.register_cases` — all that registering a root can do;
* `RootPublisher.Accounts` — what the publisher knows, has written and will answer, told from the
  calls so far;
* `RootPublisher.accounts_after` — this is kept through every sequence of calls, on every sink.
-/

namespace SchemaBuild

/-! ### Sinks -/

namespace Sink

variable {sink : Sink} {bytes : Bytes} {room : Nat}

theorem write_unlimited (h : sink.room = none) (bytes : Bytes) :
    sink.write bytes = (.ok (), ⟨sink.written ++ bytes, none⟩) := by
  rw [write, h]

/-- A sink with room takes as much as fits. -/
theorem write_limited (h : sink.room = some room) (bytes : Bytes) :
    sink.write bytes = (if bytes.length ≤ room then .ok () else .error .incompleteWrite,
      ⟨sink.written ++ bytes.take room, some (room - bytes.length)⟩) := by
  have hleft : room - (bytes.take room).length = room - bytes.length := by
    rw [List.length_take]
    omega
  rw [write, h]
  dsimp only
  rw [hleft]

/-- Write pieces one after the other, up to the first that fails. -/
def writeAll (sink : Sink) : List Bytes → Except IoError Unit × Sink
  | [] => (.ok (), sink)
  | piece :: pieces =>
    match sink.write piece with
    | (.ok (), sink) => sink.writeAll pieces
    | (.error error, sink) => (.error error, sink)

/-- **Pieces** are written like the whole that they make up. -/
theorem writeAll_eq (sink : Sink) (pieces : List Bytes) :
    sink.writeAll pieces = sink.write pieces.flatten := by
  induction pieces generalizing sink with
  | nil =>
    -- nothing is written, and the room stays as it is
    obtain ⟨written, room⟩ := sink
    cases room <;> simp [writeAll, write]
  | cons piece pieces ih =>
    rw [writeAll, List.flatten_cons]
    cases hroom : sink.room with
    | none =>
      -- without a limit all is written
      rw [write_unlimited hroom, write_unlimited hroom]
      dsimp only
      rw [ih, write_unlimited rfl, List.append_assoc]
    | some room =>
      rw [write_limited hroom, write_limited hroom, List.take_append, List.length_append]
      by_cases hpiece : piece.length ≤ room
      · -- the first piece fits, and the others share what room is left
        rw [if_pos hpiece]
        dsimp only
        rw [ih, write_limited rfl, List.append_assoc, Nat.sub_sub]
        congr 1
        simp only [Nat.le_sub_iff_add_le' hpiece]
      · -- the sink is full within the first piece
        have hfull : room - piece.length = 0 := by omega
        rw [if_neg hpiece, if_neg (by omega), hfull, ← Nat.sub_sub, hfull]
        simp

/-- There is room for all of the bytes. -/
def Fits (sink : Sink) (bytes : Bytes) : Prop := ∀ room, sink.room = some room → bytes.length ≤ room

/-- What fits is written. -/
theorem write_of_fits (h : sink.Fits bytes) :
    sink.write bytes = (.ok (), ⟨sink.written ++ bytes, sink.room.map (· - bytes.length)⟩) := by
  cases hroom : sink.room with
  | none =>
    -- there is no limit, so everything fits
    exact write_unlimited hroom bytes
  | some room =>
    have hlength := h room hroom
    rw [write_limited hroom, if_pos hlength, List.take_of_length_le hlength]
    rfl

/-- What does not fit fills the sink. -/
theorem write_of_not_fits (h : ¬sink.Fits bytes) :
    ∃ room, sink.room = some room ∧ room < bytes.length ∧
      sink.write bytes = (.error .incompleteWrite, ⟨sink.written ++ bytes.take room, some 0⟩) := by
  simp only [Fits, not_forall] at h
  obtain ⟨room, hroom, hlength⟩ := h
  refine ⟨room, hroom, Nat.not_le.mp hlength, ?_⟩
  have hfull : room - bytes.length = 0 := by omega
  rw [write_limited hroom, if_neg hlength, hfull]

end Sink

/-! ### One call -/

namespace RootPublisher

variable {publisher : RootPublisher} {root : Path}

/-- The line of a root. -/
theorem directive_eq (variableName : String) (root : Path) : directive variableName root
    = Bytes.ofString "cargo:rustc-env=" ++ Bytes.ofString variableName
      ++ Bytes.ascii '=' :: Bytes.ofString root.display ++ [Bytes.ascii '\n'] := by
  simp only [directive, Bytes.ofString_append, toString]
  have hequals : Bytes.ofString "=" = [Bytes.ascii '='] := by decide +kernel
  have hnewline : Bytes.ofString "\n" = [Bytes.ascii '\n'] := by decide +kernel
  rw [hequals, hnewline, List.append_assoc _ [Bytes.ascii '='], List.singleton_append]

theorem length_directive_pos (variableName : String) (root : Path) :
    0 < (directive variableName root).length := by
  rw [directive_eq, List.length_append]
  exact Nat.succ_pos _

/-- Registering writes the line of an unknown root, in any pieces. -/
theorem register_of_pieces {pieces : List Bytes} (hnew : publisher.emitted.contains root = false)
    (hpieces : pieces.flatten = directive publisher.variableName root) :
    publisher.register root = match publisher.sink.writeAll pieces with
      | (.ok (), sink) =>
        (.ok (), { publisher with sink, emitted := publisher.emitted.register root })
      | (.error error, sink) => (.error error, { publisher with sink }) := by
  rw [register, hnew, Sink.writeAll_eq, hpieces]
  rfl

/-- **All that registering a root can do**: nothing if the root is known, write its line and know it
if the line fits, and otherwise fill the sink with the beginning of the line and fail. -/
theorem register_cases (publisher : RootPublisher) (root : Path) :
    (publisher.emitted.contains root = true ∧ publisher.register root = (.ok (), publisher)) ∨
    (publisher.emitted.contains root = false ∧
      publisher.sink.Fits (directive publisher.variableName root) ∧
      publisher.register root = (.ok (), ⟨publisher.variableName,
        ⟨publisher.sink.written ++ directive publisher.variableName root,
          publisher.sink.room.map (· - (directive publisher.variableName root).length)⟩,
        publisher.emitted.register root⟩)) ∨
    (publisher.emitted.contains root = false ∧
      ∃ room, publisher.sink.room = some room ∧
        room < (directive publisher.variableName root).length ∧
        publisher.register root = (.error .incompleteWrite, ⟨publisher.variableName,
          ⟨publisher.sink.written ++ (directive publisher.variableName root).take room, some 0⟩,
          publisher.emitted⟩)) := by
  cases hknown : publisher.emitted.contains root with
  | true =>
    -- the root is known, so nothing is written
    exact .inl ⟨rfl, by rw [register, if_pos hknown]⟩
  | false =>
    refine .inr ?_
    by_cases hfits : publisher.sink.Fits (directive publisher.variableName root)
    · -- the root is new and its line fits
      refine .inl ⟨rfl, hfits, ?_⟩
      rw [register, hknown, if_neg Bool.false_ne_true, Sink.write_of_fits hfits]
    · -- the root is new and its line does not fit
      obtain ⟨room, hroom, hlength, hwrite⟩ := Sink.write_of_not_fits hfits
      refine .inr ⟨rfl, room, hroom, hlength, ?_⟩
      rw [register, hknown, if_neg Bool.false_ne_true, hwrite]

/-- A call that fails makes nothing known. -/
theorem emitted_register_of_error {error : IoError} (h : (publisher.register root).1 = .error error) :
    (publisher.register root).2.emitted = publisher.emitted := by
  obtain ⟨-, hregister⟩ | ⟨-, -, hregister⟩ | ⟨-, _, -, -, hregister⟩ := publisher.register_cases root
  · rw [hregister]
  · rw [hregister] at h
    cases h
  · rw [hregister]

/-! ### Calls one after the other -/

/-- A call of registering a root, with its answer. -/
abbrev Call : Type := Path × Except IoError Unit

/-- The publisher after roots were registered one after the other. -/
def after (publisher : RootPublisher) (roots : List Path) : RootPublisher :=
  roots.foldl (fun publisher root => (publisher.register root).2) publisher

/-- The calls of registering roots one after the other. -/
def calls (publisher : RootPublisher) : List Path → List Call
  | [] => []
  | root :: roots => (root, (publisher.register root).1) :: (publisher.register root).2.calls roots

theorem after_concat (publisher : RootPublisher) (roots : List Path) (root : Path) :
    publisher.after (roots ++ [root]) = ((publisher.after roots).register root).2 := by
  rw [after, List.foldl_append]
  rfl

theorem calls_concat (publisher : RootPublisher) (roots : List Path) (root : Path) :
    publisher.calls (roots ++ [root])
      = publisher.calls roots ++ [(root, ((publisher.after roots).register root).1)] := by
  induction roots generalizing publisher with
  | nil => rfl
  | cons first roots ih =>
    rw [List.cons_append, calls, ih, calls, List.cons_append]
    rfl

/-- The roots of the calls that succeeded. -/
def succeeded (calls : List Call) : List Path := (calls.filter (·.2.isOk)).map (·.1)

/-- The root of the first call that failed. -/
def refused? (calls : List Call) : Option Path := (calls.find? (!·.2.isOk)).map (·.1)

theorem succeeded_concat_ok (calls : List Call) (root : Path) :
    succeeded (calls ++ [(root, .ok ())]) = succeeded calls ++ [root] := by
  simp [succeeded, Except.isOk, Except.toBool]

theorem succeeded_concat_error (calls : List Call) (root : Path) (error : IoError) :
    succeeded (calls ++ [(root, .error error)]) = succeeded calls := by
  simp [succeeded, Except.isOk, Except.toBool]

theorem refused?_concat_ok (calls : List Call) (root : Path) :
    refused? (calls ++ [(root, .ok ())]) = refused? calls := by
  simp [refused?, List.find?_append, Except.isOk, Except.toBool]

theorem refused?_concat_error (calls : List Call) (root : Path) (error : IoError) :
    refused? (calls ++ [(root, .error error)]) = (refused? calls).or (some root) := by
  rw [refused?, refused?, List.find?_append]
  cases calls.find? (!·.2.isOk) <;> rfl

/-- The beginning of the line of a root, and not all of it. -/
structure IsTorn (variableName : String) (root : Path) (torn : Bytes) : Prop where
  isPrefix : torn <+: directive variableName root
  ne : torn ≠ directive variableName root

/-- **The account of a publisher** that began with an empty sink of this capacity: what it has done
in these calls, and what it will answer to the next one. -/
structure Accounts (variableName : String) (capacity : Option Nat) (calls : List Call)
    (publisher : RootPublisher) : Prop where
  /-- The known roots are those of the calls that succeeded, each path once. -/
  known : publisher.emitted.roots = Path.distinct (succeeded calls)
  /-- Their lines are written in this order, and behind them at most the beginning of one more. -/
  written : ∃ torn, publisher.sink.written
      = (Path.distinct (succeeded calls)).flatMap (directive variableName) ++ torn ∧
    (torn = [] ∨ ∃ root, refused? calls = some root ∧ IsTorn variableName root torn)
  /-- A call succeeds if the root is known or its line fits. -/
  answer_iff (root : Path) : (publisher.register root).1 = .ok () ↔
    (∃ path ∈ succeeded calls, path.Same root) ∨
      ∀ bytes, capacity = some bytes →
        publisher.sink.written.length + (directive variableName root).length ≤ bytes
  /-- A call that fails makes no root known. -/
  unknown {root : Path} {error : IoError} : (publisher.register root).1 = .error error →
    (publisher.register root).2.emitted = publisher.emitted

/-- The account with the room that is left: none once a line was torn. -/
structure Ledger (variableName : String) (capacity : Option Nat) (calls : List Call)
    (publisher : RootPublisher) : Prop where
  variableName_eq : publisher.variableName = variableName
  known : publisher.emitted.roots = Path.distinct (succeeded calls)
  room : publisher.sink.room = capacity.map (· - publisher.sink.written.length)
  within : ∀ bytes, capacity = some bytes → publisher.sink.written.length ≤ bytes
  lines : ∃ torn, publisher.sink.written
      = (Path.distinct (succeeded calls)).flatMap (directive variableName) ++ torn ∧
    ((refused? calls = none ∧ torn = []) ∨
      ∃ root, refused? calls = some root ∧ IsTorn variableName root torn ∧
        publisher.sink.room = some 0)

namespace Ledger

variable {variableName : String} {capacity : Option Nat} {history : List Call}

theorem new (variableName : String) (capacity : Option Nat) :
    Ledger variableName capacity [] (.new variableName ⟨[], capacity⟩) where
  variableName_eq := rfl
  known := rfl
  room := by cases capacity <;> rfl
  within _ _ := Nat.zero_le _
  lines := ⟨[], rfl, .inl ⟨rfl, rfl⟩⟩

variable {publisher : RootPublisher} {root : Path}

theorem room_eq (h : Ledger variableName capacity history publisher) {bytes : Nat}
    (hbytes : capacity = some bytes) :
    publisher.sink.room = some (bytes - publisher.sink.written.length) := by
  rw [h.room, hbytes]
  rfl

/-- A sink with a limit has one because there is a capacity, and it is what is left of that. -/
theorem exists_capacity (h : Ledger variableName capacity history publisher) {room : Nat}
    (hroom : publisher.sink.room = some room) :
    ∃ bytes, capacity = some bytes ∧ publisher.sink.written.length + room = bytes := by
  obtain ⟨bytes, hbytes, hleft⟩ := Option.map_eq_some_iff.mp (h.room.symm.trans hroom)
  exact ⟨bytes, hbytes, by rw [← hleft, Nat.add_sub_cancel' (h.within bytes hbytes)]⟩

/-- A line fits if it does not get longer than the capacity with what is written. -/
theorem fits_iff (h : Ledger variableName capacity history publisher) {line : Bytes} :
    publisher.sink.Fits line ↔
      ∀ bytes, capacity = some bytes → publisher.sink.written.length + line.length ≤ bytes := by
  constructor
  · -- what fits in the room that is left fits in the whole
    intro hfits bytes hbytes
    have hleft := hfits _ (h.room_eq hbytes)
    have hbefore := h.within bytes hbytes
    omega
  · -- the room that is left is the whole without what is written
    intro hline room hroom
    obtain ⟨bytes, hbytes, hleft⟩ := h.exists_capacity hroom
    have hlength := hline bytes hbytes
    omega

/-- What fits leaves room only where no line was torn before. -/
theorem lines_of_fits (h : Ledger variableName capacity history publisher)
    (hfits : publisher.sink.Fits (directive variableName root)) :
    refused? history = none ∧ publisher.sink.written
      = (Path.distinct (succeeded history)).flatMap (directive variableName) := by
  obtain ⟨torn, hwritten, ⟨hrefused, rfl⟩ | ⟨_, _, _, hfull⟩⟩ := h.lines
  · exact ⟨hrefused, by rw [hwritten, List.append_nil]⟩
  · exact absurd (hfits 0 hfull) (Nat.not_le.mpr (length_directive_pos variableName root))

/-- A known root is one more success, and nothing else is new. -/
theorem of_known (h : Ledger variableName capacity history publisher)
    (hknown : ∃ path ∈ succeeded history, path.Same root) :
    Ledger variableName capacity (history ++ [(root, .ok ())]) publisher := by
  have hdistinct :
      Path.distinct (succeeded (history ++ [(root, .ok ())])) = Path.distinct (succeeded history) := by
    rw [succeeded_concat_ok, Path.distinct_concat, if_pos hknown, List.append_nil]
  refine ⟨h.variableName_eq, ?_, h.room, h.within, ?_⟩
  · -- the roots that are known are the same
    rw [hdistinct]
    exact h.known
  · -- so are the lines
    rw [hdistinct, refused?_concat_ok]
    exact h.lines

/-- A new root whose line fits is known and its line is written. -/
theorem of_fits (h : Ledger variableName capacity history publisher)
    (hnew : ¬∃ path ∈ succeeded history, path.Same root)
    (hfits : publisher.sink.Fits (directive variableName root)) :
    Ledger variableName capacity (history ++ [(root, .ok ())]) ⟨variableName,
      ⟨publisher.sink.written ++ directive variableName root,
        publisher.sink.room.map (· - (directive variableName root).length)⟩,
      publisher.emitted.register root⟩ := by
  obtain ⟨hrefused, hwritten⟩ := h.lines_of_fits hfits
  refine ⟨rfl, ?_, ?_, fun bytes hbytes => ?_, [], ?_, .inl ⟨?_, rfl⟩⟩
  · -- the root is known from now on
    rw [succeeded_concat_ok]
    exact RootSet.register_distinct h.known root
  · -- its line is taken off the room
    dsimp only
    rw [h.room, Option.map_map, List.length_append]
    congr 1
    exact funext fun bytes => Nat.sub_sub bytes _ _
  · -- and what is written is still within the capacity
    rw [List.length_append]
    exact h.fits_iff.mp hfits bytes hbytes
  · -- the line stands behind those of the other roots
    rw [succeeded_concat_ok, Path.distinct_concat, if_neg hnew, hwritten]
    simp
  · -- nothing has been refused so far
    rwa [refused?_concat_ok]

/-- A line that does not fit is torn, or there is no room left to tear it. -/
theorem of_torn (h : Ledger variableName capacity history publisher) {room : Nat}
    (hroom : publisher.sink.room = some room) (hlength : room < (directive variableName root).length)
    (error : IoError) :
    Ledger variableName capacity (history ++ [(root, .error error)]) ⟨variableName,
      ⟨publisher.sink.written ++ (directive variableName root).take room, some 0⟩,
      publisher.emitted⟩ := by
  obtain ⟨bytes, hbytes, hfilled⟩ := h.exists_capacity hroom
  have htake : ((directive variableName root).take room).length = room :=
    List.length_take_of_le (Nat.le_of_lt hlength)
  refine ⟨rfl, ?_, ?_, fun other hother => ?_, ?_⟩
  · -- a refused root is not known
    rw [succeeded_concat_error]
    exact h.known
  · -- the sink is full now
    dsimp only
    rw [hbytes, Option.map_some, List.length_append, htake, hfilled, Nat.sub_self]
  · -- it holds just what it can
    obtain rfl := Option.some.inj (hbytes.symm.trans hother)
    rw [List.length_append, htake]
    exact Nat.le_of_eq hfilled
  · -- behind the whole lines a part of one may stand
    rw [succeeded_concat_error, refused?_concat_error]
    obtain ⟨torn, hwritten, ⟨hrefused, rfl⟩ | ⟨first, hrefused, htorn, hfull⟩⟩ := h.lines
    · -- the first refusal: this line is the torn one
      refine ⟨(directive variableName root).take room, ?_, .inr ⟨root, ?_, ?_, rfl⟩⟩
      · -- it stands behind the whole lines
        rw [hwritten, List.append_nil]
      · -- its root is the first that was refused
        rw [hrefused]
        rfl
      · -- it is a part, and not the whole line
        refine ⟨List.take_prefix .., fun hwhole => ?_⟩
        rw [hwhole] at htake
        exact absurd htake.symm (Nat.ne_of_lt hlength)
    · -- a later one: the sink is full already
      obtain rfl := Option.some.inj (hfull.symm.trans hroom)
      refine ⟨torn, ?_, .inr ⟨first, ?_, htorn, rfl⟩⟩
      · -- nothing is added to it
        rw [List.take_zero, List.append_nil, hwritten]
      · -- and the first refusal is what it was
        rw [hrefused]
        rfl

/-- **Registering a root keeps the account.** -/
theorem register (h : Ledger variableName capacity history publisher) (root : Path) :
    Ledger variableName capacity (history ++ [(root, (publisher.register root).1)])
      (publisher.register root).2 := by
  obtain rfl := h.variableName_eq
  have hcontains_iff := RootSet.contains_iff_of_distinct h.known root
  obtain ⟨hcontains, hregister⟩ | ⟨hcontains, hfits, hregister⟩ |
    ⟨-, room, hroom, hlength, hregister⟩ := publisher.register_cases root
  · -- a known root, whose line is not written once more
    rw [hregister]
    exact h.of_known (hcontains_iff.mp hcontains)
  · -- a new root with a line that fits
    rw [hregister]
    refine h.of_fits (fun hknown => ?_) hfits
    rw [hcontains_iff.mpr hknown] at hcontains
    cases hcontains
  · -- a new root with a line that is too long for the room
    rw [hregister]
    exact h.of_torn hroom hlength .incompleteWrite

/-- **The account of a run.** -/
theorem after (variableName : String) (capacity : Option Nat) (roots : List Path) :
    Ledger variableName capacity ((RootPublisher.new variableName ⟨[], capacity⟩).calls roots)
      ((RootPublisher.new variableName ⟨[], capacity⟩).after roots) := by
  induction roots using List.reverseRecOn with
  | nil => exact .new variableName capacity
  | append_singleton roots root ih =>
    rw [calls_concat, after_concat]
    exact ih.register root

theorem answer_iff (h : Ledger variableName capacity history publisher) (root : Path) :
    (publisher.register root).1 = .ok () ↔
      (∃ path ∈ succeeded history, path.Same root) ∨
        ∀ bytes, capacity = some bytes →
          publisher.sink.written.length + (directive variableName root).length ≤ bytes := by
  rw [← h.fits_iff, ← RootSet.contains_iff_of_distinct h.known, ← h.variableName_eq]
  obtain ⟨hcontains, hregister⟩ | ⟨-, hfits, hregister⟩ |
    ⟨hcontains, room, hlimit, hlength, hregister⟩ := publisher.register_cases root
  · -- the root is known
    simp [hregister, hcontains]
  · -- the line fits
    simp [hregister, hfits]
  · -- the line does not fit, and the answer says so
    have hfull : ¬publisher.sink.Fits (directive publisher.variableName root) :=
      fun hfits => absurd (hfits room hlimit) (Nat.not_le.mpr hlength)
    simp [hregister, hcontains, hfull]

end Ledger

/-- **What a publisher has done and will answer**, after any roots and on a sink of any capacity. -/
theorem accounts_after (variableName : String) (capacity : Option Nat) (roots : List Path) :
    Accounts variableName capacity ((new variableName ⟨[], capacity⟩).calls roots)
      ((new variableName ⟨[], capacity⟩).after roots) := by
  have hledger := Ledger.after variableName capacity roots
  refine ⟨hledger.known, ?_, hledger.answer_iff, emitted_register_of_error⟩
  obtain ⟨torn, hwritten, ⟨-, htorn⟩ | ⟨root, hrefused, htorn, -⟩⟩ := hledger.lines
  · -- nothing was refused
    exact ⟨torn, hwritten, .inl htorn⟩
  · -- there is a part of the line of the first refused root
    exact ⟨torn, hwritten, .inr ⟨root, hrefused, htorn⟩⟩

end RootPublisher

end SchemaBuild
