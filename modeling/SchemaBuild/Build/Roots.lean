import SchemaBuild.Build.Task
import SchemaBuild.Supplier

/-!
# Registries of source roots

Where a build reports the directories that it generated sources in. A `RootSet` remembers them, each
path once whatever its spelling. A `RootPublisher` also writes a line for each on a sink, from which
the enclosing build reads them; a sink may have room for so many bytes only.

`RootSet.register_of_contains` says that registering a known root changes nothing.
-/

namespace SchemaBuild

/-- The roots that are known, in the order in which they were registered first. -/
structure RootSet where
  roots : List Path
  deriving Repr, DecidableEq, Inhabited

namespace RootSet

/-- No roots. -/
def empty : RootSet := ⟨[]⟩

/-- Is the path known, in this or another spelling? -/
def contains (known : RootSet) (root : Path) : Bool := known.roots.any fun path => decide (path.Same root)

/-- Remember a root. -/
def register (known : RootSet) (root : Path) : RootSet :=
  if known.contains root then known else ⟨known.roots ++ [root]⟩

/-- The roots as JSON. -/
def toJson (known : RootSet) : Except IoError Json := do
  return .array (← known.roots.mapM Path.toJson)

/-- Registering a root in a set, as a task on a state that holds one. -/
def task {σ : Type} (get : σ → RootSet) (set : σ → RootSet → σ) (root : Path) : Task σ IoError Unit :=
  fun state => (.ok (), set state ((get state).register root))

theorem register_of_contains {known : RootSet} {root : Path} (h : known.contains root) :
    known.register root = known := by
  simp [register, h]

theorem contains_iff {known : RootSet} {root : Path} :
    known.contains root ↔ ∃ path ∈ known.roots, path.Same root := by
  simp [contains]

theorem contains_register (known : RootSet) (root : Path) : (known.register root).contains root := by
  unfold register
  split
  · assumption
  · exact contains_iff.2 ⟨root, by simp, Path.Same.refl root⟩

end RootSet

/-- Where lines are written. -/
structure Sink where
  written : Bytes
  /-- How many bytes more can be written, if there is a limit. -/
  room : Option Nat
  deriving Repr, DecidableEq, Inhabited

namespace Sink

/-- Write bytes, or as many as there is room for. -/
def write (sink : Sink) (bytes : Bytes) : Except IoError Unit × Sink :=
  match sink.room with
  | none => (.ok (), { sink with written := sink.written ++ bytes })
  | some room =>
    let taken := bytes.take room
    let sink := ⟨sink.written ++ taken, some (room - taken.length)⟩
    (if bytes.length ≤ room then .ok () else .error .incompleteWrite, sink)

end Sink

/-- A registry that writes each root that it has not written yet. -/
structure RootPublisher where
  /-- The name of the variable that the enclosing build gets the root in. -/
  variableName : String
  sink : Sink
  emitted : RootSet
  deriving Repr, DecidableEq, Inhabited

namespace RootPublisher

/-- A publisher that has written nothing yet. -/
def new (variableName : String) (sink : Sink) : RootPublisher := ⟨variableName, sink, .empty⟩

/-- The line for a root. -/
def directive (variableName : String) (root : Path) : Bytes :=
  Bytes.ofString s!"cargo:rustc-env={variableName}={root.display}\n"

/-- Write a root, unless it was written before. A root whose line did not fit is not known. -/
def register (publisher : RootPublisher) (root : Path) : Except IoError Unit × RootPublisher :=
  if publisher.emitted.contains root then (.ok (), publisher)
  else
    match publisher.sink.write (directive publisher.variableName root) with
    | (.ok (), sink) => (.ok (), { publisher with sink, emitted := publisher.emitted.register root })
    | (.error error, sink) => (.error error, { publisher with sink })

end RootPublisher

end SchemaBuild
