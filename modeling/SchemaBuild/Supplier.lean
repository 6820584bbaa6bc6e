import SchemaBuild.Cause
import SchemaBuild.Json
import SchemaBuild.Json.Reader
import SchemaBuild.Path

/-!
# Suppliers

A supplier is a place where schema sources are looked for: a folder, whose files are read directly,
or an archive, a single file that bundles sources. The suppliers of a run form a search path, in
which an earlier one wins.
-/

namespace SchemaBuild

/-- How a supplier's contents are read. -/
inductive SupplierKind where
  | folder
  | archive
  deriving Repr, DecidableEq

namespace SupplierKind

/-- The word for a kind. -/
def word : SupplierKind → String
  | folder => "folder"
  | archive => "archive"

/-- The kinds with their words. -/
def words : List (String × SupplierKind) := [("folder", folder), ("archive", archive)]

/-- The kind as JSON. -/
def toJson (kind : SupplierKind) : Json := .string kind.word

/-- Read a kind. -/
def read : Json.Reader SupplierKind := Json.readWord words

end SupplierKind

namespace Path

/-- The path as JSON. There is none of a path that is not text. -/
def toJson (path : Path) : Except IoError Json :=
  match path.toString? with
  | some text => .ok (.string text)
  | none => .error .pathNotText

/-- Read a path. -/
def read : Json.Reader Path := fun text => do
  let (found, rest) ← Json.readString "path string" text
  return (.ofString found, rest)

end Path

/-- One place of the search path. -/
structure Supplier where
  kind : SupplierKind
  path : Path
  deriving Repr, DecidableEq

namespace Supplier

/-- Do two suppliers read the same path in the same way, however it is spelled? -/
def Same (a b : Supplier) : Prop := a.kind = b.kind ∧ a.path.Same b.path

instance : DecidableRel Same := fun a b =>
  inferInstanceAs (Decidable (a.kind = b.kind ∧ a.path.Same b.path))

/-- The supplier in words. -/
def display (supplier : Supplier) : String := s!"{supplier.kind.word} , {supplier.path.display}"

/-- The supplier as JSON. -/
def toJson (supplier : Supplier) : Except IoError Json := do
  let path ← supplier.path.toJson
  return .object [("kind", supplier.kind.toJson), ("path", path)]

/-- What has been read of a supplier. -/
structure Draft where
  kind : Option SupplierKind
  path : Option Path

/-- The fields of a supplier. -/
def fields : List (Json.Field Draft) :=
  [Json.field "kind" false (·.kind) (fun draft kind => { draft with kind := some kind }) SupplierKind.read,
    Json.field "path" false (·.path) (fun draft path => { draft with path := some path }) Path.read]

/-- Read a supplier. -/
def read : Json.Reader Supplier := fun text => do
  let (draft, rest) ← Json.readRecord "SupplierDescriptor" fields ⟨none, none⟩ text
  match draft with
  | ⟨some kind, some path⟩ => return (⟨kind, path⟩, rest)
  | _ => throw .malformed

/-- A search path as JSON. -/
def listToJson (suppliers : List Supplier) : Except IoError Json := do
  return .array (← suppliers.mapM toJson)

/-- Are two search paths the same, place by place? -/
def sameList : List Supplier → List Supplier → Bool
  | [], [] => true
  | a :: as, b :: bs => decide (a.Same b) && sameList as bs
  | _, _ => false

end Supplier

end SchemaBuild
