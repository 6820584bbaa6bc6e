import SchemaBuild.Classpath
import SchemaBuild.Supplier

/-!
# Resolving the search path

The suppliers of a run: the resource directory, if there is one, and then every entry of the
classpath that exists, in classpath order and as often as it stands there. A directory is a folder
and anything else an archive. Suppliers are recorded by absolute path.
-/

namespace SchemaBuild

/-- Why suppliers cannot be found or read. -/
inductive SupplierError where
  /-- The classpath cannot be enumerated. -/
  | classpath (cause : Cause)
  /-- A folder's file or an archive cannot be read. -/
  | io (path : Path) (error : IoError)
  /-- An archive is damaged; `error` is there if its entry is found but no text. -/
  | archive (path : Path) (error : IoError)
  deriving Repr, DecidableEq

namespace SupplierError

/-- The failure as a cause. -/
def toCause : SupplierError → Cause
  | classpath cause => cause.under .supplierClasspath "Classpath entries could not be enumerated"
  | io path error => (Cause.ofIo error).under .supplierIo s!"Failed to read {path.display}"
  | archive path error =>
    (Cause.ofIo error).under .supplierArchive s!"Failed to read archive {path.display}"

end SupplierError

namespace Supplier

/-- The supplier of the resource directory, if it exists. -/
def ofResources (world : World) (resources : Path) : List Supplier :=
  if world.has resources then [⟨.folder, world.absolute resources⟩] else []

/-- The supplier of a classpath entry, if it exists. -/
def ofPath? (world : World) (entry : Path) : Option Supplier :=
  if world.has entry then
    some ⟨if world.isDirectory entry then .folder else .archive, world.absolute entry⟩
  else none

/-- The search path of a resource directory and a classpath. -/
def resolve (world : World) (resources : Path) (classpath : Classpath) :
    Except SupplierError (List Supplier) :=
  match classpath.entries world with
  | .error cause => .error (.classpath cause)
  | .ok entries => .ok (ofResources world resources ++ entries.filterMap (ofPath? world))

end Supplier

end SchemaBuild
