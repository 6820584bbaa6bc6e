import SchemaBuild.Archive.Gzip
import SchemaBuild.Archive.Tar
import SchemaBuild.Package
import SchemaBuild.Resolution

/-!
# Looking sources up

The source of a package `a.b.c` is the file `a.b.c.<extension>`, directly in a folder or at the root
of an archive. Suppliers are searched in their order, and the first that has the file wins; a supplier
that may have it but cannot be read ends the search. Archives are bundles, compressed or not, as the
end of their file name says; files with other names are passed over.
-/

namespace SchemaBuild

/-- The source text of a package and the supplier it was found on. -/
structure SchemaSource where
  package : PackageName
  origin : Supplier
  text : String
  deriving DecidableEq

/-- How an archive is read. -/
inductive ArchiveFormat where
  | plain
  | compressed
  deriving Repr, DecidableEq

namespace ArchiveFormat

/-- The format of an archive with the given file name. -/
def ofFileName? (name : Bytes) : Option ArchiveFormat :=
  match name.toString? with
  | none => none
  | some _ =>
    let name := name.lower
    if (Bytes.ofString ".tar.gz").isSuffixOf name || (Bytes.ofString ".tgz").isSuffixOf name then
      some .compressed
    else if (Bytes.ofString ".tar").isSuffixOf name then some .plain
    else none

/-- The format of the archive at a path. -/
def ofPath? (path : Path) : Option ArchiveFormat := path.fileName?.bind ofFileName?

/-- The bundle in an archive with the given contents. -/
def bundle : ArchiveFormat → Bytes → Stream
  | plain, file => .ofBytes file
  | compressed, file => Gzip.decompress file

end ArchiveFormat

/-- How the text of a damaged archive is called in messages. -/
def damagedArchive : IoError := .other "the archive is damaged"

/-- A search path and the extension of the sources on it. -/
structure SourceLookup where
  suppliers : List Supplier
  extension : String := "stema"

namespace SourceLookup

/-- The lookup with another extension, dots at its front being dropped. -/
def withExtension (lookup : SourceLookup) (extension : String) : SourceLookup :=
  { lookup with extension := String.ofList (extension.toList.dropWhile (· = '.')) }

/-- The name of the file that holds a package. -/
def fileName (lookup : SourceLookup) (package : PackageName) : String :=
  package.text ++ "." ++ lookup.extension

/-- The text of a file in a folder, if there is such a file. -/
def findInFolder (world : World) (folder : Path) (name : String) :
    Except SupplierError (Option String) :=
  let candidate := folder.join (.ofString name)
  if world.isFile candidate then
    match world.readText candidate with
    | .ok text => .ok (some text)
    | .error error => .error (.io candidate error)
  else .ok none

/-- The text of the first file with a name at the root of a bundle. -/
def findInBundle (archive : Path) (bundle : Stream) (name : String) :
    Except SupplierError (Option String) :=
  match Tar.find bundle (.ofString name) with
  | .absent => .ok none
  | .damaged => .error (.archive archive damagedArchive)
  | .content content =>
    match content.toString? with
    | some text => .ok (some text)
    | none => .error (.archive archive .notText)

/-- The text of a file in an archive, if the archive can be read and has such a file. -/
def findInArchive (world : World) (archive : Path) (name : String) :
    Except SupplierError (Option String) :=
  match ArchiveFormat.ofPath? archive with
  | none => .ok none
  | some format =>
    match world.find archive with
    | .error error => .error (.io archive error)
    | .ok (.file content _) => findInBundle archive (format.bundle content) name
    | .ok _ => findInBundle archive .broken name

/-- The text of a file on a supplier, if the supplier has it. -/
def findOn (world : World) (supplier : Supplier) (name : String) :
    Except SupplierError (Option String) :=
  match supplier.kind with
  | .folder => findInFolder world supplier.path name
  | .archive => findInArchive world supplier.path name

/-- The first supplier that has a file, and its text. -/
def search (world : World) (name : String) :
    List Supplier → Except SupplierError (Option (Supplier × String))
  | [] => .ok none
  | supplier :: suppliers =>
    match findOn world supplier name with
    | .error error => .error error
    | .ok (some text) => .ok (some (supplier, text))
    | .ok none => search world name suppliers

/-- The source of a package, if a supplier has it. -/
def find (lookup : SourceLookup) (world : World) (package : PackageName) :
    Except SupplierError (Option SchemaSource) :=
  match search world (lookup.fileName package) lookup.suppliers with
  | .error error => .error error
  | .ok none => .ok none
  | .ok (some (origin, text)) => .ok (some ⟨package, origin, text⟩)

end SourceLookup

end SchemaBuild
