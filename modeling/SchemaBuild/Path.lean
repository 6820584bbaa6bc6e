import SchemaBuild.Text.Utf8

/-!
# Paths

A path is the string of bytes that was written for it. What it means is read off its **components**:
the root, a leading `.`, every `..` and every name. Repeated slashes, inner `.` and a trailing slash
are no components, so two spellings with the same components are the **same path** (`Path.Same`)
although they need not be the same bytes.

`Path.join` puts a path behind a base, `Path.parents` lists the paths above a path from the nearest
to the farthest, and `Path.absoluteFrom` spells a path from the root, as seen from a working
directory. None of the three looks at a file system, and none resolves `..`, which behind a symbolic
link leads elsewhere.
-/

namespace SchemaBuild

/-- A path, as it is spelled. -/
structure Path where
  bytes : Bytes
  deriving Repr, DecidableEq, Inhabited

namespace Path

/-- The path that a text spells. -/
def ofString (text : String) : Path := ⟨Bytes.ofString text⟩

/-- The path as text to be shown. -/
def display (path : Path) : String := path.bytes.toStringLossy

/-- The path as text, if it is text. -/
def toString? (path : Path) : Option String := path.bytes.toString?

/-- The byte between components. -/
def slash : UInt8 := Bytes.ascii '/'

/-- The name of the directory itself. -/
def dot : Bytes := [Bytes.ascii '.']

/-- The name of the directory above. -/
def dotDot : Bytes := [Bytes.ascii '.', Bytes.ascii '.']

/-- Is the path empty? -/
def isEmpty (path : Path) : Bool := path.bytes.isEmpty

/-- Does the path start at the root? -/
def isAbsolute (path : Path) : Bool := path.bytes.head? == some slash

/-- Does the path end in a slash? -/
def endsInSlash (path : Path) : Bool := path.bytes.getLast? == some slash

/-- The stretches between the slashes, empty ones included. -/
def segments (path : Path) : List Bytes := path.bytes.split slash

/-! ### Components -/

/-- One step of what a path means. -/
inductive Component where
  | root
  /-- A `.` that the path begins with. -/
  | current
  | parent
  | name (name : Bytes)
  deriving Repr, DecidableEq

/-- A stretch between slashes that is no component: an empty one or `.`. -/
def isFiller (segment : Bytes) : Bool := segment.isEmpty || segment == dot

/-- The component that a stretch stands for, if it is no filler. -/
def Component.ofSegment? (segment : Bytes) : Option Component :=
  if isFiller segment then none else if segment = dotDot then some .parent else some (.name segment)

/-- How a path begins. -/
inductive Start where
  | root
  /-- With a `.` of its own. -/
  | current
  /-- With its first name. -/
  | plain
  deriving Repr, DecidableEq

/-- How the path begins, and the stretches behind that beginning. -/
def parts (path : Path) : Start × List Bytes :=
  match path.segments with
  | [] => (.plain, [])
  | first :: rest =>
    if path.isAbsolute then (.root, rest)
    else if first = dot then (.current, rest)
    else (.plain, first :: rest)

/-- The components that a beginning stands for. -/
def Start.components : Start → List Component
  | .root => [.root]
  | .current => [.current]
  | .plain => []

/-- What the path means, step by step. -/
def components (path : Path) : List Component :=
  path.parts.1.components ++ path.parts.2.filterMap Component.ofSegment?

/-- Two spellings of one path. -/
def Same (p q : Path) : Prop := p.components = q.components

instance : DecidableRel Same := fun p q => inferInstanceAs (Decidable (p.components = q.components))

theorem Same.refl (p : Path) : p.Same p := rfl

theorem Same.symm {p q : Path} (h : p.Same q) : q.Same p := Eq.symm h

theorem Same.trans {p q r : Path} (h : p.Same q) (h' : q.Same r) : p.Same r := Eq.trans h h'

/-- The name at the end of the path, if the last component is one. -/
def fileName? (path : Path) : Option Bytes :=
  match path.components.getLast? with
  | some (.name name) => some name
  | _ => none

/-! ### Joining and taking apart -/

/-- `path` behind `base`: an absolute path stands for itself, and any other follows `base` after a
slash, unless `base` is empty or ends in one. -/
def join (base path : Path) : Path :=
  if path.isAbsolute then path
  else if base.isEmpty || base.endsInSlash then ⟨base.bytes ++ path.bytes⟩
  else ⟨base.bytes ++ slash :: path.bytes⟩

/-- The spelling of a beginning followed by stretches. -/
def assemble (start : Start) (segments : List Bytes) : Path :=
  match start with
  | .root => ⟨slash :: Bytes.join slash segments⟩
  | .current => ⟨dot ++ segments.flatMap (slash :: ·)⟩
  | .plain => ⟨Bytes.join slash segments⟩

/-- The paths above a path whose stretches are given in reverse order, the nearest first. -/
def parentsOf (start : Start) : List Bytes → List Path
  | [] => if start = .current then [⟨[]⟩] else []
  | segment :: above =>
    if isFiller segment then parentsOf start above
    else assemble start (above.dropWhile isFiller).reverse :: parentsOf start above

/-- The paths above the path, the nearest first. The root and the empty path have none. -/
def parents (path : Path) : List Path := parentsOf path.parts.1 path.parts.2.reverse

/-- The path above the path. -/
def parent? (path : Path) : Option Path := path.parents.head?

/-- The entries of a path list, in which a colon stands between two paths. -/
def splitList (list : Bytes) : List Path :=
  (list.split (Bytes.ascii ':')).filterMap fun piece => if piece.isEmpty then none else some ⟨piece⟩

/-! ### Absolute form -/

/-- The spelling of components behind a base: a name or `..` follows it, and the root replaces it. -/
def extend (base : Path) : List Component → Path
  | [] => base
  | .root :: rest => extend ⟨[slash]⟩ rest
  | .current :: rest => extend (base.join ⟨dot⟩) rest
  | .parent :: rest => extend (base.join ⟨dotDot⟩) rest
  | .name name :: rest => extend (base.join ⟨name⟩) rest

/-- Does the path begin with exactly two slashes? -/
def hasDoubleRoot (path : Path) : Bool :=
  [slash, slash].isPrefixOf path.bytes && !([slash, slash, slash].isPrefixOf path.bytes)

/-- The components without a leading `.`. -/
def componentsInside (path : Path) : List Component :=
  match path.components with
  | .current :: rest => rest
  | components => components

/-- The absolute form of a path that is not empty, as seen from the directory `here`: fillers go, `..`
and a trailing slash stay, and so do exactly two slashes at the beginning, which may have a meaning
of their own. -/
def absoluteFrom (here : Path) (path : Path) : Path :=
  let spelled :=
    if path.isAbsolute then
      if path.hasDoubleRoot then extend ⟨[slash, slash]⟩ (path.components.drop 1)
      else extend ⟨[]⟩ path.components
    else extend here path.componentsInside
  if path.endsInSlash then spelled.join ⟨[]⟩ else spelled

end Path

end SchemaBuild
