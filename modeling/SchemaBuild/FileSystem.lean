import SchemaBuild.Path
import SchemaBuild.IoError
import SchemaBuild.Table

/-!
# File systems

A file system is a tree of directories with files and symbolic links in them. An object stands at a
**location**: the names from the root down to it. `FileSystem.node?` looks a location up; `put` and
`erase` change the tree at one location.

The main statements say that what is put somewhere is seen there and nowhere else: `at?_put_self` and
`at?_put_of_not_prefix`.
-/

namespace SchemaBuild

/-- The names from the root down to an object, its own name last. -/
abbrev Location := List Bytes

/-- An object of a file system and all that is in it. -/
inductive Node where
  | directory (entries : List (Bytes × Node))
  /-- A file, which may be a program that can be run. -/
  | file (content : Bytes) (executable : Bool)
  | link (target : Path)
  deriving Repr, Inhabited

namespace Node

/-- Is it a directory? -/
def isDirectory : Node → Bool
  | directory _ => true
  | _ => false

/-- Is it a file with contents? -/
def isFile : Node → Bool
  | file .. => true
  | _ => false

/-- The entry of that name, if this is a directory that has one. -/
def child? : Node → Bytes → Option Node
  | directory entries, name => entries.lookup name
  | _, _ => none

/-- The object that stands at a location below this one. -/
def at? : Node → Location → Option Node
  | node, [] => some node
  | node, name :: rest => (node.child? name).bind (·.at? rest)

/-- Put an object at a location, replacing what is there. Nothing happens unless the location above
is a directory. -/
def put (new : Node) : Node → Location → Node
  | _, [] => new
  | directory entries, name :: rest =>
    match entries.lookup name with
    | some child => directory (Table.set entries name (put new child rest))
    | none => if rest = [] then directory (Table.set entries name new) else directory entries
  | node, _ :: _ => node

/-- Take the object at a location away. -/
def erase : Node → Location → Node
  | node, [] => node
  | directory entries, name :: rest =>
    if rest = [] then directory (Table.erase entries name)
    else
      match entries.lookup name with
      | some child => directory (Table.set entries name (erase child rest))
      | none => directory entries
  | node, _ :: _ => node

/-! ### Laws -/

@[simp] theorem at?_nil (node : Node) : node.at? [] = some node := by cases node <;> rfl

theorem at?_append (node : Node) (above below : Location) :
    node.at? (above ++ below) = (node.at? above).bind (·.at? below) := by
  induction above generalizing node with
  | nil => simp
  | cons name above ih =>
    simp only [List.cons_append, at?]
    cases node.child? name <;> simp [ih]

/-- What was put is there, if the location above is a directory. -/
theorem at?_put_self (new : Node) {node : Node} {above : Location} {name : Bytes}
    {entries : List (Bytes × Node)} (h : node.at? above = some (directory entries)) :
    (put new node (above ++ [name])).at? (above ++ [name]) = some new := by
  induction above generalizing node with
  | nil =>
    obtain rfl : node = directory entries := by simpa using h
    simp only [List.nil_append, put]
    cases hl : entries.lookup name <;> simp [at?, child?, Table.lookup_set]
  | cons first above ih =>
    cases node with
    | file => simp [at?, child?] at h
    | link => simp [at?, child?] at h
    | directory es =>
      simp only [at?, child?] at h
      cases hl : es.lookup first with
      | none => simp [hl] at h
      | some child =>
        rw [hl] at h
        simp only [List.cons_append, put, hl, at?, child?, Table.lookup_set, beq_self_eq_true, if_true]
        exact ih h

/-- What stands elsewhere, and not below the location, is what stood there. -/
theorem at?_put_of_not_prefix (new : Node) (node : Node) {location other : Location}
    (h₁ : ¬location <+: other) (h₂ : ¬other <+: location) :
    (put new node location).at? other = node.at? other := by
  induction location generalizing node other with
  | nil => exact absurd (List.nil_prefix) h₁
  | cons name rest ih =>
    cases other with
    | nil => exact absurd (List.nil_prefix) h₂
    | cons first others =>
      cases node with
      | file => rfl
      | link => rfl
      | directory entries =>
        -- the locations go on together, or part here
        by_cases hf : first = name
        · subst hf
          have h₁' : ¬rest <+: others := fun h => h₁ (by simpa using h)
          have h₂' : ¬others <+: rest := fun h => h₂ (by simpa using h)
          simp only [put]
          cases hl : entries.lookup first with
          | none =>
            by_cases hr : rest = []
            · subst hr
              exact absurd List.nil_prefix h₁'
            · simp [hr]
          | some child => simp [at?, child?, Table.lookup_set, hl, ih child h₁' h₂']
        · simp only [put]
          cases hl : entries.lookup name with
          | none =>
            by_cases hr : rest = [] <;> simp [hr, at?, child?, Table.lookup_set, hf]
          | some child => simp [at?, child?, Table.lookup_set, hf]

end Node

/-- A file system: what is in its root directory. -/
structure FileSystem where
  entries : List (Bytes × Node)
  deriving Repr, Inhabited

namespace FileSystem

/-- The file system with nothing in it. -/
def empty : FileSystem := ⟨[]⟩

/-- The root directory. -/
def root (files : FileSystem) : Node := .directory files.entries

/-- The object that stands at a location. -/
def node? (files : FileSystem) (location : Location) : Option Node := files.root.at? location

/-- Is there a directory at this location? -/
def isDirectoryAt (files : FileSystem) (location : Location) : Bool :=
  (files.node? location).any (·.isDirectory)

/-- The file system whose root directory is the given object, if that is a directory. -/
def ofRoot (files : FileSystem) : Node → FileSystem
  | .directory entries => ⟨entries⟩
  | _ => files

/-- Put an object at a location, replacing what is there. Nothing happens unless the location above
is a directory. -/
def put (files : FileSystem) (location : Location) (node : Node) : FileSystem :=
  files.ofRoot (Node.put node files.root location)

/-- Take the object at a location away. -/
def erase (files : FileSystem) (location : Location) : FileSystem :=
  files.ofRoot (Node.erase files.root location)

@[simp] theorem node?_nil (files : FileSystem) : files.node? [] = some files.root := by
  simp [node?]

end FileSystem

end SchemaBuild
