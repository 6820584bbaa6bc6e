import SchemaBuild.Proofs.Archive.Bundles
import SchemaBuild.Proofs.Archive.Fronts
import SchemaBuild.Proofs.Path.Absolute

/-!
# The items of a bundle

For a search, an entry of a bundle is no more than its kind, its name and its content: an **item**. A
front of a bundle holds items if that many entries can be read from it as a whole, and nothing is left
of it then. Of the items only those count that are files at the root: ordinary files whose names are
relative and lead to one name, however often a slash is repeated or a dot is put in between.

* `Path.componentsInside_eq_singleton_iff` — the spellings that lead to one name;
* `Tar.Item.IsRootFile` — the files at the root that have a name;
* `Tar.Holds` — a front and the items in it;
* `Tar.Holds.find_first` — the first file at the root that has the name decides, whatever is behind it;
* `Tar.Holds.find_behind` — if there is none, the search goes on behind the front.
-/

namespace SchemaBuild

/-! ### Spellings of one name -/

namespace Path

variable {name : Bytes}

/-- A stretch that is no filler stands for the directory above or for a name. -/
theorem filterMap_ofSegment?_eq_map (segments : List Bytes) :
    segments.filterMap Component.ofSegment? = (segments.filter (!isFiller ·)).map
      fun segment => if segment = dotDot then .parent else .name segment := by
  induction segments with
  | nil => rfl
  | cons segment segments ih =>
    cases hfiller : isFiller segment with
    | true =>
      -- a filler is no component
      rw [List.filterMap_cons_none (by simp [Component.ofSegment?, hfiller]), ih,
        List.filter_cons_of_neg (by simp [hfiller])]
    | false =>
      -- a parent or a name
      rw [List.filter_cons_of_pos (by simp [hfiller]), List.map_cons, ← ih]
      exact List.filterMap_cons_some (by simp [Component.ofSegment?, hfiller]; split <;> rfl)

/-- **One name** is what the relative paths lead to that have no other stretch than it, fillers not
counted. -/
theorem componentsInside_eq_singleton_iff {path : Path} (hparent : name ≠ dotDot) :
    path.componentsInside = [.name name] ↔ path.isAbsolute = false ∧ path.names = [name] := by
  cases habsolute : path.isAbsolute with
  | true =>
    -- the root is a component of its own
    rw [componentsInside, components_of_isAbsolute habsolute]
    simp
  | false =>
    -- a relative path has the components of its stretches
    rw [componentsInside_of_relative habsolute, filterMap_ofSegment?_eq_map, parts_names,
      List.map_eq_singleton_iff]
    constructor
    · -- the only component is the name, and not the parent
      rintro ⟨other, hnames, hother⟩
      split at hother
      · cases hother
      · cases hother
        exact ⟨rfl, hnames⟩
    · -- the only stretch is the name
      rintro ⟨-, hnames⟩
      exact ⟨name, hnames, if_neg hparent⟩

end Path

namespace Tar

/-! ### Items -/

/-- What a search sees of an entry: the byte of its kind, its name and its content. -/
structure Item where
  kind : UInt8
  name : Bytes
  content : Bytes
  deriving Repr, DecidableEq

namespace Item

/-- The item is **a file at the root** of the bundle that has the name: an ordinary file whose own
name does not begin with a slash and, cut at the slashes, is `name` but for empty stretches and
dots. -/
structure IsRootFile (name : Bytes) (item : Item) : Prop where
  file : item.kind = Bytes.ascii '0' ∨ item.kind = 0
  relative : item.name.head? ≠ some Path.slash
  stretches : (item.name.split Path.slash).filter (fun s => s ≠ [] ∧ s ≠ Path.dot) = [name]

theorem isRootFile_iff {name : Bytes} {item : Item} : item.IsRootFile name ↔
    (item.kind = Bytes.ascii '0' ∨ item.kind = 0) ∧ item.name.head? ≠ some Path.slash ∧
      (item.name.split Path.slash).filter (fun s => s ≠ [] ∧ s ≠ Path.dot) = [name] := by
  constructor
  · intro h
    exact ⟨h.file, h.relative, h.stretches⟩
  · rintro ⟨file, relative, stretches⟩
    exact ⟨file, relative, stretches⟩

instance (name : Bytes) (item : Item) : Decidable (item.IsRootFile name) :=
  decidable_of_iff _ isRootFile_iff.symm

end Item

/-- A member, with the content that was read for it, as an item. -/
def Member.item (member : Member) (content : Bytes) : Item :=
  ⟨member.entry.header.kind, member.name, content⟩

variable {name : Bytes}

/-- A search takes the files at the root that have the name. -/
theorem Member.isRootFile_item (hslash : Path.slash ∉ name) (hne : name ≠ [])
    (hdot : name ≠ Path.dot) (hparent : name ≠ Path.dotDot) (member : Member) (content : Bytes) :
    (member.isFile && member.isNamed ⟨name⟩) = true ↔ (member.item content).IsRootFile name := by
  have hcomponents : (Path.mk name).components = [.name name] := by
    rw [Path.components_of_noSlash hslash hne, if_neg hdot, if_neg hparent]
  have hfile : member.isFile = true ↔
      member.entry.header.kind = Bytes.ascii '0' ∨ member.entry.header.kind = 0 := by
    simp [Member.isFile]
  have hrelative : (Path.mk member.name).isAbsolute = false ↔
      member.name.head? ≠ some Path.slash := by
    simp [Path.isAbsolute]
  have hnames : (Path.mk member.name).names =
      (member.name.split Path.slash).filter (fun s => s ≠ [] ∧ s ≠ Path.dot) := by
    refine List.filter_congr fun segment _ => ?_
    rw [Bool.eq_iff_iff]
    simp [Path.isFiller]
  rw [Bool.and_eq_true_iff, hfile, Member.isNamed, hcomponents, beq_iff_eq,
    Path.componentsInside_eq_singleton_iff hparent, hrelative, hnames]
  exact (@Item.isRootFile_iff name (member.item content)).symm

/-! ### Fronts that hold items -/

/-- The front holds the items: they are read from it one after the other, each with all of its content
and with what fills up the last block of it, although nothing can be read behind the front. -/
inductive Holds : Bytes → List Item → Prop
  | nil : Holds [] []
  | cons {front rest content : Bytes} {member : Member} {items : List Item}
      (next : nextMember? ⟨front, false⟩ = some (some member))
      (read : member.content? = some content)
      (after : member.entry.after? = some ⟨rest, false⟩) (behind : Holds rest items) :
      Holds front (member.item content :: items)

section Search

variable {front rest : Bytes} {intact : Bool} (hslash : Path.slash ∉ name) (hne : name ≠ [])
  (hdot : name ≠ Path.dot) (hparent : name ≠ Path.dotDot)

include hslash hne hdot hparent

/-- **The next item** decides if it is the file, and else what is behind it does. -/
theorem find_of_next {front' content : Bytes} {member : Member}
    (next : nextMember? ⟨front, false⟩ = some (some member))
    (read : member.content? = some content)
    (after : member.entry.after? = some ⟨front', false⟩) :
    find ⟨front ++ rest, intact⟩ ⟨name⟩ =
      if (member.item content).IsRootFile name then .content content
      else find ⟨front' ++ rest, intact⟩ ⟨name⟩ := by
  let behind : Stream := ⟨rest, intact⟩
  have hnext : nextMember? (Stream.followedBy ⟨front, false⟩ behind)
      = some (some (member.followedBy behind)) :=
    nextMember?_followedBy rfl next
  have hread : (member.followedBy behind).content? = some content :=
    Stream.read?_followedBy (nextMember?_readFrom next).intact read
  have hafter : (member.followedBy behind).entry.after?
      = some (Stream.followedBy ⟨front', false⟩ behind) :=
    after?_followedBy after
  -- kind and name are those of the member in the front
  have hfile := Member.isRootFile_item hslash hne hdot hparent (member.followedBy behind) content
  rw [show (member.followedBy behind).item content = member.item content from rfl] at hfile
  rw [show (⟨front ++ rest, intact⟩ : Stream) = Stream.followedBy ⟨front, false⟩ behind from rfl,
    Tar.find_eq, hnext]
  dsimp only
  rw [hread, hafter]
  exact if_congr hfile rfl rfl

namespace Holds

variable {items before : List Item} {item : Item}

/-- **Behind a front** without a file of the name the search goes on. -/
theorem find_behind (h : Holds front items)
    (hothers : ∀ other ∈ items, ¬other.IsRootFile name) :
    find ⟨front ++ rest, intact⟩ ⟨name⟩ = find ⟨rest, intact⟩ ⟨name⟩ := by
  -- the items are passed over one by one, with less and less of the front before the rest
  induction h with
  | nil => rfl
  | cons next read after _ ih =>
    obtain ⟨hfirst, hothers⟩ := List.forall_mem_cons.mp hothers
    rw [find_of_next hslash hne hdot hparent next read after, if_neg hfirst]
    exact ih hothers

/-- **The first file** of the name decides, and nothing behind it matters. -/
theorem find_first (h : Holds front (before ++ [item]))
    (hothers : ∀ other ∈ before, ¬other.IsRootFile name) (hitem : item.IsRootFile name) :
    find ⟨front ++ rest, intact⟩ ⟨name⟩ = .content item.content := by
  induction before generalizing front with
  | nil =>
    -- the item is the next one
    cases h with
    | cons next read after _ =>
      rw [find_of_next hslash hne hdot hparent next read after, if_pos hitem]
      rfl
  | cons other before ih =>
    -- another item is passed
    obtain ⟨hfirst, hbefore⟩ := List.forall_mem_cons.mp hothers
    cases h with
    | cons next read after behind =>
      rw [find_of_next hslash hne hdot hparent next read after, if_neg hfirst]
      exact ih behind hbefore

end Holds

end Search

end Tar

end SchemaBuild
