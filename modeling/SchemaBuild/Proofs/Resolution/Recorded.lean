import Mathlib.Data.List.Forall2
import SchemaBuild.Proofs.FileSystem.Absolute
import SchemaBuild.Resolution

/-!
# What resolving records

Resolving a resource directory and a classpath records one supplier for each of them that exists, in
order, and nothing else. A supplier is recorded by an absolute path, which stands for the object that
the given path leads to.

* `Supplier.Records` — a supplier is recorded for a path;
* `Supplier.resolve_records` — what resolving records, one supplier for each path that exists;
* `Supplier.no_lead_of_long_form` — the absolute form of a path may be too long to be followed.
-/

namespace SchemaBuild

namespace Supplier

variable {world : World} {path resources : Path} {classpath : Classpath} {location : Location}

/-- The supplier is recorded for the path: by an absolute path that leads from every working
directory to where the path leads, unless it is too long to be followed. Only the form of a relative
path can be, since it has the working directory in front. -/
structure Records (world : World) (path : Path) (supplier : Supplier) : Prop where
  isAbsolute : supplier.path.isAbsolute = true
  leads_iff : (∀ there, world.files.locate there supplier.path = world.files.locate world.here path)
    ↔ supplier.path.bytes.length < pathLimit
  length_le : path.isAbsolute = true → supplier.path.bytes.length ≤ path.bytes.length
  length_le_of_relative {directory : Path} : path.isAbsolute = false →
    world.currentDirectory = .ok directory →
      supplier.path.bytes.length ≤ directory.bytes.length + 1 + path.bytes.length

theorem exists_locate_of_has (h : world.has path = true) :
    ∃ goal, world.files.locate world.here path = .ok goal := by
  cases hfind : world.find path with
  | error error =>
    rw [World.has, hfind] at h
    cases h
  | ok node => exact FileSystem.exists_locate_of_find hfind

/-- The absolute form of a path that exists is recorded for it. -/
theorem records_absolute (hplaced : world.Placed) (hhere : world.here = .located location)
    (h : world.has path = true) (kind : SupplierKind) :
    Records world path ⟨kind, world.absolute path⟩ := by
  obtain ⟨goal, hlocate⟩ := exists_locate_of_has h
  have hne := World.isEmpty_of_locate hlocate
  obtain ⟨hdirectory, hnames⟩ := hplaced location hhere
  have hpathOf := (FileSystem.spells_pathOf hdirectory hnames).isAbsolute
  have hleads := World.locate_absolute_iff hplaced hhere hlocate
  -- an absolute path is only spelled anew, and a relative one has the working directory in front
  cases habsolute : path.isAbsolute with
  | true =>
    have hform := World.absolute_of_isAbsolute world habsolute
    exact {
      isAbsolute := by
        rw [hform]
        exact Path.isAbsolute_absoluteFrom (.inl habsolute)
      leads_iff := hleads
      length_le := fun _ => by
        rw [hform]
        exact Path.length_absoluteFrom_le_of_isAbsolute _ habsolute
      length_le_of_relative := fun hrelative => by
        rw [habsolute] at hrelative
        cases hrelative }
  | false =>
    have hform := World.absolute_of_located hhere hne habsolute
    exact {
      isAbsolute := by
        rw [hform]
        exact Path.isAbsolute_absoluteFrom (.inr hpathOf)
      leads_iff := hleads
      length_le := fun hrooted => by
        rw [habsolute] at hrooted
        cases hrooted
      length_le_of_relative := fun _ hcurrent => by
        rw [World.currentDirectory, hhere] at hcurrent
        cases hcurrent
        rw [hform]
        exact Path.length_absoluteFrom_le habsolute }

/-- The resource directory is recorded if it exists. -/
theorem ofResources_records (hplaced : world.Placed) (hhere : world.here = .located location)
    (resources : Path) :
    List.Forall₂ (Records world) ([resources].filter world.has) (ofResources world resources) := by
  unfold ofResources
  split
  · next hhas =>
    -- the directory of the resources is there
    rw [List.filter_cons_of_pos hhas]
    exact .cons (records_absolute hplaced hhere hhas _) .nil
  · next hhas =>
    -- it is missing
    rw [List.filter_cons_of_neg hhas]
    exact .nil

/-- Each entry that exists is recorded, by its kind, and no other entry is. -/
theorem filterMap_records (hplaced : world.Placed) (hhere : world.here = .located location)
    (entries : List Path) :
    List.Forall₂
      (fun entry supplier => Records world entry supplier ∧
        (supplier.kind = .folder ↔ world.isDirectory entry = true))
      (entries.filter world.has) (entries.filterMap (ofPath? world)) := by
  induction entries with
  | nil => exact .nil
  | cons entry entries ih =>
    cases hhas : world.has entry with
    | false =>
      -- nothing is recorded of an entry that is missing
      have hnone : ofPath? world entry = none := by simp [ofPath?, hhas]
      rw [List.filter_cons_of_neg (by simp [hhas]), List.filterMap_cons_none hnone]
      exact ih
    | true =>
      -- an entry that is there is recorded once
      have hsome : ofPath? world entry = some ⟨if world.isDirectory entry then .folder else .archive,
          world.absolute entry⟩ := by
        simp [ofPath?, hhas]
      rw [List.filter_cons_of_pos hhas, List.filterMap_cons_some hsome]
      refine .cons ⟨records_absolute hplaced hhere hhas _, ?_⟩ ih
      cases world.isDirectory entry <;> simp

/-- **Resolving** fails if the classpath cannot be enumerated, with its cause. Otherwise it records
the resource directory, if it exists, and then every entry that exists, in classpath order and as
often as it stands there. -/
theorem resolve_records (hplaced : world.Placed) (hhere : world.here = .located location)
    (resources : Path) (classpath : Classpath) :
    (∀ cause, classpath.entries world = .error cause →
      resolve world resources classpath = .error (.classpath cause)) ∧
    ∀ entries, classpath.entries world = .ok entries →
      ∃ own others, resolve world resources classpath = .ok (own ++ others) ∧
        List.Forall₂ (Records world) ([resources].filter world.has) own ∧
        List.Forall₂
          (fun entry supplier => Records world entry supplier ∧
            (supplier.kind = .folder ↔ world.isDirectory entry = true))
          (entries.filter world.has) others := by
  constructor
  · -- a failure of the classpath is one of the search path
    intro cause hentries
    rw [resolve, hentries]
  · -- the resources come first, and then the entries in their order
    intro entries hentries
    refine ⟨ofResources world resources, entries.filterMap (ofPath? world), ?_,
      ofResources_records hplaced hhere resources, filterMap_records hplaced hhere entries⟩
    rw [resolve, hentries]

/-! ### A directory behind a link -/

/-- A world whose working directory `/w` has a link to `/t/s` in it, and an archive. -/
def linkedWorld : World where
  files := ⟨[(Bytes.ofString "t", .directory [(Bytes.ofString "s", .directory [])]),
    (Bytes.ofString "w", .directory [(Bytes.ofString "l", .link (.ofString "/t/s")),
      (Bytes.ofString "a.tar", .file [] false)])]⟩
  environment := ⟨[]⟩
  here := .located [Bytes.ofString "w"]
  started := []

theorem linkedWorld_placed : linkedWorld.Placed := by
  intro location hhere
  obtain rfl : [Bytes.ofString "w"] = location := by simpa [linkedWorld] using hhere
  refine ⟨rfl, fun name hmem => ?_⟩
  rw [List.mem_singleton.mp hmem, show Bytes.ofString "w" = [119] from rfl]
  constructor <;> decide

/-- The paths that are given: the resource directory, through the link and up again with fillers and
slashes, and a classpath with a missing entry and with an archive that stands in it twice. -/
def linkedResources : Path := .ofString "./l//../"

def linkedEntries : List Path :=
  [.ofString "a.tar", .ofString "gone", .ofString "/w/./l", .ofString "a.tar"]

theorem linkedResources_filter :
    [linkedResources].filter linkedWorld.has = [linkedResources] := by
  decide +kernel

theorem linkedEntries_filter : linkedEntries.filter linkedWorld.has
    = [.ofString "a.tar", .ofString "/w/./l", .ofString "a.tar"] := by
  decide +kernel

/-- The resource directory, which is `/t`, and three entries are recorded. -/
theorem resolve_records_linkedWorld :
    ∃ own others,
      resolve linkedWorld linkedResources (.fixed linkedEntries) = .ok (own ++ others) ∧
      List.Forall₂ (Records linkedWorld) [linkedResources] own ∧
      List.Forall₂
        (fun entry supplier => Records linkedWorld entry supplier ∧
          (supplier.kind = .folder ↔ linkedWorld.isDirectory entry = true))
        [.ofString "a.tar", .ofString "/w/./l", .ofString "a.tar"] others := by
  have hrecords := (resolve_records linkedWorld_placed rfl linkedResources
    (.fixed linkedEntries)).2 linkedEntries rfl
  rwa [linkedResources_filter, linkedEntries_filter] at hrecords

/-- The suppliers are spelled without fillers, and with the step up and the slash. -/
example : resolve linkedWorld linkedResources (.fixed linkedEntries)
    = .ok [⟨.folder, .ofString "/w/l/../"⟩, ⟨.archive, .ofString "/w/a.tar"⟩,
      ⟨.folder, .ofString "/w/l"⟩, ⟨.archive, .ofString "/w/a.tar"⟩] := by
  decide +kernel

/-! ### A form that is too long -/

/-- The path that goes up so many times: `../` and again `../`. -/
def upward : Nat → Path
  | 0 => ⟨[]⟩
  | n + 1 => ⟨Path.dotDot ++ Path.slash :: (upward n).bytes⟩

theorem upward_segments (n : Nat) :
    (upward n).segments = List.replicate n Path.dotDot ++ [[]] := by
  induction n with
  | zero => rfl
  | succ n ih =>
    have hfirst : Bytes.split Path.slash Path.dotDot = [Path.dotDot] := rfl
    rw [Path.segments, upward, Bytes.split_append, hfirst, List.replicate_succ]
    exact congrArg (Path.dotDot :: ·) ih

theorem upward_length (n : Nat) : (upward n).bytes.length = 3 * n := by
  induction n with
  | zero => rfl
  | succ n ih =>
    rw [upward, List.length_append, List.length_cons, ih, show Path.dotDot.length = 2 from rfl]
    omega

theorem upward_names (n : Nat) : (upward n).names = List.replicate n Path.dotDot := by
  have hname : (!Path.isFiller Path.dotDot) = true := by decide
  rw [Path.names, upward_segments, List.filter_append, List.filter_replicate, if_pos hname]
  exact List.append_nil _

theorem upward_endsInSlash (n : Nat) : (upward (n + 1)).endsInSlash = true := by
  induction n with
  | zero => decide
  | succ n ih =>
    rw [upward, Path.endsInSlash, List.getLast?_append, List.getLast?_cons]
    rw [Path.endsInSlash] at ih
    cases hlast : (upward (n + 1)).bytes.getLast? with
    | none =>
      rw [hlast] at ih
      cases ih
    | some last =>
      rw [hlast] at ih
      exact ih

/-- Behind the root the path goes on after one more slash. -/
theorem descend_upward {base : Path} (hopen : (base.isEmpty || base.endsInSlash) = false) (n : Nat) :
    base.descend (List.replicate n Path.dotDot ++ [[]])
      = ⟨base.bytes ++ Path.slash :: (upward n).bytes⟩ := by
  induction n generalizing base with
  | zero =>
    -- the slash at the end is put behind the base
    have hjoin := Path.join_nil base
    rw [hopen, if_neg Bool.false_ne_true] at hjoin
    exact hjoin
  | succ n ih =>
    -- two dots are put behind the base, which then is open again
    have hbytes : (base.join ⟨Path.dotDot⟩).bytes = base.bytes ++ Path.slash :: Path.dotDot :=
      Path.join_bytes_of_open rfl hopen
    have hnext : ((base.join ⟨Path.dotDot⟩).isEmpty || (base.join ⟨Path.dotDot⟩).endsInSlash) = false := by
      rw [Path.endsInSlash_join base (by decide) (by decide), Path.isEmpty, hbytes]
      simp
    rw [List.replicate_succ, List.cons_append, Path.descend_cons, ih hnext, hbytes, upward]
    simp

/-- The absolute form, as seen from the root, is one byte longer. -/
theorem upward_absolute_length (n : Nat) :
    (Path.absoluteFrom (World.pathOf []) (upward (n + 1))).bytes.length = 3 * (n + 1) + 1 := by
  have hbase : Path.baseFrom (World.pathOf []) (upward (n + 1)) = ⟨[Path.slash]⟩ := rfl
  have hfirst : (Path.mk [Path.slash]).join ⟨Path.dotDot⟩ = ⟨Path.slash :: Path.dotDot⟩ := rfl
  rw [Path.absoluteFrom_eq, hbase, Path.trail, upward_endsInSlash, if_pos rfl, upward_names,
    List.replicate_succ, List.cons_append, Path.descend_cons, hfirst, descend_upward (by decide)]
  rw [List.length_append, List.length_cons, List.length_cons, upward_length,
    show Path.dotDot.length = 2 from rfl]
  omega

/-- A world with nothing in it, at its root. -/
def emptyWorld : World where
  files := .empty
  environment := ⟨[]⟩
  here := .located []
  started := []

theorem emptyWorld_placed : emptyWorld.Placed := by
  intro location hhere
  obtain rfl : [] = location := by simpa [emptyWorld] using hhere
  exact ⟨rfl, fun name hmem => absurd hmem List.not_mem_nil⟩

/-- However often a path goes up from the root, it leads to the root. -/
theorem emptyWorld_walk (links n : Nat) :
    emptyWorld.files.walk links .root (List.replicate n .up ++ [.stay]) = .ok .root := by
  induction n with
  | zero => exact FileSystem.walk_stay rfl links
  | succ n ih => cases links <;> exact ih

theorem emptyWorld_has {n : Nat} (h : 3 * (n + 1) < pathLimit) :
    emptyWorld.has (upward (n + 1)) = true := by
  have hnoNul : ∀ n, 0 ∉ (upward n).bytes := by
    intro n
    induction n with
    | zero => exact List.not_mem_nil
    | succ n ih => simpa [upward, Path.dotDot, Path.slash] using ⟨by decide, by decide, ih⟩
  have hfine : FileSystem.pathError? (upward (n + 1)) = none :=
    FileSystem.pathError?_eq_none_iff.mpr
      ⟨hnoNul _, by simp [upward], by rwa [upward_length]⟩
  have hsteps : (upward (n + 1)).steps = List.replicate (n + 1) .up ++ [.stay] := by
    have hname : (!Path.dotDot.isEmpty) = true := by decide
    have hup : Step.ofSegment Path.dotDot = .up := by decide
    rw [Path.steps, Path.plainSteps, upward_segments, upward_endsInSlash, if_pos rfl,
      List.filter_append, List.filter_replicate, if_pos hname, List.map_append, List.map_replicate, hup]
    simp
  have hlocate : emptyWorld.files.locate emptyWorld.here (upward (n + 1)) = .ok .root := by
    rw [FileSystem.locate, hfine, hsteps]
    exact emptyWorld_walk linkLimit (n + 1)
  rw [World.has, World.find, FileSystem.find, hlocate]
  rfl

/-- **An absolute form that is too long** leads nowhere, also if its path leads to a directory. -/
theorem no_lead_of_long_form :
    ¬∀ (world : World) (location : Location) (resources : Path) (classpath : Classpath)
      (entries : List Path) (suppliers : List Supplier), world.Placed →
      world.here = .located location → classpath.entries world = .ok entries →
      resolve world resources classpath = .ok suppliers →
      List.Forall₂
        (fun path supplier =>
          ∀ there, world.files.locate there supplier.path = world.files.locate world.here path)
        ((resources :: entries).filter world.has) suppliers := by
  intro hall
  -- 1365 times, which is 4095 bytes
  obtain ⟨n, hshort, hlong⟩ : ∃ n, 3 * (n + 1) < pathLimit ∧ pathLimit ≤ 3 * (n + 1) + 1 :=
    ⟨1364, by decide, by decide⟩
  have hhas := emptyWorld_has hshort
  have hhere : emptyWorld.here = .located [] := rfl
  have hform := World.absolute_of_located hhere (show (upward (n + 1)).isEmpty = false from rfl) rfl
  have hresolve : resolve emptyWorld (upward (n + 1)) (.fixed [])
      = .ok [⟨.folder, emptyWorld.absolute (upward (n + 1))⟩] := by
    rw [resolve, Classpath.entries, ofResources, if_pos hhas]
    rfl
  have hleads := hall emptyWorld [] _ (.fixed []) [] _ emptyWorld_placed hhere rfl hresolve
  rw [List.filter_cons_of_pos hhas] at hleads
  obtain ⟨hlead, -⟩ := List.forall₂_cons.mp hleads
  have hlength := (records_absolute emptyWorld_placed hhere hhas .folder).leads_iff.mp hlead
  rw [hform, upward_absolute_length] at hlength
  exact absurd hlong (Nat.not_le.mpr hlength)

end Supplier

end SchemaBuild
