import SchemaBuild.Archive.Tar

/-!
# The members of a bundle

Reading a bundle goes from header to header, and what it finds is where the bundle has it: every
header is a block of the source, and its content is what stands behind it.

* `Tar.Member.ReadFrom` — a member with its place in the source and with the size that was declared
  for it; `nextMember?_readFrom` says that every member read has them;
* `Tar.Heads` and `Tar.Describes` — a member stands at the front of a source, or a description does;
  by `nextMemberFrom?_succ_iff` a member is read in one of these two ways;
* `Tar.FirstNamed` — the first file of a name, reached past sound members that are not of that name;
* `Tar.find_eq` — looking for a file, without the fuel that its definition runs on;
* `Tar.find_eq_content_iff` — what is found is the content of the first file of the name.
-/

namespace SchemaBuild

namespace Stream

/-- `rest` is left of the source when bytes are taken off its front. -/
structure IsRest (rest source : Stream) : Prop where
  bytes : rest.bytes <:+ source.bytes
  intact : rest.intact = source.intact

namespace IsRest

variable {a b c : Stream}

theorem refl (source : Stream) : source.IsRest source := ⟨List.suffix_rfl, rfl⟩

theorem trans (hab : a.IsRest b) (hbc : b.IsRest c) : a.IsRest c where
  bytes := hab.bytes.trans hbc.bytes
  intact := by rw [hab.intact, hbc.intact]

theorem length_le (h : a.IsRest b) : a.bytes.length ≤ b.bytes.length := h.bytes.length_le

end IsRest

theorem drop_isRest (source : Stream) (n : Nat) : (source.drop n).IsRest source :=
  ⟨List.drop_suffix n source.bytes, rfl⟩

theorem skip?_isRest {source rest : Stream} {n : Nat} (h : source.skip? n = some rest) :
    rest.IsRest source := by
  unfold skip? at h
  split at h
  · cases h
    exact source.drop_isRest n
  · cases h

/-- A block is the front of the source. -/
theorem block?_eq_some {source rest : Stream} {n : Nat} {block : Bytes}
    (h : source.block? n = some (some (block, rest))) :
    block.length = n ∧ source.bytes = block ++ rest.bytes ∧ rest.intact = source.intact := by
  unfold block? at h
  dsimp only at h
  split at h
  · next hlength =>
    -- a whole block is there
    cases h
    exact ⟨hlength, (List.take_append_drop n source.bytes).symm, rfl⟩
  · -- what is there is no whole block
    split at h <;> cases h

/-- All of `n` bytes are read, or as many as there are before the end of the source. -/
theorem read?_of_intact {source : Stream} (h : source.intact = true) (n : Nat) :
    source.read? n = some (source.bytes.take n) := by
  simp [read?, h]

end Stream

namespace Tar

deriving instance DecidableEq for Description, Member

variable {source rest : Stream}

/-! ### Headers in their places -/

/-- The size that is declared for a member: the one among its attributes, or the one in its header.
-/
def Member.declaredSize? (member : Member) : Option Nat :=
  member.entry.header.size?.map
    ((member.description.attributes.bind sizeAttribute?).getD ·)

/-- What reading a header finds: the header is the next block, and the content stands behind it. -/
theorem headed?_eq_some {attributes : Option Bytes} {entry : Entry}
    (h : headed? source attributes = some (some entry)) :
    entry.header.block.length = blockSize ∧
      source.bytes = entry.header.block ++ entry.content.bytes ∧
      entry.content.intact = source.intact ∧
      some entry.size = entry.header.size?.map ((attributes.bind sizeAttribute?).getD ·) := by
  unfold headed? at h
  split at h
  · -- no header can be read
    cases h
  · -- the stream ends here
    cases h
  · next block content hblock =>
    obtain ⟨hlength, hbytes, hintact⟩ := Stream.block?_eq_some hblock
    dsimp only at h
    split at h
    · -- a block of zeros ends the archive
      cases h
    · split at h
      · split at h
        · -- the header has no size
          cases h
        · next size hsize =>
          split at h
          · cases h
            refine ⟨hlength, hbytes, hintact, ?_⟩
            rw [hsize]
            rfl
          · -- the size is beyond what can be skipped
            cases h
      · -- the checksum does not fit
        cases h

/-- The map of the holes in a file is taken off the front of the content. -/
theorem extend?_isRest {size fuel : Nat} {map map' : HoleMap}
    (h : HoleMap.extend? size fuel map source = some (map', rest)) : rest.IsRest source := by
  -- each round takes a block off the front
  induction fuel generalizing map source with
  | zero => cases h
  | succ fuel ih =>
    rw [HoleMap.extend?] at h
    split at h
    · next block behind hblock =>
      obtain ⟨-, hbytes, hintact⟩ := Stream.block?_eq_some hblock
      have hbehind : behind.IsRest source := ⟨⟨block, hbytes.symm⟩, hintact⟩
      split at h
      · -- the block has no sound part of the map
        cases h
      · split at h
        · -- the map goes on in a further block
          exact (ih h).trans hbehind
        · -- the map is complete, and its block was the last one taken
          cases h
          exact hbehind
    · cases h

theorem withHoles?_eq_some {entry entry' : Entry} (h : entry.withHoles? = some entry') :
    entry'.header = entry.header ∧ entry'.size = entry.size ∧
      entry'.content.IsRest entry.content := by
  unfold Entry.withHoles? at h
  split at h
  · obtain ⟨first, -, h⟩ := Option.bind_eq_some_iff.mp h
    dsimp only at h
    -- only a map that goes on behind the header takes something off the content
    split at h
    · -- further blocks are taken for the map
      obtain ⟨⟨map, content⟩, hextend, h⟩ := Option.bind_eq_some_iff.mp h
      obtain ⟨size, -, h⟩ := Option.bind_eq_some_iff.mp h
      split at h
      · cases h
        exact ⟨rfl, rfl, extend?_isRest hextend⟩
      · cases h
    · -- the map is in the header
      obtain ⟨⟨map, content⟩, hsame, h⟩ := Option.bind_eq_some_iff.mp h
      obtain ⟨size, -, h⟩ := Option.bind_eq_some_iff.mp h
      split at h
      · cases h
        cases hsame
        exact ⟨rfl, rfl, .refl _⟩
      · cases h
  · -- the header has no map
    cases h

/-! ### Members in their places -/

/-- **A member and where it was read**: its header is a block of the source, its content stands
behind the header (behind the map, for a file with holes), and its size is the declared one. -/
structure Member.ReadFrom (member : Member) (source : Stream) : Prop where
  placed : ∃ front content, source.bytes = front ++ member.entry.header.block ++ content ∧
    member.entry.content.bytes <:+ content ∧
    (member.isFile = true → content = member.entry.content.bytes)
  block : member.entry.header.block.length = blockSize
  intact : member.entry.content.intact = source.intact
  size : member.declaredSize? = some member.entry.size

namespace Member.ReadFrom

variable {member : Member}

/-- What is read from the rest of a source is read from the source. -/
theorem of_isRest (h : member.ReadFrom rest) (hrest : rest.IsRest source) :
    member.ReadFrom source where
  placed := by
    obtain ⟨front, content, hbytes, hcontent⟩ := h.placed
    -- what was taken off comes before everything else
    obtain ⟨before, hbefore⟩ := hrest.bytes
    refine ⟨before ++ front, content, ?_, hcontent⟩
    rw [← hbefore, hbytes]
    simp only [List.append_assoc]
  block := h.block
  intact := by rw [h.intact, hrest.intact]
  size := h.size

theorem content_isRest (h : member.ReadFrom source) : member.entry.content.IsRest source where
  bytes := by
    obtain ⟨front, content, hbytes, hcontent, -⟩ := h.placed
    rw [hbytes]
    exact hcontent.trans (List.suffix_append _ _)
  intact := h.intact

/-- A member takes a block of the source at least. -/
theorem length_lt (h : member.ReadFrom source) :
    member.entry.content.bytes.length < source.bytes.length := by
  obtain ⟨front, content, hbytes, hcontent, -⟩ := h.placed
  have hle := hcontent.length_le
  have hblock : 0 < member.entry.header.block.length := by
    rw [h.block]
    decide
  rw [hbytes, List.length_append, List.length_append]
  omega

end Member.ReadFrom

/-- A member that is no file with holes is read where its header is. -/
theorem readFrom_of_headed? {description : Description} {entry : Entry}
    (h : headed? source description.attributes = some (some entry)) :
    Member.ReadFrom ⟨entry, description⟩ source := by
  obtain ⟨hlength, hbytes, hintact, hsize⟩ := headed?_eq_some h
  exact ⟨⟨[], _, hbytes, List.suffix_rfl, fun _ => rfl⟩, hlength, hintact, hsize.symm⟩

/-- A file with holes is read where its header is, too, but it is no ordinary file. -/
theorem readFrom_of_withHoles? {description : Description} {entry entry' : Entry}
    (h : headed? source description.attributes = some (some entry))
    (hkind : entry.header.kind = sparseKind) (hholes : entry.withHoles? = some entry') :
    Member.ReadFrom ⟨entry', description⟩ source := by
  obtain ⟨hlength, hbytes, hintact, hsize⟩ := headed?_eq_some h
  obtain ⟨hheader, hsame, hrest⟩ := withHoles?_eq_some hholes
  exact {
    placed := by
      refine ⟨[], entry.content.bytes, ?_, hrest.bytes, ?_⟩
      · show source.bytes = [] ++ entry'.header.block ++ entry.content.bytes
        rw [hheader]
        exact hbytes
      · -- the kind is the one of files with holes, and ordinary files have others
        intro hfile
        simp only [Member.isFile, hheader, hkind] at hfile
        cases hfile
    block := by
      show entry'.header.block.length = blockSize
      rw [hheader, hlength]
    intact := by
      show entry'.content.intact = source.intact
      rw [hrest.intact, hintact]
    size := by
      show entry'.header.size?.map _ = some entry'.size
      rw [hheader, hsame, hsize] }

/-! ### What stands at the front of a source -/

/-- What a description says is taken up, unless something of the same kind has been said before. -/
inductive Description.Takes : Description → UInt8 → Bytes → Description → Prop
  | longName {description : Description} {content : Bytes} (new : description.longName = none) :
      Takes description longNameKind content { description with longName := some content }
  | longLink {description : Description} {content : Bytes} (new : description.longLink = none) :
      Takes description longLinkKind content { description with longLink := some content }
  | attributes {description : Description} {content : Bytes} (new : description.attributes = none) :
      Takes description attributesKind content { description with attributes := some content }

/-- **A description stands at the front** of a source: with it `described` is known of the entry that
is read from the rest. -/
inductive Describes (description : Description) (source : Stream) : Description → Stream → Prop
  | intro {entry : Entry} {content : Bytes} {described : Description} {rest : Stream}
      (headed : headed? source description.attributes = some (some entry))
      (marked : entry.header.layout ≠ .old)
      (takes : description.Takes entry.header.kind content described)
      (read : entry.content.read? entry.size = some content) (after : entry.after? = some rest) :
      Describes description source described rest

/-- **A member stands at the front** of a source: its header is no description. -/
inductive Heads (description : Description) (source : Stream) : Member → Prop
  /-- Without a mark there are no descriptions, whatever the kind. -/
  | unmarked {entry : Entry} (headed : headed? source description.attributes = some (some entry))
      (unmarked : entry.header.layout = .old) : Heads description source ⟨entry, description⟩
  | plain {entry : Entry} (headed : headed? source description.attributes = some (some entry))
      (marked : entry.header.layout ≠ .old)
      (other : entry.header.kind ∉ [longNameKind, longLinkKind, attributesKind, sparseKind]) :
      Heads description source ⟨entry, description⟩
  /-- The map of a file with holes belongs to its header, and the content begins behind it. -/
  | sparse {entry entry' : Entry}
      (headed : headed? source description.attributes = some (some entry))
      (marked : entry.header.layout ≠ .old) (kind : entry.header.kind = sparseKind)
      (holes : entry.withHoles? = some entry') : Heads description source ⟨entry', description⟩

section Front

variable {fuel : Nat} {first : Bool} {description described : Description} {member : Member}

/-- A description is passed over, and reading goes on behind it. -/
theorem nextMemberFrom?_of_describes (h : Describes description source described rest) :
    nextMemberFrom? (fuel + 1) first description source
      = nextMemberFrom? fuel false described rest := by
  obtain @⟨entry, content, _, _, headed, marked, takes, read, after⟩ := h
  rw [nextMemberFrom?, headed]
  dsimp only
  rw [if_neg marked, read, after]
  generalize entry.header.kind = kind at takes
  cases takes with
  | longName new =>
    -- the content is the name of the next member
    rw [if_pos rfl, new]
  | longLink new =>
    -- the content is the link of the next member
    rw [if_neg (by decide), if_pos rfl, new]
  | attributes new =>
    -- the content is what else is known of the next member
    rw [if_neg (by decide), if_neg (by decide), if_pos rfl, new]

theorem nextMemberFrom?_of_heads (h : Heads description source member) :
    nextMemberFrom? (fuel + 1) first description source = some (some member) := by
  cases h with
  | unmarked headed unmarked =>
    -- a header without the mark is that of a member
    rw [nextMemberFrom?, headed]
    dsimp only
    rw [if_pos unmarked]
  | plain headed marked other =>
    -- a header of any other kind is that of a member
    simp only [List.mem_cons, List.not_mem_nil, or_false, not_or] at other
    obtain ⟨hname, hlink, hattributes, hsparse⟩ := other
    rw [nextMemberFrom?, headed]
    dsimp only
    rw [if_neg marked, if_neg hname, if_neg hlink, if_neg hattributes, if_neg hsparse]
  | sparse headed marked kind holes =>
    -- a header with a map is that of a member with holes
    rw [nextMemberFrom?, headed]
    dsimp only
    rw [if_neg marked, kind, if_neg (by decide), if_neg (by decide), if_neg (by decide), if_pos rfl,
      holes]
    rfl

/-- **Reading the next member**: it stands at the front, or a description does and the member is read
behind it. -/
theorem nextMemberFrom?_succ_iff :
    nextMemberFrom? (fuel + 1) first description source = some (some member) ↔
      Heads description source member ∨ ∃ described rest,
        Describes description source described rest ∧
          nextMemberFrom? fuel false described rest = some (some member) := by
  constructor
  · intro h
    rw [nextMemberFrom?] at h
    split at h
    · -- no header can be read
      cases h
    · -- the stream ends here
      split at h <;> cases h
    · next entry headed =>
      dsimp only at h
      split at h
      · next unmarked =>
        cases h
        exact .inl (.unmarked headed unmarked)
      next marked =>
      -- a long name, a long link, attributes: each is taken up in the same way
      have hdescribes : ∀ {content described rest},
          description.Takes entry.header.kind content described →
          entry.content.read? entry.size = some content → entry.after? = some rest →
          nextMemberFrom? fuel false described rest = some (some member) →
          ∃ described rest, Describes description source described rest ∧
            nextMemberFrom? fuel false described rest = some (some member) :=
        fun takes read after h => ⟨_, _, ⟨headed, marked, takes, read, after⟩, h⟩
      split at h
      · next kind =>
        split at h
        · next new read after => exact .inr (hdescribes (kind ▸ .longName new) read after h)
        · cases h
      next hname =>
      split at h
      · next kind =>
        split at h
        · next new read after => exact .inr (hdescribes (kind ▸ .longLink new) read after h)
        · cases h
      next hlink =>
      split at h
      · next kind =>
        split at h
        · next new read after => exact .inr (hdescribes (kind ▸ .attributes new) read after h)
        · cases h
      next hattributes =>
      split at h
      · next kind =>
        obtain ⟨entry', holes, hmember⟩ := Option.map_eq_some_iff.mp h
        cases hmember
        exact .inl (.sparse headed marked kind holes)
      · next hsparse =>
        cases h
        refine .inl (.plain headed marked ?_)
        simp [hname, hlink, hattributes, hsparse]
  · rintro (hheads | ⟨described, rest, hdescribes, h⟩)
    · -- the header is that of the member
      exact nextMemberFrom?_of_heads hheads
    · -- the header describes what comes next, and the member comes later
      rw [nextMemberFrom?_of_describes hdescribes, h]

end Front

theorem Heads.readFrom {description : Description} {member : Member}
    (h : Heads description source member) : member.ReadFrom source := by
  cases h with
  | unmarked headed _ => exact readFrom_of_headed? headed
  | plain headed _ _ => exact readFrom_of_headed? headed
  | sparse headed _ kind holes => exact readFrom_of_withHoles? headed kind holes

theorem Describes.isRest {description described : Description}
    (h : Describes description source described rest) : rest.IsRest source := by
  obtain ⟨headed, -, -, -, after⟩ := h
  obtain ⟨-, hbytes, hintact, -⟩ := headed?_eq_some headed
  exact (Stream.skip?_isRest after).trans ⟨⟨_, hbytes.symm⟩, hintact⟩

/-- A description takes a block of the source at least. -/
theorem Describes.length_lt {description described : Description}
    (h : Describes description source described rest) :
    rest.bytes.length < source.bytes.length := by
  obtain ⟨headed, -, -, -, after⟩ := h
  exact Nat.lt_of_le_of_lt (Stream.skip?_isRest after).length_le
    (readFrom_of_headed? headed).length_lt

theorem nextMemberFrom?_readFrom {fuel : Nat} {first : Bool} {description : Description}
    {member : Member}
    (h : nextMemberFrom? fuel first description source = some (some member)) :
    member.ReadFrom source := by
  induction fuel generalizing first description source with
  | zero => cases h
  | succ fuel ih =>
    obtain hheads | ⟨described, rest, hdescribes, h⟩ := nextMemberFrom?_succ_iff.mp h
    · -- the member begins with this header
      exact hheads.readFrom
    · -- the member begins behind what this header describes
      exact (ih h).of_isRest hdescribes.isRest

/-- **Every member** is read from its place. -/
theorem nextMember?_readFrom {member : Member} (h : nextMember? source = some (some member)) :
    member.ReadFrom source :=
  nextMemberFrom?_readFrom h

/-! ### Looking for a file -/

theorem after?_isRest {member : Member} (h : nextMember? source = some (some member))
    (hafter : member.entry.after? = some rest) : rest.IsRest source :=
  (Stream.skip?_isRest hafter).trans (nextMember?_readFrom h).content_isRest

theorem after?_length_lt {member : Member} (h : nextMember? source = some (some member))
    (hafter : member.entry.after? = some rest) : rest.bytes.length < source.bytes.length :=
  Nat.lt_of_le_of_lt (Stream.skip?_isRest hafter).length_le (nextMember?_readFrom h).length_lt

/-- More fuel than bytes is enough: how much more makes no difference. -/
theorem findFrom_of_enough {name : Path} {fuel fuel' : Nat} (h : source.bytes.length < fuel)
    (h' : source.bytes.length < fuel') :
    findFrom name fuel source = findFrom name fuel' source := by
  induction fuel generalizing fuel' source with
  | zero => exact absurd h (Nat.not_lt_zero _)
  | succ fuel ih =>
    cases fuel' with
    | zero => exact absurd h' (Nat.not_lt_zero _)
    | succ fuel' =>
      rw [findFrom, findFrom]
      cases hnext : nextMember? source with
      | none =>
        -- no member can be read, with any fuel
        rfl
      | some found =>
        cases found with
        | none => rfl
        | some member =>
          dsimp only
          cases hafter : member.entry.after? with
          | none =>
            -- the content of the member is not all there
            rfl
          | some rest =>
            -- the member has taken its header, so there is enough fuel for the rest
            have hlt := after?_length_lt hnext hafter
            have hsame : findFrom name fuel rest = findFrom name fuel' rest :=
              ih (by omega) (by omega)
            dsimp only
            rw [hsame]

/-- **Looking for a file**: the next member decides if it is the file, and else the rest does. -/
theorem find_eq (source : Stream) (name : Path) : find source name =
    match nextMember? source with
    | none => .damaged
    | some none => .absent
    | some (some member) =>
      if member.isFile && member.isNamed name then
        match member.content? with
        | some content => .content content
        | none => .damaged
      else
        match member.entry.after? with
        | some rest => find rest name
        | none => .damaged := by
  rw [find, findFrom]
  cases hnext : nextMember? source with
  | none =>
    -- no member can be read
    rfl
  | some found =>
    cases found with
    | none => rfl
    | some member =>
      dsimp only
      cases hafter : member.entry.after? with
      | none => rfl
      | some rest =>
        have hlt := after?_length_lt hnext hafter
        dsimp only
        cases member.isFile && member.isNamed name with
        | true =>
          -- the member is the one that is looked for
          rfl
        | false =>
          -- the rest is shorter, so any fuel beyond its length is enough
          exact findFrom_of_enough hlt (Nat.lt_add_one rest.bytes.length)

/-- The first file of a name: the members before it can be read, and are not files of that name. -/
inductive FirstNamed (name : Path) : Stream → Member → Prop
  | here {source : Stream} {member : Member} (next : nextMember? source = some (some member))
      (named : (member.isFile && member.isNamed name) = true) : FirstNamed name source member
  | later {source rest : Stream} {other member : Member}
      (next : nextMember? source = some (some other))
      (passed : (other.isFile && other.isNamed name) = false)
      (after : other.entry.after? = some rest) (first : FirstNamed name rest member) :
      FirstNamed name source member

namespace FirstNamed

variable {name : Path} {member : Member}

/-- The first file of a name is what looking for it comes to. -/
theorem find_eq (h : FirstNamed name source member) : find source name =
    match member.content? with
    | some content => .content content
    | none => .damaged := by
  induction h with
  | here next named =>
    -- the first member has that name
    rw [Tar.find_eq, next]
    dsimp only
    rw [if_pos named]
  | later next passed after _ ih =>
    -- the first member is passed, and what is read comes from the rest
    rw [Tar.find_eq, next]
    dsimp only
    rw [passed, after]
    exact ih

theorem readFrom (h : FirstNamed name source member) : member.ReadFrom source := by
  induction h with
  | here next _ => exact nextMember?_readFrom next
  | later next _ after _ ih => exact ih.of_isRest (after?_isRest next after)

theorem isFile (h : FirstNamed name source member) : member.isFile = true := by
  induction h with
  | here _ named => exact (Bool.and_eq_true_iff.mp named).1
  | later _ _ _ _ ih => exact ih

end FirstNamed

/-- **What is found** is the content of the first file of the name. -/
theorem find_eq_content_iff {name : Path} {content : Bytes} : find source name = .content content ↔
    ∃ member, FirstNamed name source member ∧ member.content? = some content := by
  constructor
  · intro h
    unfold find at h
    -- on the fuel, which may be any here: a walk that has found something has not run out of it
    generalize source.bytes.length + 1 = fuel at h
    induction fuel generalizing source with
    | zero => cases h
    | succ fuel ih =>
      rw [findFrom] at h
      split at h
      · -- damage finds nothing
        cases h
      · -- the end of the archive finds nothing
        cases h
      · next member hnext =>
        split at h
        · next hnamed =>
          split at h
          · next found hcontent =>
            cases h
            exact ⟨member, .here hnext hnamed, hcontent⟩
          · cases h
        · next hpassed =>
          split at h
          · next rest hafter =>
            obtain ⟨member', hfirst, hcontent⟩ := ih h
            exact ⟨member', .later hnext (Bool.not_eq_true _ ▸ hpassed) hafter hfirst, hcontent⟩
          · cases h
  · -- what is found first is found
    rintro ⟨member, hfirst, hcontent⟩
    rw [hfirst.find_eq, hcontent]

end Tar

end SchemaBuild
