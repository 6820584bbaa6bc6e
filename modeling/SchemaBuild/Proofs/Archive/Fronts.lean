import SchemaBuild.Proofs.Archive.Members

/-!
# What is read from a front

A reader that has found what it looks for in the front of a source has not looked behind it. So a front
is given as a source of its own that breaks off (`intact` is false), and whatever can be read from it is
read from every source that goes on with something else.

* `Stream.followedBy` — a front with another source behind it;
* `Tar.nextMember?_followedBy` — the next member of a front is the next member of the whole.
-/

namespace SchemaBuild

namespace Stream

/-- The bytes of a front, and what is behind it. How the front would end does not matter. -/
def followedBy (front rest : Stream) : Stream := ⟨front.bytes ++ rest.bytes, rest.intact⟩

variable {front more rest : Stream} {n : Nat} {found : Bytes}

theorem le_of_length_take (h : (front.bytes.take n).length = n) : n ≤ front.bytes.length := by
  rw [List.length_take] at h
  omega

/-- As many bytes as the front has are the same in the whole. -/
theorem take_followedBy (h : (front.bytes.take n).length = n) :
    (front.followedBy rest).bytes.take n = front.bytes.take n :=
  List.take_append_of_le_length (le_of_length_take h)

theorem drop_followedBy (h : (front.bytes.take n).length = n) :
    (front.followedBy rest).drop n = (front.drop n).followedBy rest := by
  simp only [drop, followedBy, List.drop_append_of_le_length (le_of_length_take h)]

theorem block?_followedBy (h : front.block? n = some (some (found, more))) :
    (front.followedBy rest).block? n = some (some (found, more.followedBy rest)) := by
  unfold block? at h ⊢
  dsimp only at h ⊢
  split at h
  · next hlength =>
    -- a whole block is there
    cases h
    rw [take_followedBy hlength, if_pos hlength, drop_followedBy hlength]
  · -- what is there is no whole block
    split at h <;> cases h

theorem skip?_followedBy (h : front.skip? n = some more) :
    (front.followedBy rest).skip? n = some (more.followedBy rest) := by
  unfold skip? at h ⊢
  split at h
  · next hlength =>
    -- there is enough to skip
    cases h
    rw [take_followedBy hlength, if_pos hlength, drop_followedBy hlength]
  · -- the stream ends before
    cases h

/-- What is read from a front that breaks off is all that was asked for. -/
theorem length_of_read? (hbroken : front.intact = false) (h : front.read? n = some found) :
    (front.bytes.take n).length = n ∧ found = front.bytes.take n := by
  unfold read? at h
  dsimp only at h
  rw [hbroken, Bool.or_false] at h
  split at h
  · next hlength =>
    -- the stream is broken off, so all that was asked for is there
    exact ⟨of_decide_eq_true hlength, (Option.some.inj h).symm⟩
  · cases h

theorem read?_followedBy (hbroken : front.intact = false) (h : front.read? n = some found) :
    (front.followedBy rest).read? n = some found := by
  obtain ⟨hlength, rfl⟩ := length_of_read? hbroken h
  unfold read?
  rw [take_followedBy hlength]
  simp [hlength]

end Stream

namespace Tar

/-! ### Headers -/

/-- The entry with something behind its content. -/
def Entry.followedBy (entry : Entry) (rest : Stream) : Entry :=
  { entry with content := entry.content.followedBy rest }

/-- The member with something behind its content. -/
def Member.followedBy (member : Member) (rest : Stream) : Member :=
  { member with entry := member.entry.followedBy rest }

variable {front rest : Stream}

theorem headed?_followedBy {attributes : Option Bytes} {entry : Entry}
    (h : headed? front attributes = some (some entry)) :
    headed? (front.followedBy rest) attributes = some (some (entry.followedBy rest)) := by
  unfold headed? at h ⊢
  split at h
  · -- no header can be read
    cases h
  · -- the stream ends here
    cases h
  · next block content hblock =>
    -- everything else is asked of the same block
    rw [Stream.block?_followedBy hblock]
    dsimp only at h ⊢
    split at h
    · -- a block of zeros ends the archive
      cases h
    · next hfilled =>
      rw [if_neg hfilled]
      split at h
      · next hsound =>
        rw [if_pos hsound]
        split at h
        · -- the size is no number
          cases h
        · next size hsize =>
          split at h
          · next hlimit =>
            cases h
            rw [if_pos hlimit]
            rfl
          · -- the size is beyond what can be skipped
            cases h
      · -- the checksum does not fit
        cases h

/-- The map of the holes in a file is read from the front; there may be fuel for more. -/
theorem extend?_followedBy {size fuel fuel' : Nat} {map map' : HoleMap} {more : Stream}
    (hfuel : fuel ≤ fuel') (h : HoleMap.extend? size fuel map front = some (map', more)) :
    HoleMap.extend? size fuel' map (front.followedBy rest) = some (map', more.followedBy rest) := by
  -- each round takes a block off the front, and takes the same one off the whole
  induction fuel generalizing fuel' map front with
  | zero => cases h
  | succ fuel ih =>
    obtain ⟨fuel', rfl⟩ := Nat.exists_eq_add_one_of_ne_zero (Nat.ne_zero_of_lt hfuel)
    rw [HoleMap.extend?] at h ⊢
    split at h
    · next block behind hblock =>
      rw [Stream.block?_followedBy hblock]
      dsimp only
      split at h
      · -- the block has no sound part of the map
        cases h
      · next read hread =>
        -- the map goes on, and so does the whole
        split at h
        · next hgoes =>
          rw [if_pos hgoes]
          exact ih (Nat.le_of_succ_le_succ hfuel) h
        · next hends =>
          -- the map is complete
          cases h
          rw [if_neg hends]
    · -- the stream ends within the map
      cases h

theorem withHoles?_followedBy {entry entry' : Entry} (h : entry.withHoles? = some entry') :
    (entry.followedBy rest).withHoles? = some (entry'.followedBy rest) := by
  unfold Entry.withHoles? at h ⊢
  split at h
  · next hlayout =>
    refine (if_pos hlayout).trans ?_
    obtain ⟨first, hfirst, h⟩ := Option.bind_eq_some_iff.mp h
    refine Option.bind_eq_some_iff.mpr ⟨first, hfirst, ?_⟩
    dsimp only at h ⊢
    -- the map goes on in further blocks, or all of it is in the header
    split at h
    · next hgoes =>
      obtain ⟨⟨map, content⟩, hextend, h⟩ := Option.bind_eq_some_iff.mp h
      obtain ⟨size, hsize, h⟩ := Option.bind_eq_some_iff.mp h
      refine (if_pos hgoes).trans (Option.bind_eq_some_iff.mpr ⟨_, extend?_followedBy ?_ hextend, ?_⟩)
      · -- the whole has at least as many blocks
        simp [Entry.followedBy, Stream.followedBy]
      · refine Option.bind_eq_some_iff.mpr ⟨size, hsize, ?_⟩
        split at h
        · next hsound =>
          -- the map fits the content
          cases h
          exact if_pos hsound
        · -- the map does not fit the content
          cases h
    · next hends =>
      obtain ⟨⟨map, content⟩, hwhole, h⟩ := Option.bind_eq_some_iff.mp h
      cases hwhole
      obtain ⟨size, hsize, h⟩ := Option.bind_eq_some_iff.mp h
      refine (if_neg hends).trans (Option.bind_eq_some_iff.mpr ⟨_, rfl, ?_⟩)
      refine Option.bind_eq_some_iff.mpr ⟨size, hsize, ?_⟩
      split at h
      · next hsound =>
        -- the map fits the content
        cases h
        exact if_pos hsound
      · -- the map does not fit the content
        cases h
  · -- the header has no map
    cases h

/-! ### Members -/

theorem after?_followedBy {entry : Entry} {more : Stream} (h : entry.after? = some more) :
    (entry.followedBy rest).after? = some (more.followedBy rest) :=
  Stream.skip?_followedBy h

theorem Heads.followedBy {description : Description} {member : Member}
    (h : Heads description front member) :
    Heads description (front.followedBy rest) (member.followedBy rest) := by
  cases h with
  | unmarked headed unmarked =>
    -- nothing is described, so the member stands for itself
    exact .unmarked (headed?_followedBy headed) unmarked
  | plain headed marked other =>
    -- the description is that of the member
    exact .plain (headed?_followedBy headed) marked other
  | sparse headed marked kind holes =>
    -- the description is that of a member with holes
    exact .sparse (headed?_followedBy headed) marked kind (withHoles?_followedBy holes)

/-- All of a description is in the front, since nothing can be read behind the front. -/
theorem Describes.followedBy {description described : Description} {more : Stream}
    (hbroken : front.intact = false) (h : Describes description front described more) :
    Describes description (front.followedBy rest) described (more.followedBy rest) := by
  obtain ⟨headed, marked, takes, read, after⟩ := h
  obtain ⟨-, -, hintact, -⟩ := headed?_eq_some headed
  exact ⟨headed?_followedBy headed, marked, takes,
    Stream.read?_followedBy (hintact.trans hbroken) read, after?_followedBy after⟩

/-- A member is read from the front; there may be fuel for more. -/
theorem nextMemberFrom?_followedBy {fuel fuel' : Nat} {first : Bool} {description : Description}
    {member : Member} (hbroken : front.intact = false) (hfuel : fuel ≤ fuel')
    (h : nextMemberFrom? fuel first description front = some (some member)) :
    nextMemberFrom? fuel' first description (front.followedBy rest)
      = some (some (member.followedBy rest)) := by
  induction fuel generalizing fuel' first description front with
  | zero => cases h
  | succ fuel ih =>
    obtain ⟨fuel', rfl⟩ := Nat.exists_eq_add_one_of_ne_zero (Nat.ne_zero_of_lt hfuel)
    obtain hheads | ⟨described, more, hdescribes, h⟩ := nextMemberFrom?_succ_iff.mp h
    · -- the header is that of a member
      exact nextMemberFrom?_of_heads hheads.followedBy
    · -- the header describes the next member, and so it does in the whole
      have hmore : more.intact = false := hdescribes.isRest.intact.trans hbroken
      rw [nextMemberFrom?_of_describes (hdescribes.followedBy hbroken)]
      exact ih hmore (Nat.le_of_succ_le_succ hfuel) h

/-- **The next member** of a front that breaks off is the next one of the whole. -/
theorem nextMember?_followedBy {member : Member} (hbroken : front.intact = false)
    (h : nextMember? front = some (some member)) :
    nextMember? (front.followedBy rest) = some (some (member.followedBy rest)) := by
  refine nextMemberFrom?_followedBy hbroken ?_ h
  simp [Stream.followedBy]

end Tar

end SchemaBuild
