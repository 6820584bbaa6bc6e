import SchemaBuild.Bytes

/-!
# Streams that may break off

What a reader gets from a source in the end: the bytes that can be read, and whether reading on behind
them finds the end of the source or fails.
-/

namespace SchemaBuild

/-- The bytes of a source and how it ends. -/
structure Stream where
  bytes : Bytes
  /-- Does the source end behind the bytes? If not, reading on fails. -/
  intact : Bool
  deriving Repr, DecidableEq

namespace Stream

/-- The source that holds exactly these bytes. -/
def ofBytes (bytes : Bytes) : Stream := ⟨bytes, true⟩

/-- The source that cannot be read at all. -/
def broken : Stream := ⟨[], false⟩

/-- The source behind its first `n` bytes. -/
def drop (stream : Stream) (n : Nat) : Stream := ⟨stream.bytes.drop n, stream.intact⟩

/-- The first `n` bytes, or all of a source that ends earlier; `none` if reading fails before. -/
def read? (stream : Stream) (n : Nat) : Option Bytes :=
  let found := stream.bytes.take n
  if found.length = n || stream.intact then some found else none

/-- Pass over `n` bytes; `none` if there are fewer. -/
def skip? (stream : Stream) (n : Nat) : Option Stream :=
  if (stream.bytes.take n).length = n then some (stream.drop n) else none

/-- Take a block of `n` bytes. There is `some none` at the end of the source, and `none` if reading
fails or the block is cut short. -/
def block? (stream : Stream) (n : Nat) : Option (Option (Bytes × Stream)) :=
  let found := stream.bytes.take n
  if found.length = n then some (some (found, stream.drop n))
  else if found.isEmpty && stream.intact then some none
  else none

theorem read?_ofBytes (bytes : Bytes) (n : Nat) : (ofBytes bytes).read? n = some (bytes.take n) := by
  simp [read?, ofBytes]

end Stream

end SchemaBuild
