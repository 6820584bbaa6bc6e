import SchemaBuild.World

/-!
# Tasks of collaborators

A build works with collaborators that it knows nothing about: a compiler, a generator, a registry of
source roots. What one of them does is a **task**: a function of the state that gives a result or a
failure, and the state after it, in either case. The state is a **site**: the world and whatever the
collaborators keep for themselves.
-/

namespace SchemaBuild

/-- Something that is done in a state, may fail, and leaves a state behind either way. -/
abbrev Task (σ ε α : Type) := σ → Except ε α × σ

/-- The world of a build and what its collaborators keep. -/
structure Site (τ : Type) where
  world : World
  kept : τ

namespace Task

/-- Do a task on the world of a site. -/
def onWorld {τ ε α : Type} (task : Task World ε α) : Task (Site τ) ε α := fun site =>
  let (result, world) := task site.world
  (result, { site with world })

/-- Only look at the world of a site. -/
def ofWorld {τ ε α : Type} (look : World → Except ε α) : Task (Site τ) ε α := fun site =>
  (look site.world, site)

end Task

end SchemaBuild
