/-!
# Request numbers

Requests are numbered 1, 2, 3 and so on by a maker. Copies of a maker go on with its count, and each
new maker starts a count of its own.
-/

namespace ForwardProxy

/-- A count of the requests that were numbered. It has sixty-four bits, so what is said of it holds
of runs in which fewer than 2 ^ 64 requests are numbered. -/
structure RequestIds where
  /-- The last number that was given. -/
  issued : Nat := 0
  deriving DecidableEq

namespace RequestIds

/-- The next number. -/
def next (ids : RequestIds) : Nat × RequestIds := (ids.issued + 1, ⟨ids.issued + 1⟩)

/-- Several makers, some of which share a count. -/
structure Makers where
  /-- The counts. -/
  counts : Array RequestIds := #[{}]
  /-- Which count each maker uses. -/
  uses : Array Nat := #[0]

/-- Has a maker number a request, if there is such a maker. -/
def Makers.next? (makers : Makers) (maker : Nat) : Option (Nat × Makers) := do
  let use ← makers.uses[maker]?
  let count ← makers.counts[use]?
  let (number, count) := count.next
  return (number, { makers with counts := makers.counts.setIfInBounds use count })

/-- Adds a copy of a maker, if there is such a maker, and gives its place. -/
def Makers.copy? (makers : Makers) (maker : Nat) : Option (Nat × Makers) := do
  let use ← makers.uses[maker]?
  return (makers.uses.size, { makers with uses := makers.uses.push use })

/-- Adds a new maker, and gives its place. -/
def Makers.fresh (makers : Makers) : Nat × Makers :=
  (makers.uses.size,
    { counts := makers.counts.push {}, uses := makers.uses.push makers.counts.size })

end RequestIds

end ForwardProxy
