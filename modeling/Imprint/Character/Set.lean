/-!
# Sets of characters

A set of characters is given by ranges of code points.  Sets can be joined,
intersected, taken from one another and complemented.
-/

namespace Imprint

/-- A set of characters: those in some range of code points, or all others. -/
structure CharSet where
  ranges : List (Nat × Nat)
  negated : Bool := false
deriving DecidableEq

namespace CharSet

def hasPoint (s : CharSet) (n : Nat) : Bool :=
  (s.ranges.any fun range => range.1 ≤ n && n ≤ range.2) != s.negated

def has (s : CharSet) (c : Char) : Bool :=
  s.hasPoint c.toNat

def single (c : Char) : CharSet :=
  ⟨[(c.toNat, c.toNat)], false⟩

def allBut (cs : List Char) : CharSet :=
  ⟨cs.map fun c => (c.toNat, c.toNat), true⟩

def opposite (s : CharSet) : CharSet :=
  { s with negated := !s.negated }

def lastPoint : Nat :=
  0x10FFFF

/-- Adds ranges to a range where they overlap or touch it; they come in the order of their
starts. -/
def joinRanges (range : Nat × Nat) : List (Nat × Nat) → List (Nat × Nat)
  | [] => [range]
  | next :: rest =>
      if next.1 ≤ range.2 + 1 then joinRanges (range.1, max range.2 next.2) rest
      else range :: joinRanges next rest

def insertRange (range : Nat × Nat) : List (Nat × Nat) → List (Nat × Nat)
  | [] => [range]
  | next :: rest =>
      if range.1 ≤ next.1 then range :: next :: rest else next :: insertRange range rest

def inOrder (ranges : List (Nat × Nat)) : List (Nat × Nat) :=
  match ranges.foldr insertRange [] with
  | [] => []
  | range :: rest => joinRanges range rest

def gapsFrom (next : Nat) : List (Nat × Nat) → List (Nat × Nat)
  | [] => if next ≤ lastPoint then [(next, lastPoint)] else []
  | range :: rest =>
      (if next < range.1 then [(next, range.1 - 1)] else []) ++ gapsFrom (range.2 + 1) rest

def gaps (ranges : List (Nat × Nat)) : List (Nat × Nat) :=
  gapsFrom 0 (inOrder ranges)

def positive (s : CharSet) : List (Nat × Nat) :=
  if s.negated then gaps s.ranges else s.ranges

def ofRanges (ranges : List (Nat × Nat)) : CharSet :=
  ⟨inOrder ranges, false⟩

def all : CharSet :=
  ⟨[], true⟩

def union (a b : CharSet) : CharSet :=
  ofRanges (a.positive ++ b.positive)

def complement (s : CharSet) : CharSet :=
  if s.negated then ofRanges s.ranges else ⟨gaps s.ranges, false⟩

def intersection (a b : CharSet) : CharSet :=
  (a.complement.union b.complement).complement

def difference (a b : CharSet) : CharSet :=
  a.intersection b.complement

def symmetricDifference (a b : CharSet) : CharSet :=
  (a.union b).difference (a.intersection b)

def withBothCases (range : Nat × Nat) : List (Nat × Nat) :=
  let overlap (low high : Nat) (shift : Int) : List (Nat × Nat) :=
    let first := max low range.1
    let last := min high range.2
    if first ≤ last then [((first + shift).toNat, (last + shift).toNat)] else []
  range :: overlap 0x41 0x5A 32 ++ overlap 0x61 0x7A (-32)

def ignoringCase (s : CharSet) : CharSet :=
  { s with ranges := s.ranges.flatMap withBothCases }

end CharSet

end Imprint
