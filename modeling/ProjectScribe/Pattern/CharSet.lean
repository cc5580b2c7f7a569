/-!
# Sets of characters

A set of characters is a list of ranges of code points. Sets that come out of the operations here
have their ranges in order, apart from each other, so that complement and intersection can go
through the ranges from the left.
-/
namespace ProjectScribe.Pattern

/-- Ranges of code points, each with its first and its last member. -/
abbrev CharSet := List (Nat × Nat)

/-- The last code point. -/
def lastCode : Nat := 0x10FFFF

namespace CharSet

/-- Membership of a code point. -/
def contains (set : CharSet) (code : Nat) : Bool :=
  set.any fun (first, last) => first ≤ code && code ≤ last

/-- A range put in front of ranges that begin no earlier, joined with those it touches. -/
def mergeFront (range : Nat × Nat) : CharSet → CharSet
  | [] => [range]
  | (first, last) :: rest =>
    if first ≤ range.2 + 1 then mergeFront (range.1, max range.2 last) rest
    else range :: (first, last) :: rest

/-- The same set with its ranges in order and apart. -/
def ordered (set : CharSet) : CharSet :=
  (set.mergeSort fun a b => a.1 ≤ b.1).foldr mergeFront []

/-- The members of either set. -/
def union (left right : CharSet) : CharSet := ordered (left ++ right)

/-- The code points from `start` on that no range holds, for ranges in order. -/
def complementFrom (start : Nat) : CharSet → CharSet
  | [] => if start ≤ lastCode then [(start, lastCode)] else []
  | (first, last) :: rest =>
    if start < first then (start, first - 1) :: complementFrom (last + 1) rest
    else complementFrom (max start (last + 1)) rest

/-- All other code points. -/
def complement (set : CharSet) : CharSet := complementFrom 0 (ordered set)

/-- The common members of two sets. -/
def intersection (left right : CharSet) : CharSet :=
  complement (union (complement left) (complement right))

/-- The members of the first set that the second lacks. -/
def difference (left right : CharSet) : CharSet := intersection left (complement right)

/-- The members of exactly one of two sets. -/
def symmetricDifference (left right : CharSet) : CharSet :=
  union (difference left right) (difference right left)

/-- Whether every member is among the first 128 code points. -/
def isAscii (set : CharSet) : Bool := set.all (·.2 < 128)

example : complement [(0, 8), (10, lastCode)] = [(9, 9)] := by cbv
example : ordered [(5, 7), (1, 2), (3, 4)] = [(1, 7)] := by cbv

end CharSet

end ProjectScribe.Pattern
