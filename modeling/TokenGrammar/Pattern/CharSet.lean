import TokenGrammar.Text.Category
import TokenGrammar.Text.Folding

/-!
# Sets of characters

A set of characters is a sorted table of inclusive ranges of code points. Ranges that touch are
joined, so a set that is built by unions has one table only. Surrogates are no characters: the code
point before U+E000 is U+D7FF, and a range may run over them.
-/

namespace TokenGrammar

abbrev PointRange := Nat × Nat

namespace PointRange

def maxPoint : Nat := 0x10ffff

def pointAfter (point : Nat) : Nat := if point = 0xd7ff then 0xe000 else point + 1

def pointBefore (point : Nat) : Nat := if point = 0xe000 then 0xd7ff else point - 1

/-- The range between two code points, in either order. -/
def between (point other : Nat) : PointRange :=
  if point ≤ other then (point, other) else (other, point)

/-! ### Lists of ranges

Each list is sorted by the first code points of its ranges.
-/

def joined : List PointRange → List PointRange
  | [] => []
  | [range] => [range]
  | (low, high) :: (nextLow, nextHigh) :: rest =>
      if nextLow ≤ high + 1 then joined ((low, max high nextHigh) :: rest)
      else (low, high) :: joined ((nextLow, nextHigh) :: rest)
termination_by ranges => ranges.length

def precedes (a b : PointRange) : Bool := a.1 ≤ b.1

def union (a b : List PointRange) : List PointRange := joined (List.merge a b precedes)

def intersection : List PointRange → List PointRange → List PointRange
  | [], _ => []
  | _, [] => []
  | (lowA, highA) :: a, (lowB, highB) :: b =>
      let low := max lowA lowB
      let high := min highA highB
      (if low ≤ high then [(low, high)] else []) ++
        if highA < highB then intersection a ((lowB, highB) :: b)
        else intersection ((lowA, highA) :: a) b
termination_by a b => a.length + b.length

def difference : List PointRange → List PointRange → List PointRange
  | [], _ => []
  | a, [] => a
  | (lowA, highA) :: a, (lowB, highB) :: b =>
      if highB < lowA then difference ((lowA, highA) :: a) b
      else if highA < lowB then (lowA, highA) :: difference a ((lowB, highB) :: b)
      else
        (if lowA < lowB then [(lowA, pointBefore lowB)] else []) ++
          if highB < highA then difference ((pointAfter highB, highA) :: a) b
          else difference a ((lowB, highB) :: b)
termination_by a b => a.length + b.length

/-- The ranges after a code point that are left out. Where only surrogates are left out, the range
is the one between the characters around them. -/
def gapsAfter (point : Nat) : List PointRange → List PointRange
  | [] => if point < maxPoint then [(pointAfter point, maxPoint)] else []
  | (low, high) :: rest => between (pointAfter point) (pointBefore low) :: gapsAfter high rest

def complement : List PointRange → List PointRange
  | [] => [(0, maxPoint)]
  | (low, high) :: rest =>
      (if 0 < low then [(0, pointBefore low)] else []) ++ gapsAfter high rest

end PointRange

structure CharSet where
  ranges : Array PointRange
deriving DecidableEq, Repr, Inhabited

namespace CharSet

def containsPoint (set : CharSet) (point : Nat) : Bool := Text.covers set.ranges point

def contains (set : CharSet) (c : Char) : Bool := set.containsPoint c.toNat

def ofSorted (ranges : List PointRange) : CharSet := ⟨ranges.toArray⟩

/-- The set of the characters in any of the ranges, which may come in any order. -/
def ofRanges (ranges : List PointRange) : CharSet :=
  ofSorted (PointRange.joined (ranges.mergeSort PointRange.precedes))

def ofCategories (categories : List Text.Category) : CharSet :=
  ofRanges (categories.flatMap fun category => category.ranges.toList)

def ofPoints (points : List Nat) : CharSet := ofRanges (points.map fun point => (point, point))

def range (first last : Char) : CharSet := ofSorted [(first.toNat, last.toNat)]

def single (c : Char) : CharSet := range c c

def empty : CharSet := ofSorted []

/-! ### Operations -/

def union (a b : CharSet) : CharSet :=
  ofSorted (PointRange.union a.ranges.toList b.ranges.toList)

def intersection (a b : CharSet) : CharSet :=
  ofSorted (PointRange.intersection a.ranges.toList b.ranges.toList)

def difference (a b : CharSet) : CharSet :=
  ofSorted (PointRange.difference a.ranges.toList b.ranges.toList)

def symmetricDifference (a b : CharSet) : CharSet := (a.union b).difference (a.intersection b)

def complement (a : CharSet) : CharSet := ofSorted (PointRange.complement a.ranges.toList)

/-- Adds every character that differs from a member only in case. -/
def folded (a : CharSet) : CharSet :=
  let orbits := Text.caseOrbits.filter fun orbit => orbit.any a.containsPoint
  a.union (ofPoints orbits.flatten)

def variants (c : Char) : CharSet := ofPoints (Text.caseVariants c.toNat)

def foldedIf (caseless : Bool) (a : CharSet) : CharSet := if caseless then a.folded else a

def complementIf (negate : Bool) (a : CharSet) : CharSet := if negate then a.complement else a

/-! ### Questions -/

def isEmpty (a : CharSet) : Bool := a.ranges.isEmpty

/-- The only member of a set that is given as one range of one character. -/
def only? (a : CharSet) : Option Char :=
  match a.ranges with
  | #[(first, last)] => if first = last then some (Char.ofNat first) else none
  | _ => none

def isAscii (a : CharSet) : Bool := a.ranges.all fun range => range.2 < 0x80

/-! ### Classes -/

def any : CharSet := empty.complement

def ascii : CharSet := range '\x00' '\x7f'

def decimal : CharSet := ofCategories [.decimalNumber]

def space : CharSet := ⟨Text.whiteSpaceRanges⟩

def word : CharSet := (ofCategories Text.wordCategories).union ⟨Text.joinedWordRanges⟩

end CharSet

end TokenGrammar
