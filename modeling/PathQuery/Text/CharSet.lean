import PathQuery.Text.Digits
/-!
Sets of characters as lists of ranges of code points, in rising order and apart from each other.
The set operations keep that form, so two sets with the same members have the same ranges.
-/
namespace PathQuery

structure CharSet where
  ranges : List (Nat × Nat)
  deriving DecidableEq, Repr

namespace CharSet

def maxCode : Nat := 0x10ffff

def empty : CharSet := ⟨[]⟩

def all : CharSet := ⟨[(0, maxCode)]⟩

def isEmpty (s : CharSet) : Bool := s.ranges.isEmpty

/-- Membership in a rising list of ranges: a range that starts above `n` ends the search. -/
def inRanges (n : Nat) : List (Nat × Nat) → Bool
  | [] => false
  | (lo, hi) :: rest => if n < lo then false else n ≤ hi || inRanges n rest

def containsCode (s : CharSet) (n : Nat) : Bool := inRanges n s.ranges

def contains (s : CharSet) (c : Char) : Bool := s.containsCode c.toNat

def join (lo hi : Nat) : List (Nat × Nat) → List (Nat × Nat)
  | [] => [(lo, hi)]
  | (lo', hi') :: rest =>
    if hi + 1 < lo' then (lo, hi) :: (lo', hi') :: rest else join lo (max hi hi') rest

def merge : List (Nat × Nat) → List (Nat × Nat)
  | [] => []
  | (lo, hi) :: rest => join lo hi (merge rest)

def ofRanges (rs : List (Nat × Nat)) : CharSet :=
  ⟨merge ((rs.filter fun r => r.1 ≤ r.2).mergeSort fun a b => a.1 ≤ b.1)⟩

def range (lo hi : Nat) : CharSet := ofRanges [(lo, hi)]

def singleton (c : Char) : CharSet := ⟨[(c.toNat, c.toNat)]⟩

def ofChars (cs : List Char) : CharSet := ofRanges (cs.map fun c => (c.toNat, c.toNat))

def union (s t : CharSet) : CharSet := ofRanges (s.ranges ++ t.ranges)

def gaps (next : Nat) : List (Nat × Nat) → List (Nat × Nat)
  | [] => if next ≤ maxCode then [(next, maxCode)] else []
  | (lo, hi) :: rest => if next < lo then (next, lo - 1) :: gaps (hi + 1) rest else gaps (hi + 1) rest

def compl (s : CharSet) : CharSet := ⟨gaps 0 s.ranges⟩

def inter (s t : CharSet) : CharSet := (s.compl.union t.compl).compl

def diff (s t : CharSet) : CharSet := s.inter t.compl

def symmDiff (s t : CharSet) : CharSet := (s.diff t).union (t.diff s)

def unions (sets : List CharSet) : CharSet := ofRanges (sets.flatMap CharSet.ranges)

def hexNat (cs : List Char) : Nat := (Text.nat? 16 cs).getD 0

/-- One entry of a table after the code point `last`: the distance to the start of the next range
and, behind a plus sign, the distance from there to its end. -/
def readEntry (last : Nat) (entry : List Char) : Nat × Nat :=
  let start := last + hexNat (entry.takeWhile (· ≠ '+'))
  (start, start + hexNat ((entry.dropWhile (· ≠ '+')).drop 1))

def entries (table : String) : List (List Char) :=
  (table.toList.splitOnP fun c => c = ' ' ∨ c = '\n').filter fun e => !e.isEmpty

def ofTable (table : String) : CharSet :=
  let step (acc : Nat × List (Nat × Nat)) (entry : List Char) : Nat × List (Nat × Nat) :=
    let r := readEntry acc.1 entry
    (r.2, r :: acc.2)
  ⟨((entries table).foldl step (0, [])).2.reverse⟩

end CharSet

end PathQuery
