/-!
Sets of code points as ascending lists of inclusive ranges. Ranges of one list neither meet nor
touch, so that equal sets have equal lists.
-/
namespace UtilityCss.Unicode

structure CharSet where
  ranges : List (Nat × Nat)
  deriving DecidableEq, Repr, Inhabited

namespace CharSet

def top : Nat := 0x10ffff

def empty : CharSet := ⟨[]⟩

def full : CharSet := ⟨[(0, top)]⟩

def containsCode (s : CharSet) (n : Nat) : Bool := s.ranges.any fun r => r.1 ≤ n && n ≤ r.2

def contains (s : CharSet) (c : Char) : Bool := s.containsCode c.toNat

def isEmpty (s : CharSet) : Bool := s.ranges.isEmpty

/-- Joins ranges that meet or touch, in a list that ascends by its lower ends. -/
def joinRanges : List (Nat × Nat) → List (Nat × Nat)
  | (a, b) :: (c, d) :: rest =>
    if c ≤ b + 1 then joinRanges ((a, max b d) :: rest) else (a, b) :: joinRanges ((c, d) :: rest)
  | short => short
termination_by l => l.length

def ofRanges (ranges : List (Nat × Nat)) : CharSet :=
  ⟨joinRanges ((ranges.filter fun r => r.1 ≤ r.2).mergeSort fun r s => decide (r.1 ≤ s.1))⟩

def ofChar (c : Char) : CharSet := ⟨[(c.toNat, c.toNat)]⟩

def union (s t : CharSet) : CharSet := ofRanges (s.ranges ++ t.ranges)

def unions (sets : List CharSet) : CharSet := ofRanges (sets.flatMap ranges)

/-- What the ranges leave out between `start` and `last`. -/
def gaps (last : Nat) : Nat → List (Nat × Nat) → List (Nat × Nat)
  | start, [] => if start ≤ last then [(start, last)] else []
  | start, (a, b) :: rest =>
    if start < a then (start, a - 1) :: gaps last (b + 1) rest else gaps last (b + 1) rest

def complementUpTo (last : Nat) (s : CharSet) : CharSet := ⟨gaps last 0 s.ranges⟩

def complement (s : CharSet) : CharSet := s.complementUpTo top

def inter (s t : CharSet) : CharSet := (s.complement.union t.complement).complement

def diff (s t : CharSet) : CharSet := (s.complement.union t).complement

def symmDiff (s t : CharSet) : CharSet := (s.union t).diff (s.inter t)

def allBelow (n : Nat) (s : CharSet) : Bool := s.ranges.all fun r => r.2 < n

def hexDigit (c : Char) : Nat :=
  if c.isDigit then c.toNat - '0'.toNat else c.toLower.toNat - 'a'.toNat + 10

def hexNumber (s : List Char) : Nat := s.foldl (fun n c => 16 * n + hexDigit c) 0

/-- One entry of a table: a code point in hexadecimal, or two with a dash between them. -/
def tableEntry (entry : List Char) : Nat × Nat :=
  let low := entry.takeWhile (· ≠ '-')
  let high := entry.dropWhile (· ≠ '-')
  (hexNumber low, if high.isEmpty then hexNumber low else hexNumber (high.drop 1))

def words (text : List Char) : List (List Char) :=
  (text.splitOn ' ').filter fun word => !word.isEmpty

/-- Reads a table of ranges that ascend, with gaps between them. -/
def ofTable (lines : List String) : CharSet :=
  ⟨lines.flatMap fun line => (words line.toList).map tableEntry⟩

end CharSet

end UtilityCss.Unicode
