import UtilityCss.Unicode.CharSet

/-!
Ranges of code points as sequences of byte ranges in UTF-8: a code point is in the range if its
bytes are, one by one, in the byte ranges of one of the sequences.
-/
namespace UtilityCss.Unicode.Utf8

/-- The byte ranges of one sequence. -/
abbrev Bytes := List (Nat × Nat)

/-- The largest number that fits into `count` continuation bytes. -/
def mask (count : Nat) : Nat := Nat.pow 64 count - 1

/-- The sequences for `low` to `high` in `count` continuation bytes behind one byte, to which `lead`
is added. -/
def sequences (lead : Nat) : Nat → Nat → Nat → List Bytes
  | 0, low, high => [[(lead + low, lead + high)]]
  | count + 1, low, high =>
    let m := mask (count + 1)
    let first := low / (m + 1)
    let last := high / (m + 1)
    let behind (byte low high : Nat) := (sequences 128 count low high).map ((lead + byte, lead + byte) :: ·)
    if first = last then behind first (low % (m + 1)) (high % (m + 1))
    else
      let front := if low % (m + 1) = 0 then [] else behind first (low % (m + 1)) m
      let back := if high % (m + 1) = m then [] else behind last 0 (high % (m + 1))
      let start := if low % (m + 1) = 0 then first else first + 1
      let stop := if high % (m + 1) = m then last + 1 else last
      let middle := if start < stop then
          [(lead + start, lead + stop - 1) :: List.replicate (count + 1) (128, 191)]
        else []
      front ++ middle ++ back

/-- The lengths of encoded code points: the smallest and the largest of a length, the number of
continuation bytes, and what the first byte adds. No surrogate is encoded. -/
def lengths : List (Nat × Nat × Nat × Nat) :=
  [(0, 0x7f, 0, 0), (0x80, 0x7ff, 1, 0xc0), (0x800, 0xd7ff, 2, 0xe0), (0xe000, 0xffff, 2, 0xe0),
    (0x10000, 0x10ffff, 3, 0xf0)]

def ofRange (r : Nat × Nat) : List Bytes :=
  lengths.flatMap fun (low, high, count, lead) =>
    let low := max low r.1
    let high := min high r.2
    if low ≤ high then sequences lead count low high else []

def ofSet (s : CharSet) : List Bytes := s.ranges.flatMap ofRange

def length (n : Nat) : Nat := if n < 0x80 then 1 else if n < 0x800 then 2 else if n < 0x10000 then 3 else 4

end UtilityCss.Unicode.Utf8
