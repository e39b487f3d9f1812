import MediaPerimeter.Text.Hex

/-!
# Sets of code points

A set is held as the ascending boundaries of its ranges: the first begins a range, the second is the
first code point behind it, and so on in turn. Tables write the gaps from each boundary to the next
in hexadecimal digits, with blanks between them.
-/
namespace MediaPerimeter.Unicode

def numbers (rows : List String) : List Nat :=
  rows.flatMap fun row => ((Text.split ' ' row.toList).filter (· != [])).map Hex.value

def sums : (total : Nat) → List Nat → List Nat
  | _, [] => []
  | total, n :: rest => (total + n) :: sums (total + n) rest

/-- How many of the ascending numbers in places `lo` to `hi` are at most `n`, and those before. -/
def countUpTo (ascending : Array Nat) (n lo hi : Nat) : Nat :=
  if lo < hi then
    let mid := (lo + hi) / 2
    if ascending.getD mid 0 ≤ n then countUpTo ascending n (mid + 1) hi
    else countUpTo ascending n lo mid
  else lo
termination_by hi - lo

structure Ranges where
  boundaries : Array Nat

namespace Ranges

def ofGaps (rows : List String) : Ranges := ⟨(sums 0 (numbers rows)).toArray⟩

/-- A code point lies in a range when it has passed an odd number of boundaries. -/
def contains (r : Ranges) (c : Char) : Bool :=
  countUpTo r.boundaries c.toNat 0 r.boundaries.size % 2 == 1

end Ranges
end MediaPerimeter.Unicode
