/-!
# Code point tables

Character properties of the Unicode standard are sets of code points that come in long runs, such as
those behind the bracket classes of pattern.py:17–30. A `RangeTable` keeps such a set as sorted,
disjoint, inclusive ranges and answers membership by binary search. Tables are written in the source
as their ranges, so that whether a given character belongs to one can be found by evaluation.

- `RangeTable.contains`: membership of a code point.
-/

namespace IgnoreRules.Text

/-- A set of code points as sorted, disjoint, inclusive ranges. -/
structure RangeTable where
  ranges : Array (Nat × Nat)

namespace RangeTable

/-- Binary search for `n` in the ranges with index in `[lo, hi)`. -/
def containsIn (t : RangeTable) (n lo hi : Nat) : Bool :=
  if lo < hi then
    let mid := (lo + hi) / 2
    match t.ranges[mid]? with
    | some (a, b) =>
      if n < a then t.containsIn n lo mid
      else if b < n then t.containsIn n (mid + 1) hi
      else true
    | none => false
  else false
termination_by hi - lo

/-- Whether the table holds the code point `n`. -/
def contains (t : RangeTable) (n : Nat) : Bool :=
  t.containsIn n 0 t.ranges.size

/-- Whether the table holds the character `c`. -/
def containsChar (t : RangeTable) (c : Char) : Bool :=
  t.contains c.toNat

end RangeTable

end IgnoreRules.Text
