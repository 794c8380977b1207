/-!
# Ranges of characters

A set of characters, `Ranges`, kept as the sorted code points at which membership changes, as tables
of character properties are.
-/

namespace SealedPage.Text

/-- From each even place of `bounds` on characters belong to the set, from each odd place on they
do not. -/
structure Ranges where
  bounds : Array Nat

namespace Ranges

/-- How many bounds between the places `lo` and `hi` lie at or before a code point. Each round
halves the stretch between them, so `fuel` may be its length. -/
def countFrom (r : Ranges) (n : Nat) : (fuel lo hi : Nat) → Nat
  | 0, lo, _ => lo
  | fuel + 1, lo, hi =>
    if lo < hi then
      let mid := (lo + hi) / 2
      if n < r.bounds.getD mid 0 then r.countFrom n fuel lo mid
      else r.countFrom n fuel (mid + 1) hi
    else lo

/-- Whether a character belongs to the set. -/
def contains (r : Ranges) (c : Char) : Bool :=
  r.countFrom c.toNat r.bounds.size 0 r.bounds.size % 2 == 1

end Ranges

end SealedPage.Text
