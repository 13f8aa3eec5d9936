import DexDiscovery.Text.Basic

/-!
# Tables of code point ranges

A property of code points is kept as the ascending list of the ranges that have it, and looked up
by halving.
-/

namespace DexDiscovery

namespace CodePoint

/-- Whether one of the ranges at places `low … high - 1` holds `n`; a search by halves, which
needs at most as many steps as the number of places has binary digits. -/
def inRangeBetween (ranges : Array (Nat × Nat)) (n : Nat) : (steps low high : Nat) → Bool
  | 0, _, _ => false
  | steps + 1, low, high =>
    if low < high then
      let middle := (low + high) / 2
      let range := ranges.getD middle (0, 0)
      if n < range.1 then inRangeBetween ranges n steps low middle
      else if range.2 < n then inRangeBetween ranges n steps (middle + 1) high
      else true
    else false

/-- Whether some range of an ascending table holds `n`. -/
def inRanges (ranges : Array (Nat × Nat)) (n : Nat) : Bool :=
  inRangeBetween ranges n (ranges.size.log2 + 1) 0 ranges.size

end CodePoint

end DexDiscovery
