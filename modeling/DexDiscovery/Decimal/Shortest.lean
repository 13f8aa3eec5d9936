import DexDiscovery.Decimal.Rounding

/-!
# Shortest decimal text

The text of a double is the one with the **fewest digits** that reads back as the same double and,
among those, the one nearest to it.  A decimal number reads back as a double if it lies in the
interval that rounds to it; the ends belong to the interval if the mantissa is even.  On the grid
of a given number of digits only the two neighbours of the value need to be tried.
-/

namespace DexDiscovery

namespace Dyadic

/-- Whether the multiple `k` of `10 ^ scale` reads back as the double `x`.  Everything is compared
in quarters of a unit of the last binary place: the interval reaches two of them up, and two of
them down, or one where the doubles below lie closer together. -/
def readsBack (x : Dyadic) (scale : Int) (k : Nat) : Bool :=
  let quarter : Dyadic := { mantissa := 1, exponent := x.exponent - 2 }
  let (n, d) := quarter.overPowerOfTen scale
  let down := if x.mantissa = Nat.pow 2 52 ∧ -1074 < x.exponent then 1 else 2
  let low := (4 * x.mantissa - down) * n
  let high := (4 * x.mantissa + 2) * n
  if x.mantissa % 2 = 0 then low ≤ k * d && k * d ≤ high else low < k * d && k * d < high

/-- The better of the two neighbours of a value on a grid, if one of them reads back. -/
def neighbour? (x : Dyadic) (scale : Int) : Option Nat :=
  let (n, d) := x.overPowerOfTen scale
  let below := n / d
  match x.readsBack scale below, x.readsBack scale (below + 1) with
  | true, true => some (roundDiv n d)
  | true, false => some below
  | false, true => some (below + 1)
  | false, false => none

/-- Tries grids of `count` digits and more. -/
def shortestFrom (x : Dyadic) (place : Int) : (fuel count : Nat) → Nat × Int
  | 0, count => (x.roundTo (place - count), place - count)
  | fuel + 1, count =>
    match x.neighbour? (place - count) with
    -- The upper neighbour may be the power of ten at the end of the grid.
    | some k => if k = Nat.pow 10 count then (1, place) else (k, place - count)
    | none => shortestFrom x place fuel (count + 1)

/-- The shortest decimal number that reads back: its digits as a number, and their scale. -/
def shortest (x : Dyadic) : Nat × Int :=
  if x.mantissa = 0 then (0, 0) else x.shortestFrom x.pointPlace 16 1

end Dyadic

/-- How a double is written. -/
structure DoubleFormat where
  /-- The texts of an infinite value and of no value. -/
  infinity : Text
  nan : Text
  /-- Positions of the point, counted from before the first digit, that are written without an
  exponent: above `leastPlace` and not above `greatestPlace`. -/
  leastPlace : Int
  greatestPlace : Int
  /-- The least number of digits of an exponent. -/
  exponentDigits : Nat

namespace DoubleFormat

/-- An exponent with its sign and at least two digits. -/
def exponentText (f : DoubleFormat) (e : Int) : Text :=
  'e' :: (if e < 0 then .minus else .plus) :: paddedDigits f.exponentDigits e.natAbs

/-- A magnitude: a whole number keeps one zero after its point, unless it has an exponent. -/
def magnitudeText (f : DoubleFormat) (x : Dyadic) : Text :=
  let (n, scale) := x.shortest
  let digits := Text.ofNat n
  let place : Int := digits.length + scale
  if f.leastPlace < place ∧ place ≤ f.greatestPlace then
    if place ≤ 0 then
      ("0." : Text) ++ List.replicate (-place).toNat .zero ++ digits
    else if digits.length ≤ place.toNat then
      digits ++ List.replicate (place.toNat - digits.length) .zero ++ (".0" : Text)
    else digits.take place.toNat ++ .point :: digits.drop place.toNat
  else
    let rest := digits.drop 1
    digits.take 1 ++ (if rest = [] then [] else .point :: rest) ++ f.exponentText (place - 1)

/-- The text of a double. -/
def text (f : DoubleFormat) (x : Float) : Text :=
  let sign (negative : Bool) : Text := if negative then "-" else []
  match Double.ofFloat x with
  | .finite negative x => sign negative ++ f.magnitudeText x
  | .infinite negative => sign negative ++ f.infinity
  | .nan => f.nan

end DoubleFormat

end DexDiscovery
