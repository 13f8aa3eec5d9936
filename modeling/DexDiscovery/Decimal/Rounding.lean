import DexDiscovery.Text.Basic

/-!
# Rounding binary numbers to decimal ones

A finite double is a **dyadic** number: a natural number times a power of two.  Rounding it to a
decimal grid is a division of natural numbers; a tie goes to the even neighbour.
-/

namespace DexDiscovery

/-- `mantissa * 2 ^ exponent`. -/
structure Dyadic where
  mantissa : Nat
  exponent : Int
deriving DecidableEq, Repr

/-- A double, taken apart. -/
inductive Double where
  | finite (negative : Bool) (magnitude : Dyadic)
  | infinite (negative : Bool)
  | nan
deriving DecidableEq, Repr

/-- Takes a double apart into its sign, its exponent and its mantissa. -/
def Double.ofFloat (x : Float) : Double :=
  let bits : Nat := x.toBits.toNat
  let negative := bits / Nat.pow 2 63 == 1
  let stored : Nat := bits / Nat.pow 2 52 % Nat.pow 2 11
  let fraction : Nat := bits % Nat.pow 2 52
  if stored = 2047 then if fraction = 0 then .infinite negative else .nan
  else if stored = 0 then .finite negative { mantissa := fraction, exponent := -1074 }
  else .finite negative { mantissa := Nat.pow 2 52 + fraction, exponent := (stored : Int) - 1075 }

/-- The quotient rounded to the nearest natural number, a tie to the even one. -/
def roundDiv (n d : Nat) : Nat :=
  let q := n / d
  let rest := 2 * (n % d)
  if rest < d then q
  else if d < rest then q + 1
  else if q % 2 = 0 then q else q + 1

namespace Dyadic

/-- The fraction `value / 10 ^ scale`, as a numerator and a denominator. -/
def overPowerOfTen (x : Dyadic) (scale : Int) : Nat × Nat :=
  (x.mantissa * Nat.pow 2 x.exponent.toNat * Nat.pow 10 (-scale).toNat,
   Nat.pow 2 (-x.exponent).toNat * Nat.pow 10 scale.toNat)

/-- The multiple of `10 ^ scale` nearest to a value, divided by that power. -/
def roundTo (x : Dyadic) (scale : Int) : Nat :=
  let (n, d) := x.overPowerOfTen scale
  roundDiv n d

/-- How many digits a natural number has in decimal; zero has none. -/
def digitCount (n : Nat) : Nat :=
  if n = 0 then 0 else digitCount (n / 10) + 1
termination_by n
decreasing_by omega

/-- The place of the point: the least `p` with `value < 10 ^ p`, for a value that is not zero. -/
def pointPlace (x : Dyadic) : Int :=
  let (n, d) := x.overPowerOfTen 0
  if d ≤ n then digitCount (n / d)
  else
    -- `value < 1`: the quotient of the inverse has as many digits as there are zeros, give or
    -- take one for exact powers of ten.
    let zeros := digitCount (d / n)
    if d ≤ n * Nat.pow 10 (zeros - 1) then 2 - (zeros : Int) else 1 - (zeros : Int)

end Dyadic

/-- Digits of a natural number, most significant first, at least `width` of them. -/
def paddedDigits (width n : Nat) : Text :=
  Text.padLeft width .zero (Text.ofNat n)

/-- A value with a fixed number of places after the point. -/
def Dyadic.fixed (x : Dyadic) (places : Nat) : Text :=
  let digits := paddedDigits (places + 1) (x.roundTo (-places))
  let whole := digits.take (digits.length - places)
  if places = 0 then whole else whole ++ .point :: digits.drop (digits.length - places)

/-- A value with the given number of digits: the digits and the place of the point. -/
def Dyadic.rounded (x : Dyadic) (count : Nat) : Nat × Int :=
  if x.mantissa = 0 then (0, 1)
  else
    let place := x.pointPlace
    let n := x.roundTo (place - count)
    if n = Nat.pow 10 count then (Nat.pow 10 (count - 1), place + 1) else (n, place)

end DexDiscovery
