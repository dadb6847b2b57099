import Sift.Number.Decimal

/-!
# Shortest decimals

The shortest decimal of a finite number is the one on the coarsest decimal grid that rounds to it;
of two such decimals on that grid the nearer is taken, and the greater if both are equally near.
-/

namespace Sift.Number

/-- A decimal `digits * 10 ^ exponent`. -/
structure Decimal where
  digits : Nat
  exponent : Int

/-- The decimals that round to a positive number: between `low` and `high` quarters of the number's
last bit, which is `2 ^ exponent`; the two ends belong to them if `closed`. -/
structure RoundingInterval where
  low : Nat
  middle : Nat
  high : Nat
  exponent : Int
  closed : Bool

/-- The rounding interval of a positive finite number. Below the least number of a binade the
numbers lie twice as close. -/
def Binary.roundingInterval {f : Format} (x : Binary f) : RoundingInterval :=
  let m := x.significand
  let narrow := x.fractionField == 0 && 1 < x.exponentField
  ⟨if narrow then 4 * m - 1 else 4 * m - 2, 4 * m, 4 * m + 2, x.exponent - 2, m % 2 == 0⟩

/-- The point of the grid of step `10 ^ g` that lies in the interval and next to its middle. -/
def RoundingInterval.pointOn? (i : RoundingInterval) (g : Int) : Option Nat :=
  let (unit, den) := scaleDown 2 1 1 (-i.exponent)
  let (unit, den) := scaleDown 10 unit den g
  let inside (d : Nat) : Bool :=
    if i.closed then i.low * unit ≤ d * den && d * den ≤ i.high * unit
    else i.low * unit < d * den && d * den < i.high * unit
  let below := i.middle * unit / den
  let twice := 2 * (i.middle * unit % den)
  match inside below, inside (below + 1) with
  | true, true => some (if twice < den then below else below + 1)
  | true, false => some below
  | false, true => some (below + 1)
  | false, false => none

/-- The greatest `k` for which `10 ^ k` is at most `num / den`. -/
def floorLog10 (num den : Nat) : Int :=
  let k : Int := digitCount num - digitCount den
  let (n, d) := scaleDown 10 num den k
  if d ≤ n then k else k - 1

/-- The shortest decimal of a positive finite number. The grids are tried from coarse to fine; with
as many digits as the format has bits, one of them has a point in the interval. -/
def Binary.shortest {f : Format} (x : Binary f) : Decimal :=
  let (num, den) := scaleDown 2 x.significand 1 (-x.exponent)
  let top := floorLog10 num den + 1
  let found := (List.range (f.fractionBits + 2)).findSome? fun (n : Nat) =>
    (x.roundingInterval.pointOn? (top - n)).map fun d => (⟨d, top - n⟩ : Decimal)
  found.getD ⟨0, 0⟩

end Sift.Number
