import LuceneQuery.Decimal

/-!
# The shortest decimal of a float

A finite float stands for `mantissa * 2 ^ exponent`, and every real closer to it than to its
neighbours reads back as it. Among the decimals in that interval the one with the fewest digits
is taken, of those the nearest, and the larger of two equally near.

The interval is held exactly, as numerators over one denominator; its ends belong to it when
the mantissa is even.
-/

namespace LuceneQuery

set_option autoImplicit false

structure Interval where
  low : Nat
  value : Nat
  high : Nat
  denominator : Nat
  closed : Bool

namespace Interval

/-- Below a power of two the neighbours lie twice as close as above it, except at the least
exponent, where they keep their distance. -/
def ofBinary (mantissa : Nat) (exponent : Int) : Interval :=
  let below := if mantissa == Nat.pow 2 52 && exponent != -1074 then 1 else 2
  let scale := Nat.pow 2 exponent.toNat
  { low := (4 * mantissa - below) * scale
    value := 4 * mantissa * scale
    high := (4 * mantissa + 2) * scale
    denominator := 4 * Nat.pow 2 (-exponent).toNat
    closed := mantissa % 2 == 0 }

/-- Whether `numerator / scale`, over the interval's denominator, lies inside. -/
def holds (interval : Interval) (numerator scale : Nat) : Bool :=
  if interval.closed then
    interval.low * scale ≤ numerator && numerator ≤ interval.high * scale
  else
    interval.low * scale < numerator && numerator < interval.high * scale

/-- The least power of ten above the value, as its exponent. -/
def magnitude (interval : Interval) : Int :=
  if interval.denominator ≤ interval.value then
    (Decimal.digits (interval.value / interval.denominator)).length
  else
    let quotient := (interval.denominator + interval.value - 1) / interval.value
    1 - (Decimal.digits (quotient - 1)).length

/-- The grid `10 ^ exponent`: the nearer of the value's two neighbours on it that lies inside. -/
def nearestOn (interval : Interval) (exponent : Int) : Option Decimal :=
  let scale := Nat.pow 10 (-exponent).toNat
  let unit := Nat.pow 10 exponent.toNat * interval.denominator
  let lower := interval.value * scale / unit
  let rest := interval.value * scale % unit
  let lowerHolds := interval.holds (lower * unit) scale
  let upperHolds := interval.holds ((lower + 1) * unit) scale
  if upperHolds && (!lowerHolds || unit ≤ 2 * rest) then some ⟨lower + 1, exponent⟩
  else if lowerHolds then some ⟨lower, exponent⟩
  else none

/-- Seventeen digits tell every two floats apart, so the search ends by then. -/
def shortest (interval : Interval) : Decimal :=
  let grids := (List.range 17).map fun count : Nat => interval.magnitude - (count + 1 : Nat)
  (grids.findSome? interval.nearestOn).getD ⟨0, 0⟩

end Interval

end LuceneQuery
