import TextGrammar.Binary64.Basic

/-!
# The shortest decimal of a number

Among the decimals that are nearer to a number than to any other one, the shortest is
written: the fewest digits, and of those the decimal nearest to the number. Grids of one
digit, two digits and so on are tried in turn; the two neighbours of the number on a grid
are the only candidates there.
-/

namespace TextGrammar

/-- A decimal `digits * 10 ^ exponent`. -/
structure ShortDecimal where
  digits : Nat
  exponent : Int
  deriving DecidableEq, Inhabited

namespace Binary64

/-- How many digits a quotient has before the decimal point; zero or negative when the first
digit comes after it. -/
def pointOf (numerator denominator : Nat) : Int :=
  if denominator ≤ numerator then (Nat.toDigits 10 (numerator / denominator)).length
  else
    let zeros := (Nat.toDigits 10 (denominator / numerator)).length - 1
    if denominator = numerator * Nat.pow 10 zeros then 1 - zeros else -zeros

/-- A positive number and the ends of the interval of reals that round to it, all in quarters of
the unit of its last place. Below a power of two the numbers lie twice as close. -/
structure Interval where
  low : Nat
  value : Nat
  high : Nat
  closed : Bool

/-- The interval of a positive finite number. -/
def interval (x : Binary64) : Interval :=
  let value := 4 * x.significand
  let below := if x.significand = Nat.pow 2 52 ∧ 0 < x.scale then 1 else 2
  ⟨value - below, value, value + 2, x.significand % 2 = 0⟩

/-- Whether a quarter count, given as a quotient, lies in the interval. -/
def Interval.covers (i : Interval) (numerator denominator : Nat) : Bool :=
  if i.closed then
    decide (i.low * denominator ≤ numerator) && decide (numerator ≤ i.high * denominator)
  else decide (i.low * denominator < numerator) && decide (numerator < i.high * denominator)

/-- The decimal of at most the given count of digits that rounds to the number and is nearest to
it, if there is one. -/
def onGrid (x : Binary64) (count : Nat) : Option ShortDecimal :=
  let i := x.interval
  let numerator := i.value * Nat.pow 2 x.scale
  let denominator := Nat.pow 2 1076
  let exponent := pointOf numerator denominator - count
  -- one step of the grid, in quarters of the last place, is `up / down`
  let up := Nat.pow 2 1076 * Nat.pow 10 exponent.toNat
  let down := Nat.pow 2 x.scale * Nat.pow 10 (-exponent).toNat
  let floor := i.value * down / up
  let lower := i.covers (floor * up) down
  let upper := i.covers ((floor + 1) * up) down
  let gap := 2 * (i.value * down - floor * up)
  if lower && upper then
    if gap < up ∨ gap = up ∧ floor % 2 = 0 then some ⟨floor, exponent⟩
    else some ⟨floor + 1, exponent⟩
  else if lower then some ⟨floor, exponent⟩
  else if upper then some ⟨floor + 1, exponent⟩
  else none

/-- The shortest decimal of a positive finite number. Seventeen digits always suffice. -/
def shortest (x : Binary64) : ShortDecimal :=
  ((List.range 17).findSome? fun n => x.onGrid (n + 1)).getD default

end Binary64

end TextGrammar
