import TextGrammar.Binary64.Basic
import TextGrammar.Text.Decimal

/-!
# Reading numbers

A decimal is an optional sign, digits, an optional point followed by digits, and an optional
exponent: a marker, an optional sign and digits. Reading gives the number nearest to the
decimal. Halfway between two numbers the one with the even significand is taken, and what lies
half a place above the largest finite number becomes infinite.
-/

namespace TextGrammar

/-- The integer nearest to a quotient; halfway, the even one. -/
def roundQuotient (numerator denominator : Nat) : Nat :=
  let whole := numerator / denominator
  let rest := numerator % denominator
  if 2 * rest < denominator then whole
  else if denominator < 2 * rest then whole + 1
  else whole + whole % 2

namespace Binary64

/-- The exponent of the last place of the number nearest to a quotient in units of the smallest
positive number: the least one for which the quotient has at most 53 bits before the point. -/
def unitExponent (numerator denominator : Nat) : Nat :=
  let guess := numerator.log2 - (denominator.log2 + 52)
  if 0 < guess ∧ numerator < denominator * Nat.pow 2 (guess + 52) then guess - 1 else guess

/-- The number nearest to a quotient. -/
def ofQuotient (negative : Bool) (numerator denominator : Nat) : Binary64 :=
  let scaled := numerator * Nat.pow 2 1074
  let exponent := unitExponent scaled denominator
  let significand := roundQuotient scaled (denominator * Nat.pow 2 exponent)
  ofParts negative (min (exponent * Nat.pow 2 52 + significand) infiniteWord)

/-- The number nearest to `mantissa * 10 ^ exponent`. Exponents far outside the range of the
numbers are decided by the count of digits alone. -/
def ofDecimal (negative : Bool) (mantissa : Nat) (exponent : Int) : Binary64 :=
  let point := (Nat.toDigits 10 mantissa).length + exponent
  if mantissa = 0 then zero negative
  else if 310 < point then infinity negative
  else if point < -330 then zero negative
  else if 0 ≤ exponent then ofQuotient negative (mantissa * Nat.pow 10 exponent.toNat) 1
  else ofQuotient negative mantissa (Nat.pow 10 (-exponent).toNat)

end Binary64

/-- The rounded quotient differs from the quotient by at most one half. -/
theorem roundQuotient_near {numerator denominator : Nat} (h : 0 < denominator) :
    2 * numerator ≤ 2 * (roundQuotient numerator denominator * denominator) + denominator ∧
      2 * (roundQuotient numerator denominator * denominator) ≤ 2 * numerator + denominator := by
  have hdiv := Nat.div_add_mod numerator denominator
  have hmod := Nat.mod_lt numerator h
  rw [Nat.mul_comm] at hdiv
  have hsucc : (numerator / denominator + 1) * denominator =
      numerator / denominator * denominator + denominator := Nat.succ_mul _ _
  unfold roundQuotient
  dsimp only
  split
  · omega
  · split
    · rw [hsucc]; omega
    · rcases Nat.mod_two_eq_zero_or_one (numerator / denominator) with heven | hodd
      · rw [heven, Nat.add_zero]; omega
      · rw [hodd, hsucc]; omega

end TextGrammar

namespace TextGrammar.Binary64

open TextGrammar.Text

/-- An optional sign and what follows it. -/
def splitSign : List Char → Bool × List Char
  | '-' :: rest => (true, rest)
  | '+' :: rest => (false, rest)
  | text => (false, text)

/-- The digits after a decimal point and what follows them; no digits without a point. -/
def splitFraction : List Char → Option (List Char × List Char)
  | '.' :: rest =>
    let digits := rest.takeWhile isDecimal
    if digits.isEmpty then none else some (digits, rest.dropWhile isDecimal)
  | text => some ([], text)

/-- The value of an exponent that ends the text; zero without a marker. -/
def readExponent : List Char → Option Int
  | [] => some 0
  | marker :: rest =>
    let (negative, digits) := splitSign rest
    if (marker = 'e' ∨ marker = 'E') ∧ !digits.isEmpty ∧ digits.all isDecimal then
      some (if negative then -(readDigits digits : Int) else readDigits digits)
    else none

/-- The number nearest to the decimal that a text denotes, if it denotes one. -/
def read? (text : List Char) : Option Binary64 := do
  let (negative, unsigned) := splitSign text
  let whole := unsigned.takeWhile isDecimal
  if whole.isEmpty then none
  else
    let (fraction, rest) ← splitFraction (unsigned.dropWhile isDecimal)
    let exponent ← readExponent rest
    some (ofDecimal negative (readDigits (whole ++ fraction)) (exponent - fraction.length))

end TextGrammar.Binary64
