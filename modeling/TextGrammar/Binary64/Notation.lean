import TextGrammar.Binary64.Shortest

/-!
# Writing numbers

How the digits of a number are laid out: with a decimal point among them when the number is
neither very large nor very small, and with a power of ten otherwise.
-/

namespace TextGrammar.Binary64

/-- The layout of written numbers. -/
structure Layout where
  /-- The least power of ten of the first digit that is written without an exponent. -/
  leastPlain : Int
  /-- The greatest power of ten of the first digit that is written without an exponent. -/
  greatestPlain : Int
  /-- The least count of digits of an exponent. -/
  exponentWidth : Nat

/-- Numbers from `0.0001` up to sixteen digits before the point are written plainly, and exponents
have a sign and at least two digits. -/
def layout : Layout := ⟨-4, 15, 2⟩

/-- Digits with a point among or around them; a digit stands on either side of the point. -/
def plain (digits : List Char) (point : Int) : List Char :=
  if point ≤ 0 then '0' :: '.' :: (List.replicate (-point).toNat '0' ++ digits)
  else if digits.length ≤ point.toNat then
    digits ++ List.replicate (point.toNat - digits.length) '0' ++ ['.', '0']
  else digits.take point.toNat ++ '.' :: digits.drop point.toNat

/-- Digits with a point after the first one, if there are more, and a power of ten. -/
def exponential (width : Nat) (digits : List Char) (exponent : Int) : List Char :=
  let power := Nat.toDigits 10 exponent.natAbs
  digits.take 1 ++ (if digits.length ≤ 1 then [] else '.' :: digits.drop 1) ++
    'e' :: (if exponent < 0 then '-' else '+') ::
      (List.replicate (width - power.length) '0' ++ power)

/-- Digits without the zeros at their end. -/
def significant (digits : List Char) : List Char :=
  (digits.reverse.dropWhile (· = '0')).reverse

/-- A positive finite number. -/
def writePositive (x : Binary64) : List Char :=
  let decimal := x.shortest
  let digits := Nat.toDigits 10 decimal.digits
  let point := digits.length + decimal.exponent
  if layout.leastPlain < point ∧ point ≤ layout.greatestPlain + 1 then
    plain (significant digits) point
  else exponential layout.exponentWidth (significant digits) (point - 1)

/-- A number, shortest among the decimals that read back as it. -/
def write (x : Binary64) : String :=
  if x.isNaN then "nan"
  else
    let magnitude :=
      if !x.isFinite then ['i', 'n', 'f']
      else if x.magnitude = 0 then ['0', '.', '0']
      else x.writePositive
    String.ofList (if x.isNegative then '-' :: magnitude else magnitude)

end TextGrammar.Binary64
