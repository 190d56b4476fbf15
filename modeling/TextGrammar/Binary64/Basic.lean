/-!
# Binary floating point numbers of 64 bits

A number is its word of 64 bits: a sign, eleven bits of exponent and 52 bits of fraction.
The magnitude of a finite number is a natural number of units of `2 ^ (-1074)`, the
smallest positive number, so comparisons need no fractions.
-/

namespace TextGrammar

/-- A floating point number of 64 bits, given by its word. -/
structure Binary64 where
  bits : UInt64
  deriving DecidableEq, Inhabited

namespace Binary64

/-- The word as a natural number. -/
def word (x : Binary64) : Nat := x.bits.toNat

/-- Whether the sign bit is set. -/
def isNegative (x : Binary64) : Bool := decide (Nat.pow 2 63 ≤ x.word)

/-- The eleven exponent bits. -/
def exponentField (x : Binary64) : Nat := x.word / Nat.pow 2 52 % Nat.pow 2 11

/-- The 52 fraction bits. -/
def fraction (x : Binary64) : Nat := x.word % Nat.pow 2 52

/-- Whether the word denotes a real number. -/
def isFinite (x : Binary64) : Bool := x.exponentField != 2047

/-- Whether the word denotes no number at all. -/
def isNaN (x : Binary64) : Bool := x.exponentField == 2047 && x.fraction != 0

/-- The significand of a finite number: the fraction, with its implicit bit unless the number is
subnormal. -/
def significand (x : Binary64) : Nat :=
  if x.exponentField = 0 then x.fraction else x.fraction + Nat.pow 2 52

/-- The exponent of the last place of a finite number, counted from that of the smallest one. -/
def scale (x : Binary64) : Nat := x.exponentField - 1

/-- The magnitude of a finite number, in units of the smallest positive one. -/
def magnitude (x : Binary64) : Nat := x.significand * Nat.pow 2 x.scale

/-- The value of a finite number, in units of the smallest positive one. -/
def scaled (x : Binary64) : Int := if x.isNegative then -(x.magnitude : Int) else x.magnitude

/-- Whether the number is a zero of either sign. -/
def isZero (x : Binary64) : Bool := x.isFinite && x.magnitude == 0

/-- Equality of numbers: zeros of both signs are equal, and what is no number equals nothing. -/
def equals (x y : Binary64) : Bool :=
  if x.isFinite && y.isFinite then x.scaled == y.scaled
  else !x.isNaN && !y.isNaN && x.bits == y.bits

/-- Whether a finite number is the given integer. -/
def equalsInt (x : Binary64) (n : Int) : Bool := x.isFinite && x.scaled == n * Int.pow 2 1074

/-- The number of a sign and a word without its sign bit. -/
def ofParts (negative : Bool) (word : Nat) : Binary64 :=
  ⟨UInt64.ofNat ((if negative then Nat.pow 2 63 else 0) + word)⟩

/-- The word of positive infinity, the first that lies above all finite numbers. -/
def infiniteWord : Nat := 2047 * Nat.pow 2 52

/-- Infinity of either sign. -/
def infinity (negative : Bool) : Binary64 := ofParts negative infiniteWord

/-- Zero of either sign. -/
def zero (negative : Bool) : Binary64 := ofParts negative 0

/-- Zeros of both signs are equal. -/
theorem equals_zero (s t : Bool) : (zero s).equals (zero t) = true := by
  cases s <;> cases t <;> decide

/-- The significand has at most 53 bits. -/
theorem significand_lt (x : Binary64) : x.significand < Nat.pow 2 53 := by
  have hfraction : x.fraction < Nat.pow 2 52 := Nat.mod_lt _ (by decide)
  have hdouble : Nat.pow 2 53 = Nat.pow 2 52 + Nat.pow 2 52 := by decide
  unfold significand
  split <;> omega

end Binary64

end TextGrammar
