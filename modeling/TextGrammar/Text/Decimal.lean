/-!
# Decimal text

Numbers are written with the ten ASCII digits, a minus sign in front of negative ones, and
no leading zeros. Reading a run of digits gives back the number.
-/

namespace TextGrammar.Text

/-- The ten decimal digits. -/
def decimalDigits : List Char := ['0', '1', '2', '3', '4', '5', '6', '7', '8', '9']

/-- Whether a character is one of the ten decimal digits. -/
def isDecimal (c : Char) : Bool := decimalDigits.contains c

/-- The value of a decimal digit. -/
def digitValue (c : Char) : Nat := c.toNat - '0'.toNat

/-- The number that a sequence of digit values denotes, the most significant one first. -/
def fromDigits (digits : List Nat) : Nat := digits.foldl (fun total digit => total * 10 + digit) 0

/-- The number that a run of digits denotes. -/
def readDigits (digits : List Char) : Nat := fromDigits (digits.map digitValue)

/-- A natural number in decimal. -/
def writeNat (n : Nat) : String := String.ofList (Nat.toDigits 10 n)

/-- How many digits a natural number is written with. -/
def digitCount (n : Nat) : Nat := (Nat.toDigits 10 n).length

/-- An integer in decimal. -/
def writeInt (n : Int) : String := if n < 0 then "-" ++ writeNat n.natAbs else writeNat n.natAbs

/-- Appending a digit multiplies the number by ten and adds the digit. -/
theorem fromDigits_append_singleton (digits : List Nat) (digit : Nat) :
    fromDigits (digits ++ [digit]) = fromDigits digits * 10 + digit := by
  simp [fromDigits]

/-- A number has few digits just when it is small. -/
theorem digitCount_le_iff {n count : Nat} (hcount : 0 < count) :
    digitCount n ≤ count ↔ n < Nat.pow 10 count :=
  Nat.length_toDigits_le_iff (by decide) hcount

/-- A character is a decimal digit iff its code point is that of a digit. -/
theorem isDecimal_iff {c : Char} :
    isDecimal c = true ↔ '0'.toNat ≤ c.toNat ∧ c.toNat ≤ '9'.toNat := by
  constructor
  · intro h
    simp only [isDecimal, decimalDigits, List.contains_eq_mem, List.mem_cons, List.not_mem_nil,
      or_false, decide_eq_true_eq] at h
    rcases h with rfl | rfl | rfl | rfl | rfl | rfl | rfl | rfl | rfl | rfl <;> decide
  · rintro ⟨hlo, hhi⟩
    have hcases : c.toNat = 48 ∨ c.toNat = 49 ∨ c.toNat = 50 ∨ c.toNat = 51 ∨ c.toNat = 52 ∨
        c.toNat = 53 ∨ c.toNat = 54 ∨ c.toNat = 55 ∨ c.toNat = 56 ∨ c.toNat = 57 := by
      simp only [Char.reduceToNat] at hlo hhi
      omega
    have hofNat := Char.ofNat_toNat c
    rcases hcases with h | h | h | h | h | h | h | h | h | h <;>
      (rw [h] at hofNat; subst hofNat; decide)

end TextGrammar.Text
