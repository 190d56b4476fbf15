import Mathlib.Data.Nat.Digits.Lemmas
import TextGrammar.Proofs.Text.LongestStart

/-!
# Integers as texts

The number that digits denote by their places, and the integer that they denote behind a sign. What
is computed from the first digit to the last one is that number, and the text that an integer is
written as denotes the integer. A sign and digits, as far as they go, are the longest start of a
text that is an integer.
-/

namespace TextGrammar.Text

variable {cs sign digits : List Char}

/-- The number that digits denote: the last one counts ones, the one before it counts tens, and so
on. -/
def decimalValue (digits : List Char) : Nat := Nat.ofDigits 10 (digits.map digitValue).reverse

/-- Digits behind a sign, which may be missing. -/
def IsInteger (cs : List Char) : Prop :=
  ∃ sign digits, IsSign sign ∧ IsDigits digits ∧ cs = sign ++ digits

/-- The integer that digits behind a sign denote; no sign is a positive one. -/
def integerValue : List Char → Int
  | '-' :: digits => -decimalValue digits
  | '+' :: digits => decimalValue digits
  | digits => decimalValue digits

/-! ### The value of digits -/

/-- Reading digits from the front weighs each one by its place. -/
theorem fromDigits_eq_ofDigits (digits : List Nat) :
    fromDigits digits = Nat.ofDigits 10 digits.reverse := by
  induction digits using List.reverseRecOn with
  | nil => rfl
  | append_singleton digits digit ih =>
    rw [fromDigits_append_singleton, ih, List.reverse_append, List.reverse_singleton,
      List.singleton_append, Nat.ofDigits_cons]
    omega

/-- Reading digits one by one gives their decimal value. -/
theorem readDigits_eq_decimalValue (digits : List Char) :
    readDigits digits = decimalValue digits := by
  rw [readDigits, fromDigits_eq_ofDigits, decimalValue]

/-- The digits that a number is written with have it as their value. -/
theorem decimalValue_writeNat (n : Nat) : decimalValue (writeNat n).toList = n := by
  rw [← readDigits_eq_decimalValue, readDigits_writeNat]

/-- Zeros in front of digits do not count. -/
theorem decimalValue_zeros_append (zeros : Nat) (digits : List Char) :
    decimalValue (List.replicate zeros '0' ++ digits) = decimalValue digits := by
  have hzeros : ((List.replicate zeros '0').map digitValue).reverse = List.replicate zeros 0 := by
    rw [List.map_replicate, List.reverse_replicate]
    rfl
  rw [decimalValue, List.map_append, List.reverse_append, hzeros,
    Nat.ofDigits_append_replicate_zero, decimalValue]

/-- Zeros in front of digits are digits, too. -/
theorem isDigits_zeros_append (zeros : Nat) (h : IsDigits digits) :
    IsDigits (List.replicate zeros '0' ++ digits) := by
  refine ⟨List.append_ne_nil_of_right_ne_nil _ h.1, fun c hc => ?_⟩
  rcases List.mem_append.mp hc with hzero | hdigit
  · rw [List.eq_of_mem_replicate hzero]
    decide
  · exact h.2 c hdigit

/-! ### The value behind a sign -/

/-- No digit is a sign. -/
theorem ne_of_isDecimal {c : Char} (h : isDecimal c = true) : c ≠ '-' ∧ c ≠ '+' := by
  constructor <;> rintro rfl <;> exact absurd h (by decide)

/-- The factor of a sign does not depend on the digits behind it. -/
theorem signFactor_append (hsign : IsSign sign) (hdigits : IsDigits digits) (tail : List Char) :
    signFactor (sign ++ (digits ++ tail)) = signFactor sign := by
  obtain ⟨c, later, rfl, hc⟩ := hdigits.exists_cons
  obtain ⟨hminus, -⟩ := ne_of_isDecimal hc
  rcases hsign with rfl | rfl | rfl
  · simp [signFactor, hminus]
  · rfl
  · rfl

/-- The value of an integer is that of its digits with the factor of its sign. -/
theorem integerValue_append (hsign : IsSign sign) (hdigits : IsDigits digits) :
    integerValue (sign ++ digits) = signFactor sign * decimalValue digits := by
  obtain ⟨c, later, rfl, hc⟩ := hdigits.exists_cons
  obtain ⟨hminus, hplus⟩ := ne_of_isDecimal hc
  rcases hsign with rfl | rfl | rfl
  · simp [integerValue, signFactor, hminus, hplus]
  · exact (Int.one_mul _).symm
  · exact (Int.neg_one_mul _).symm

/-- An integer is written as digits, behind a minus if it is negative. -/
theorem exists_writeInt (n : Int) :
    ∃ sign digits, IsSign sign ∧ IsDigits digits ∧ (writeInt n).toList = sign ++ digits ∧
      signFactor sign * decimalValue digits = n := by
  have hdigits := isDigits_writeNat n.natAbs
  have hvalue := decimalValue_writeNat n.natAbs
  by_cases hneg : n < 0
  · refine ⟨['-'], _, .inr (.inr rfl), hdigits, ?_, ?_⟩
    · rw [writeInt, if_pos hneg, String.toList_append]
      rfl
    · rw [hvalue]
      change -1 * (n.natAbs : Int) = n
      omega
  · refine ⟨[], _, .inl rfl, hdigits, ?_, ?_⟩
    · rw [writeInt, if_neg hneg, List.nil_append]
    · rw [hvalue]
      change 1 * (n.natAbs : Int) = n
      omega

/-- What an integer is written as is an integer. -/
theorem isInteger_writeInt (n : Int) : IsInteger (writeInt n).toList := by
  obtain ⟨sign, digits, hsign, hdigits, htext, -⟩ := exists_writeInt n
  exact ⟨sign, digits, hsign, hdigits, htext⟩

/-- An integer is read back from what it is written as. -/
theorem integerValue_writeInt (n : Int) : integerValue (writeInt n).toList = n := by
  obtain ⟨sign, digits, hsign, hdigits, htext, hvalue⟩ := exists_writeInt n
  rw [htext, integerValue_append hsign hdigits, hvalue]

/-- What is not negative is written as its digits. -/
theorem writeInt_natCast_eq {n : Int} (h : 0 ≤ n) : writeInt n = writeNat n.natAbs := by
  rw [writeInt, if_neg (by omega)]

/-- An integer that is not negative may be written with a plus. -/
theorem isInteger_plus_writeInt {n : Int} (h : 0 ≤ n) : IsInteger ('+' :: (writeInt n).toList) := by
  refine ⟨['+'], _, .inr (.inl rfl), ?_, List.singleton_append.symm⟩
  rw [writeInt_natCast_eq h]
  exact isDigits_writeNat n.natAbs

/-- An integer is read back from what it is written as with a plus. -/
theorem integerValue_plus_writeInt {n : Int} (h : 0 ≤ n) :
    integerValue ('+' :: (writeInt n).toList) = n := by
  rw [writeInt_natCast_eq h]
  change (decimalValue (writeNat n.natAbs).toList : Int) = n
  rw [decimalValue_writeNat]
  omega

/-! ### How far integers go -/

/-- The digits at the start of a text are its longest start of digits. -/
theorem isLongestStart_digits (cs : List Char) :
    IsLongestStart (fun start => ∀ c ∈ start, isDecimal c = true) (leadingDigits cs) cs where
  isPrefix := leadingDigits_isPrefix cs
  isKind := List.all_eq_true.mp List.all_takeWhile
  length_le := by
    rintro other ⟨rest, rfl⟩ hother
    rw [leadingDigits, List.takeWhile_append_of_pos hother, List.length_append]
    exact Nat.le_add_right _ _

/-- The whole part of a number is an integer. -/
theorem isInteger_take (h : leadingDigits (cs.drop (signLength cs)) ≠ []) :
    IsInteger (cs.take (wholeLength cs)) := by
  refine ⟨_, _, isSign_take cs, isDigits_leadingDigits h, ?_⟩
  rw [wholeLength, List.take_add, take_leadingDigits]

/-- No start of the text that is an integer is longer than the whole part. -/
theorem length_le_wholeLength {other : List Char} (hother : other <+: cs) (h : IsInteger other) :
    other.length ≤ wholeLength cs := by
  obtain ⟨sign, digits, hsign, hdigits, rfl⟩ := h
  obtain ⟨rest, rfl⟩ := hother
  have hlonger := length_le_leadingDigits hdigits rest
  rw [List.append_assoc, List.length_append, wholeLength, signLength_append_digits hsign hdigits,
    List.drop_left]
  omega

/-- A sign and the digits behind it are the longest start that is an integer. -/
theorem isLongestStart_integer (h : leadingDigits (cs.drop (signLength cs)) ≠ []) :
    IsLongestStart IsInteger (cs.take (wholeLength cs)) cs :=
  isLongestStart_take (wholeLength_le cs) (isInteger_take h) fun _ => length_le_wholeLength

/-- A text starts with an integer just when there are digits behind its sign. -/
theorem exists_integer_iff :
    (∃ start, start <+: cs ∧ IsInteger start) ↔ leadingDigits (cs.drop (signLength cs)) ≠ [] := by
  constructor
  · rintro ⟨start, ⟨rest, rfl⟩, sign, digits, hsign, hdigits, rfl⟩
    rw [List.append_assoc, signLength_append_digits hsign hdigits, List.drop_left]
    exact leadingDigits_append_ne_nil hdigits rest
  · intro h
    have hlongest := isLongestStart_integer h
    exact ⟨_, hlongest.isPrefix, hlongest.isKind⟩

/-- The value of the longest integer is computed from the sign and the digits. -/
theorem integerValue_take (h : leadingDigits (cs.drop (signLength cs)) ≠ []) :
    integerValue (cs.take (wholeLength cs)) =
      signFactor cs * readDigits (leadingDigits (cs.drop (signLength cs))) := by
  have hsign := isSign_take cs
  have hdigits := isDigits_leadingDigits h
  have hsplit : cs.take (wholeLength cs) =
      cs.take (signLength cs) ++ leadingDigits (cs.drop (signLength cs)) := by
    rw [wholeLength, List.take_add, take_leadingDigits]
  have hfactor := signFactor_append hsign hdigits (cs.drop (wholeLength cs))
  rw [← List.append_assoc, ← hsplit, List.take_append_drop] at hfactor
  rw [hsplit, integerValue_append hsign hdigits, ← hfactor, readDigits_eq_decimalValue]

end TextGrammar.Text
