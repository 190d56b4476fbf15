import TextGrammar.Parser.Number

/-!
# Decimal numerals

The shape of a decimal number as a text, and how far a number goes at the start of a text.
What goes that far has the shape, and every text of the shape denotes a number.
-/

namespace TextGrammar.Text

/-- A sign, or nothing. -/
def IsSign (cs : List Char) : Prop := cs = [] ∨ cs = ['+'] ∨ cs = ['-']

/-- One or more decimal digits. -/
def IsDigits (cs : List Char) : Prop := cs ≠ [] ∧ ∀ c ∈ cs, isDecimal c = true

/-- A point with digits behind it, or nothing. -/
def IsFraction (cs : List Char) : Prop := cs = [] ∨ ∃ digits, IsDigits digits ∧ cs = '.' :: digits

/-- An exponent marker, maybe a sign, and digits; or nothing. -/
def IsExponent (cs : List Char) : Prop :=
  cs = [] ∨ ∃ marker sign digits, marker ∈ Parser.exponentMarkers ∧ IsSign sign ∧
    IsDigits digits ∧ cs = marker :: (sign ++ digits)

/-- A decimal numeral: digits, with a sign, a fraction and an exponent if they are there. -/
def IsNumeral (cs : List Char) : Prop :=
  ∃ sign whole fraction exponent, IsSign sign ∧ IsDigits whole ∧ IsFraction fraction ∧
    IsExponent exponent ∧ cs = sign ++ (whole ++ (fraction ++ exponent))

/-- The digits at the start of a text. -/
def leadingDigits (cs : List Char) : List Char := cs.takeWhile isDecimal

/-- How many characters of a text are its sign. -/
def signLength : List Char → Nat
  | [] => 0
  | c :: _ => if Parser.signs.contains c then 1 else 0

/-- The factor that the sign of a text stands for. -/
def signFactor : List Char → Int
  | '-' :: _ => -1
  | _ => 1

/-- How many characters of a text are a point with digits behind it. -/
def fractionLength : List Char → Nat
  | '.' :: cs => if leadingDigits cs = [] then 0 else (leadingDigits cs).length + 1
  | _ => 0

/-- How many characters of a text are an exponent; none if the text goes on with a marker that has
no digits. -/
def exponentLength? : List Char → Option Nat
  | [] => some 0
  | c :: cs =>
    if Parser.exponentMarkers.contains c then
      let digits := leadingDigits (cs.drop (signLength cs))
      if digits = [] then none else some (1 + (signLength cs + digits.length))
    else some 0

/-- How many characters of a text are a sign and digits. -/
def wholeLength (cs : List Char) : Nat :=
  signLength cs + (leadingDigits (cs.drop (signLength cs))).length

/-- How many characters of a text are a sign, digits and a fraction. -/
def decimalLength (cs : List Char) : Nat :=
  wholeLength cs + fractionLength (cs.drop (wholeLength cs))

/-- How many characters of a text are a decimal numeral; none if the text does not start with one
or goes on with a marker that has no digits. -/
def numeralLength? (cs : List Char) : Option Nat :=
  if leadingDigits (cs.drop (signLength cs)) = [] then none
  else (exponentLength? (cs.drop (decimalLength cs))).map (decimalLength cs + ·)

/-! ### Where the parts end -/

/-- The leading digits stand at the start. -/
theorem leadingDigits_isPrefix (cs : List Char) : leadingDigits cs <+: cs :=
  List.takeWhile_prefix isDecimal

/-- The digits at the start are as many characters as they are. -/
theorem take_leadingDigits (cs : List Char) :
    cs.take (leadingDigits cs).length = leadingDigits cs :=
  (List.prefix_iff_eq_take.mp (leadingDigits_isPrefix cs)).symm

/-- Leading digits are digits if there are some. -/
theorem isDigits_leadingDigits {cs : List Char} (h : leadingDigits cs ≠ []) :
    IsDigits (leadingDigits cs) :=
  ⟨h, fun _ hc => List.all_eq_true.mp List.all_takeWhile _ hc⟩

/-- Digits in front of a text that starts with none are its leading digits. -/
theorem leadingDigits_append {digits rest : List Char} (h : IsDigits digits)
    (hrest : leadingDigits rest = []) : leadingDigits (digits ++ rest) = digits := by
  rw [leadingDigits, List.takeWhile_append_of_pos h.2]
  exact (congrArg (digits ++ ·) hrest).trans (List.append_nil _)

/-- Behind digits the rest begins where they end. -/
theorem dropWhile_append {digits rest : List Char} (h : IsDigits digits)
    (hrest : leadingDigits rest = []) : (digits ++ rest).dropWhile isDecimal = rest := by
  rw [List.dropWhile_append_of_pos h.2]
  have hsplit := List.takeWhile_append_dropWhile (p := isDecimal) (l := rest)
  rw [leadingDigits] at hrest
  rwa [hrest, List.nil_append] at hsplit

/-- A number is written with digits. -/
theorem isDigits_writeNat (n : Nat) : IsDigits (writeNat n).toList := by
  rw [writeNat, String.toList_ofList]
  refine ⟨Nat.toDigits_ne_nil, fun c hc => ?_⟩
  have hdigit := Nat.isDigit_of_mem_toDigits (by decide) (by decide) hc
  rw [isDecimal_iff]
  simpa [Char.isDigit, UInt32.le_iff_toNat_le] using hdigit

/-- The digits that a number is written with denote the number. -/
theorem readDigits_writeNat (n : Nat) : readDigits (writeNat n).toList = n := by
  rw [writeNat, String.toList_ofList]
  induction n using Nat.strongRecOn with
  | ind n ih =>
    rw [Nat.toDigits_eq_if (by decide)]
    split
    · next hlt =>
      simpa [readDigits, fromDigits, digitValue] using Nat.toNat_digitChar_sub_48_of_lt_ten hlt
    · next hge =>
      have hvalue : digitValue (Nat.digitChar (n % 10)) = n % 10 :=
        Nat.toNat_digitChar_sub_48_of_lt_ten (Nat.mod_lt n (by decide))
      have hhigher := ih (n / 10) (by omega)
      rw [readDigits] at hhigher
      rw [readDigits, List.map_append, List.map_singleton, fromDigits_append_singleton, hhigher,
        hvalue]
      omega

/-- What is read as a sign is one, or nothing. -/
theorem isSign_take (cs : List Char) : IsSign (cs.take (signLength cs)) := by
  cases cs with
  | nil => exact .inl rfl
  | cons c cs =>
    by_cases h : Parser.signs.contains c = true
    · simp only [signLength, if_pos h, List.take_succ_cons, List.take_zero]
      simp only [Parser.signs, List.contains_eq_mem, List.mem_cons, List.not_mem_nil, or_false,
        decide_eq_true_eq] at h
      rcases h with rfl | rfl
      · exact .inr (.inl rfl)
      · exact .inr (.inr rfl)
    · exact .inl (by simp only [signLength, if_neg h, List.take_zero])

/-- A sign is no longer than the text. -/
theorem signLength_le (cs : List Char) : signLength cs ≤ cs.length := by
  cases cs with
  | nil => exact Nat.le_refl _
  | cons c cs =>
    simp only [signLength, List.length_cons]
    split <;> omega

/-- What is read as a fraction is one, or nothing. -/
theorem isFraction_take (cs : List Char) : IsFraction (cs.take (fractionLength cs)) := by
  unfold fractionLength
  split
  · next cs =>
    split
    · exact .inl rfl
    · next h =>
      refine .inr ⟨leadingDigits cs, isDigits_leadingDigits h, ?_⟩
      rw [List.take_succ_cons, take_leadingDigits]
  · exact .inl rfl

/-- A fraction is no longer than the text. -/
theorem fractionLength_le (cs : List Char) : fractionLength cs ≤ cs.length := by
  unfold fractionLength
  split
  · next cs =>
    have := (leadingDigits_isPrefix cs).length_le
    rw [List.length_cons]
    split <;> omega
  · exact Nat.zero_le _

/-- What is read as an exponent is one, or nothing. -/
theorem isExponent_take {cs : List Char} {length : Nat} (h : exponentLength? cs = some length) :
    IsExponent (cs.take length) := by
  cases cs with
  | nil => exact .inl List.take_nil
  | cons c cs =>
    simp only [exponentLength?] at h
    split at h
    · next hmarker =>
      split at h
      · cases h
      · next hdigits =>
        obtain rfl := Option.some.inj h
        refine .inr ⟨c, cs.take (signLength cs), leadingDigits (cs.drop (signLength cs)),
          List.contains_iff_mem.mp hmarker, isSign_take cs, isDigits_leadingDigits hdigits, ?_⟩
        rw [Nat.add_comm 1, List.take_succ_cons, List.take_add, take_leadingDigits]
    · obtain rfl := Option.some.inj h
      exact .inl List.take_zero

/-- An exponent is no longer than the text. -/
theorem exponentLength?_le {cs : List Char} {length : Nat} (h : exponentLength? cs = some length) :
    length ≤ cs.length := by
  cases cs with
  | nil =>
    obtain rfl := Option.some.inj h
    exact Nat.le_refl _
  | cons c cs =>
    simp only [exponentLength?] at h
    split at h
    · split at h
      · cases h
      · obtain rfl := Option.some.inj h
        have hsign := signLength_le cs
        have hdigits := (leadingDigits_isPrefix (cs.drop (signLength cs))).length_le
        rw [List.length_drop] at hdigits
        rw [List.length_cons]
        omega
    · obtain rfl := Option.some.inj h
      exact Nat.zero_le _

/-- The whole part of a number is no longer than the text. -/
theorem wholeLength_le (cs : List Char) : wholeLength cs ≤ cs.length := by
  have hsign := signLength_le cs
  have hwhole := (leadingDigits_isPrefix (cs.drop (signLength cs))).length_le
  rw [List.length_drop] at hwhole
  unfold wholeLength
  omega

/-- A number without an exponent is no longer than the text. -/
theorem decimalLength_le (cs : List Char) : decimalLength cs ≤ cs.length := by
  have hwhole := wholeLength_le cs
  have hfraction := fractionLength_le (cs.drop (wholeLength cs))
  rw [List.length_drop] at hfraction
  unfold decimalLength
  omega

/-- A number is no longer than the text. -/
theorem numeralLength?_le {cs : List Char} {length : Nat} (h : numeralLength? cs = some length) :
    length ≤ cs.length := by
  unfold numeralLength? at h
  split at h
  · cases h
  · obtain ⟨exponent, hexponent, rfl⟩ := Option.map_eq_some_iff.mp h
    have hdecimal := decimalLength_le cs
    have hrest := exponentLength?_le hexponent
    rw [List.length_drop] at hrest
    omega

/-- A numeral goes as far as its exponent does. -/
theorem numeralLength?_of_exponent {cs : List Char} {length : Nat}
    (hdigits : leadingDigits (cs.drop (signLength cs)) ≠ [])
    (hexponent : exponentLength? (cs.drop (decimalLength cs)) = some length) :
    numeralLength? cs = some (decimalLength cs + length) := by
  rw [numeralLength?, if_neg hdigits, hexponent, Option.map_some]

/-- What goes as far as a numeral does is one. -/
theorem isNumeral_take {cs : List Char} {length : Nat} (h : numeralLength? cs = some length) :
    IsNumeral (cs.take length) := by
  unfold numeralLength? at h
  split at h
  · cases h
  · next hwhole =>
    obtain ⟨exponent, hexponent, rfl⟩ := Option.map_eq_some_iff.mp h
    refine ⟨_, _, _, _, isSign_take cs, isDigits_leadingDigits hwhole,
      isFraction_take (cs.drop (wholeLength cs)), isExponent_take hexponent, ?_⟩
    rw [List.take_add, decimalLength, List.take_add, wholeLength, List.take_add,
      take_leadingDigits, List.append_assoc, List.append_assoc]

/-! ### Numerals denote numbers -/

/-- Digits start with a digit. -/
theorem IsDigits.exists_cons {digits : List Char} (h : IsDigits digits) :
    ∃ c cs, digits = c :: cs ∧ isDecimal c = true := by
  cases digits with
  | nil => exact absurd rfl h.1
  | cons c cs => exact ⟨c, cs, rfl, h.2 c List.mem_cons_self⟩

/-- What follows a sign is not taken for a sign itself. -/
theorem splitSign_append {sign digits : List Char} (hsign : IsSign sign)
    (hdigits : IsDigits digits) (rest : List Char) :
    (Binary64.splitSign (sign ++ (digits ++ rest))).2 = digits ++ rest := by
  obtain ⟨c, cs, rfl, hc⟩ := hdigits.exists_cons
  rcases hsign with rfl | rfl | rfl
  · have hminus : c ≠ '-' := by rintro rfl; exact absurd hc (by decide)
    have hplus : c ≠ '+' := by rintro rfl; exact absurd hc (by decide)
    simp [Binary64.splitSign, hminus, hplus]
  · rfl
  · rfl

/-- Neither a fraction nor an exponent starts with a digit. -/
theorem IsExponent.leadingDigits_eq_nil {exponent : List Char} (h : IsExponent exponent) :
    leadingDigits exponent = [] := by
  rcases h with rfl | ⟨marker, sign, digits, hmarker, _, _, rfl⟩
  · rfl
  · simp only [Parser.exponentMarkers, List.mem_cons, List.not_mem_nil, or_false] at hmarker
    rcases hmarker with rfl | rfl <;> rfl

/-- A fraction and an exponent do not start with a digit. -/
theorem IsFraction.leadingDigits_append_eq_nil {fraction exponent : List Char}
    (h : IsFraction fraction) (hexponent : IsExponent exponent) :
    leadingDigits (fraction ++ exponent) = [] := by
  rcases h with rfl | ⟨digits, _, rfl⟩
  · exact hexponent.leadingDigits_eq_nil
  · rfl

/-- A fraction is split off from an exponent. -/
theorem splitFraction_append {fraction exponent : List Char} (h : IsFraction fraction)
    (hexponent : IsExponent exponent) :
    ∃ digits, Binary64.splitFraction (fraction ++ exponent) = some (digits, exponent) := by
  rcases h with rfl | ⟨digits, hdigits, rfl⟩
  · refine ⟨[], ?_⟩
    rcases hexponent with rfl | ⟨marker, sign, digits, hmarker, _, _, rfl⟩
    · rfl
    · simp only [Parser.exponentMarkers, List.mem_cons, List.not_mem_nil, or_false] at hmarker
      rcases hmarker with rfl | rfl <;> rfl
  · refine ⟨digits, ?_⟩
    have htake := leadingDigits_append hdigits hexponent.leadingDigits_eq_nil
    have hdrop := dropWhile_append hdigits hexponent.leadingDigits_eq_nil
    rw [leadingDigits] at htake
    obtain ⟨c, cs, rfl, _⟩ := hdigits.exists_cons
    simp only [List.cons_append] at htake hdrop
    simp only [List.cons_append, Binary64.splitFraction, htake, hdrop, List.isEmpty_cons,
      Bool.false_eq_true, if_false]

/-- An exponent has a value. -/
theorem readExponent_isSome {exponent : List Char} (h : IsExponent exponent) :
    ∃ value, Binary64.readExponent exponent = some value := by
  rcases h with rfl | ⟨marker, sign, digits, hmarker, hsign, hdigits, rfl⟩
  · exact ⟨0, rfl⟩
  · have hsplit := splitSign_append hsign hdigits []
    rw [List.append_nil] at hsplit
    have hcond : (marker = 'e' ∨ marker = 'E') ∧ (!digits.isEmpty) = true ∧
        digits.all isDecimal = true := by
      refine ⟨?_, ?_, List.all_eq_true.mpr hdigits.2⟩
      · simpa [Parser.exponentMarkers, or_comm] using hmarker
      · simpa using hdigits.1
    simp only [Binary64.readExponent, hsplit]
    exact ⟨_, if_pos hcond⟩

/-- Every decimal numeral denotes a number. -/
theorem IsNumeral.read?_isSome {cs : List Char} (h : IsNumeral cs) :
    ∃ x, Binary64.read? cs = some x := by
  obtain ⟨sign, whole, fraction, exponent, hsign, hwhole, hfraction, hexponent, rfl⟩ := h
  have hsplit := splitSign_append hsign hwhole (fraction ++ exponent)
  have hnone := hfraction.leadingDigits_append_eq_nil hexponent
  have htake := leadingDigits_append hwhole hnone
  have hdrop := dropWhile_append hwhole hnone
  rw [leadingDigits] at htake
  obtain ⟨digits, hdigits⟩ := splitFraction_append hfraction hexponent
  obtain ⟨value, hvalue⟩ := readExponent_isSome hexponent
  have hempty : ¬whole.isEmpty = true := by simpa using hwhole.1
  simp only [Binary64.read?, hsplit, htake, hdrop, if_neg hempty, hdigits, Option.bind_eq_bind,
    Option.bind_some, hvalue]
  exact ⟨_, rfl⟩

end TextGrammar.Text
