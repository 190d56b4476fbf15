import TextGrammar.Proofs.Text.Numerals

/-!
# The longest start of a kind

How far a sign, digits, a fraction and an exponent go at the start of a text is as far as
anything of their shape goes there. So the length that is computed part by part is that of
the longest start of the text that is a numeral, as long as an exponent marker has digits.
-/

namespace TextGrammar.Text

variable {kind : List Char → Prop} {cs sign whole digits fraction rest later : List Char}
  {marker : Char}

/-- A start of a text that is of a kind, and no other one of that kind is longer. -/
structure IsLongestStart (kind : List Char → Prop) (start cs : List Char) : Prop where
  isPrefix : start <+: cs
  isKind : kind start
  length_le : ∀ other, other <+: cs → kind other → other.length ≤ start.length

/-- A sign, digits and a fraction; the sign and the fraction may be missing. -/
def IsPlainDecimal (cs : List Char) : Prop :=
  ∃ sign whole fraction, IsSign sign ∧ IsDigits whole ∧ IsFraction fraction ∧
    cs = sign ++ (whole ++ fraction)

/-- A text starts with a digit, or with a sign and a digit. -/
def OpensNumber (cs : List Char) : Prop :=
  ∃ sign c, IsSign sign ∧ isDecimal c = true ∧ sign ++ [c] <+: cs

/-- A text starts with an exponent marker, and there are no digits behind the marker. -/
def OpensNoExponent (cs : List Char) : Prop :=
  ∃ marker later, marker ∈ Parser.exponentMarkers ∧ cs = marker :: later ∧ ¬OpensNumber later

/-- There is one longest start of a kind at most. -/
theorem IsLongestStart.unique {start other : List Char} (h : IsLongestStart kind start cs)
    (hother : IsLongestStart kind other cs) : start = other := by
  have hle := hother.length_le start h.isPrefix h.isKind
  have hge := h.length_le other hother.isPrefix hother.isKind
  have hprefix := List.prefix_of_prefix_length_le h.isPrefix hother.isPrefix hle
  exact hprefix.eq_of_length (Nat.le_antisymm hle hge)

/-- What goes as far as anything of its kind is the longest start. -/
theorem isLongestStart_take {length : Nat} (hle : length ≤ cs.length)
    (hkind : kind (cs.take length))
    (hmax : ∀ other, other <+: cs → kind other → other.length ≤ length) :
    IsLongestStart kind (cs.take length) cs where
  isPrefix := List.take_prefix length cs
  isKind := hkind
  length_le other hother hkind := by
    rw [List.length_take_of_le hle]
    exact hmax other hother hkind

/-! ### Signs and digits -/

/-- Digits at the start are among the leading ones. -/
theorem length_le_leadingDigits (h : IsDigits digits) (rest : List Char) :
    digits.length ≤ (leadingDigits (digits ++ rest)).length := by
  rw [leadingDigits, List.takeWhile_append_of_pos h.2, List.length_append]
  exact Nat.le_add_right _ _

/-- Where digits stand in front, there are leading digits. -/
theorem leadingDigits_append_ne_nil (h : IsDigits digits) (rest : List Char) :
    leadingDigits (digits ++ rest) ≠ [] := by
  have hlonger := length_le_leadingDigits h rest
  have hsome := List.length_pos_iff.mpr h.1
  exact List.length_pos_iff.mp (by omega)

/-- A sign in front of a digit is as long as the sign at the start. -/
theorem signLength_append (hsign : IsSign sign) {c : Char} (hc : isDecimal c = true)
    (rest : List Char) : signLength (sign ++ c :: rest) = sign.length := by
  rcases hsign with rfl | rfl | rfl
  · have hnone : ¬Parser.signs.contains c = true := by
      intro hcontains
      simp only [Parser.signs, List.contains_eq_mem, List.mem_cons, List.not_mem_nil, or_false,
        decide_eq_true_eq] at hcontains
      rcases hcontains with rfl | rfl <;> exact absurd hc (by decide)
    exact if_neg hnone
  · rfl
  · rfl

/-- A sign in front of digits is as long as the sign at the start. -/
theorem signLength_append_digits (hsign : IsSign sign) (hdigits : IsDigits digits)
    (rest : List Char) : signLength (sign ++ (digits ++ rest)) = sign.length := by
  obtain ⟨c, cs, rfl, hc⟩ := hdigits.exists_cons
  exact signLength_append hsign hc (cs ++ rest)

/-- No sign at the start is longer than the one that is read. -/
theorem length_le_signLength (hsign : IsSign sign) (h : sign <+: cs) :
    sign.length ≤ signLength cs := by
  obtain ⟨rest, rfl⟩ := h
  rcases hsign with rfl | rfl | rfl
  · exact Nat.zero_le _
  · exact Nat.le_refl _
  · exact Nat.le_refl _

/-- The sign of a text is the longest one. -/
theorem isLongestStart_sign (cs : List Char) : IsLongestStart IsSign (cs.take (signLength cs)) cs :=
  isLongestStart_take (signLength_le cs) (isSign_take cs) fun _ hother hsign =>
    length_le_signLength hsign hother

/-- A number opens just where a digit is behind the sign. -/
theorem opensNumber_iff : OpensNumber cs ↔ leadingDigits (cs.drop (signLength cs)) ≠ [] := by
  constructor
  · rintro ⟨sign, c, hsign, hc, rest, rfl⟩
    rw [List.append_assoc, List.singleton_append, signLength_append hsign hc, List.drop_left,
      leadingDigits, List.takeWhile_cons_of_pos hc]
    exact List.cons_ne_nil _ _
  · intro h
    obtain ⟨c, digits, hdigits, hc⟩ := (isDigits_leadingDigits h).exists_cons
    have hdigit : [c] <+: cs.drop (signLength cs) :=
      .trans ⟨digits, hdigits.symm⟩ (leadingDigits_isPrefix _)
    have hopens := (List.prefix_append_right_inj (cs.take (signLength cs))).mpr hdigit
    rw [List.take_append_drop] at hopens
    exact ⟨cs.take (signLength cs), c, isSign_take cs, hc, hopens⟩

/-! ### Decimals without exponents -/

/-- A number without an exponent is as long as its parts. -/
theorem decimalLength_append (hsign : IsSign sign) (hwhole : IsDigits whole)
    (hrest : leadingDigits rest = []) :
    decimalLength (sign ++ (whole ++ rest)) =
      sign.length + whole.length + fractionLength rest := by
  have hlength : wholeLength (sign ++ (whole ++ rest)) = (sign ++ whole).length := by
    rw [wholeLength, signLength_append_digits hsign hwhole, List.drop_left,
      leadingDigits_append hwhole hrest, List.length_append]
  rw [decimalLength, hlength, ← List.append_assoc, List.drop_left, List.length_append]

/-- What is read before the exponent is a number without one. -/
theorem isPlainDecimal_take (h : leadingDigits (cs.drop (signLength cs)) ≠ []) :
    IsPlainDecimal (cs.take (decimalLength cs)) := by
  refine ⟨_, _, _, isSign_take cs, isDigits_leadingDigits h,
    isFraction_take (cs.drop (wholeLength cs)), ?_⟩
  rw [decimalLength, List.take_add, wholeLength, List.take_add, take_leadingDigits,
    List.append_assoc]

/-- No start of the text that is a number without an exponent is longer than what is read before it.
-/
theorem length_le_decimalLength {other : List Char} (hother : other <+: cs)
    (h : IsPlainDecimal other) : other.length ≤ decimalLength cs := by
  obtain ⟨sign, whole, fraction, hsign, hwhole, hfraction, rfl⟩ := h
  obtain ⟨rest, rfl⟩ := hother
  rw [List.append_assoc, List.append_assoc, List.length_append, List.length_append]
  rcases hfraction with rfl | ⟨digits, hdigits, rfl⟩
  · -- more digits or a fraction may follow
    have hlonger := length_le_leadingDigits hwhole rest
    rw [decimalLength, wholeLength, List.nil_append, signLength_append_digits hsign hwhole,
      List.drop_left, List.length_nil]
    omega
  · have hlonger := length_le_leadingDigits hdigits rest
    rw [decimalLength_append hsign hwhole rfl, List.cons_append, fractionLength,
      if_neg (leadingDigits_append_ne_nil hdigits rest), List.length_cons]
    omega

/-- A sign, digits and a fraction are the longest start of their kind. -/
theorem isLongestStart_decimal (h : OpensNumber cs) :
    IsLongestStart IsPlainDecimal (cs.take (decimalLength cs)) cs :=
  isLongestStart_take (decimalLength_le cs) (isPlainDecimal_take (opensNumber_iff.mp h))
    fun _ => length_le_decimalLength

/-! ### Numerals -/

/-- An exponent fails just where its marker opens none. -/
theorem exponentLength?_eq_none_iff : exponentLength? cs = none ↔ OpensNoExponent cs := by
  cases cs with
  | nil => simp [exponentLength?, OpensNoExponent]
  | cons c cs =>
    have hopens : OpensNoExponent (c :: cs) ↔ c ∈ Parser.exponentMarkers ∧ ¬OpensNumber cs := by
      constructor
      · rintro ⟨marker, later, hmarker, heq, hlater⟩
        cases heq
        exact ⟨hmarker, hlater⟩
      · rintro ⟨hmarker, hlater⟩
        exact ⟨c, cs, hmarker, rfl, hlater⟩
    rw [hopens, opensNumber_iff, Classical.not_not, exponentLength?]
    by_cases hmarker : c ∈ Parser.exponentMarkers
    · simp [hmarker]
    · simp [hmarker]

/-- In a fraction in front of an exponent no digit comes first. -/
theorem leadingDigits_fraction_append (h : IsFraction fraction)
    (hmarker : marker ∈ Parser.exponentMarkers) (later : List Char) :
    leadingDigits (fraction ++ marker :: later) = [] := by
  simp only [Parser.exponentMarkers, List.mem_cons, List.not_mem_nil, or_false] at hmarker
  rcases h with rfl | ⟨digits, hdigits, rfl⟩
  · rcases hmarker with rfl | rfl <;> rfl
  · rfl

/-- A fraction in front of an exponent is read as a whole. -/
theorem fractionLength_append (h : IsFraction fraction) (hmarker : marker ∈ Parser.exponentMarkers)
    (later : List Char) : fractionLength (fraction ++ marker :: later) = fraction.length := by
  have hnone : leadingDigits (marker :: later) = [] ∧ fractionLength (marker :: later) = 0 := by
    simp only [Parser.exponentMarkers, List.mem_cons, List.not_mem_nil, or_false] at hmarker
    rcases hmarker with rfl | rfl <;> exact ⟨rfl, rfl⟩
  rcases h with rfl | ⟨digits, hdigits, rfl⟩
  · exact hnone.2
  · rw [List.cons_append, fractionLength, leadingDigits_append hdigits hnone.1,
      if_neg hdigits.1, List.length_cons]

/-- An exponent marker ends a decimal. -/
theorem IsPlainDecimal.decimalLength_append {decimal : List Char} (h : IsPlainDecimal decimal)
    (hmarker : marker ∈ Parser.exponentMarkers) (later : List Char) :
    decimalLength (decimal ++ marker :: later) = decimal.length := by
  obtain ⟨sign, whole, fraction, hsign, hwhole, hfraction, rfl⟩ := h
  have hnone := leadingDigits_fraction_append hfraction hmarker later
  simp only [List.append_assoc]
  rw [Text.decimalLength_append hsign hwhole hnone, fractionLength_append hfraction hmarker]
  simp only [List.length_append]
  omega

/-- An exponent is read with its marker, its sign and all its digits. -/
theorem exponentLength?_append (hmarker : marker ∈ Parser.exponentMarkers) (hsign : IsSign sign)
    (hdigits : IsDigits digits) (rest : List Char) :
    exponentLength? (marker :: (sign ++ (digits ++ rest))) =
      some (1 + (sign.length + (leadingDigits (digits ++ rest)).length)) := by
  rw [exponentLength?, if_pos (List.contains_iff_mem.mpr hmarker),
    signLength_append_digits hsign hdigits, List.drop_left]
  exact if_neg (leadingDigits_append_ne_nil hdigits rest)

/-- No start of the text that is a number is longer than what is read. -/
theorem length_le_numeralLength {other : List Char} {length : Nat}
    (h : numeralLength? cs = some length) (hother : other <+: cs) (hnumeral : IsNumeral other) :
    other.length ≤ length := by
  unfold numeralLength? at h
  split at h
  · cases h
  · obtain ⟨exponentLength, hexponent, rfl⟩ := Option.map_eq_some_iff.mp h
    obtain ⟨sign, whole, fraction, exponent, hsign, hwhole, hfraction, hshape, rfl⟩ := hnumeral
    rcases hshape with rfl | ⟨marker, exponentSign, digits, hmarker, hsign', hdigits, rfl⟩
    · rw [List.append_nil] at hother ⊢
      have hdecimal :=
        length_le_decimalLength hother ⟨sign, whole, fraction, hsign, hwhole, hfraction, rfl⟩
      omega
    · obtain ⟨rest, rfl⟩ := hother
      have hdecimal : IsPlainDecimal (sign ++ (whole ++ fraction)) :=
        ⟨sign, whole, fraction, hsign, hwhole, hfraction, rfl⟩
      have hsplit : sign ++ (whole ++ (fraction ++ marker :: (exponentSign ++ digits))) ++ rest =
          sign ++ (whole ++ fraction) ++ marker :: (exponentSign ++ (digits ++ rest)) := by simp
      have hlonger := length_le_leadingDigits hdigits rest
      rw [hsplit, hdecimal.decimalLength_append hmarker] at hexponent ⊢
      rw [List.drop_left, exponentLength?_append hmarker hsign' hdigits] at hexponent
      cases hexponent
      simp only [List.length_append, List.length_cons]
      omega

/-- What goes as far as a numeral does is the longest one. -/
theorem isLongestStart_numeral {length : Nat} (h : numeralLength? cs = some length) :
    IsLongestStart IsNumeral (cs.take length) cs :=
  isLongestStart_take (numeralLength?_le h) (isNumeral_take h) fun _ => length_le_numeralLength h

example : numeralLength? "1.e5".toList = some 1 ∧ numeralLength? "1.5e+".toList = none := by decide

end TextGrammar.Text
