import TextGrammar.Proofs.Leaf.Reading
import TextGrammar.Proofs.Text.Numerals

/-!
# Reading numbers

Digits and signs are read as far as they go. The readings of numbers say which of them make
a number; no number is read in part. The text that a floating point number takes is a
numeral, so it always denotes a number.
-/

namespace TextGrammar

open Text

variable {α β : Type}

namespace Reading

/-- The digits of a number that fits a width. -/
def unsigned (width : Option Int) : Reading Nat := fun cs =>
  let digits := leadingDigits cs
  if digits ≠ [] ∧ Parser.fitsUnsigned width (readDigits digits) = true then
    some (readDigits digits, digits.length)
  else none

/-- A sign and the digits of a number; together they fit a width. -/
def signed (width : Option Int) : Reading Int := fun cs =>
  let digits := leadingDigits (cs.drop (signLength cs))
  if digits ≠ [] ∧ Parser.fitsSigned width (signFactor cs * readDigits digits) = true then
    some (signFactor cs * readDigits digits, wholeLength cs)
  else none

/-- A decimal numeral. -/
def float : Reading Binary64 := fun cs =>
  (numeralLength? cs).bind fun length =>
    (Binary64.read? (cs.take length)).map fun x => (x, length)

/-- An unsigned integer reads a character at least. -/
theorem consumes_unsigned (width : Option Int) : (unsigned width).Consumes := by
  intro cs value length hsome
  simp only [unsigned] at hsome
  split at hsome
  · next h =>
    cases hsome
    exact List.length_pos_iff.mpr h.1
  · cases hsome

/-- A signed integer reads a character at least. -/
theorem consumes_signed (width : Option Int) : (signed width).Consumes := by
  intro cs value length hsome
  simp only [signed] at hsome
  split at hsome
  · next h =>
    cases hsome
    exact Nat.add_pos_right _ (List.length_pos_iff.mpr h.1)
  · cases hsome

/-- A floating point number reads a character at least. -/
theorem consumes_float : float.Consumes := by
  intro cs value length hsome
  obtain ⟨length, hlength, hread⟩ := Option.bind_eq_some_iff.mp hsome
  obtain ⟨x, _, heq⟩ := Option.map_eq_some_iff.mp hread
  cases heq
  unfold numeralLength? at hlength
  split at hlength
  · cases hlength
  · next hdigits =>
    obtain ⟨exponent, _, rfl⟩ := Option.map_eq_some_iff.mp hlength
    have hwhole := List.length_pos_iff.mpr hdigits
    simp only [decimalLength, wholeLength]
    omega

end Reading

namespace Parser

/-! ### Digits and signs -/

/-- A character that is accepted is read and changed. -/
theorem map_charOf_of_accepts {accepts : Char → Bool} {s : Cursor} {c : Char} {cs : List Char}
    (f : Char → β) (expected : String) (hrest : s.rest = c :: cs) (hc : accepts c = true) :
    map f (charOf accepts expected) s = .matched (s.matchTo (f c) (s.skip 1)) := by
  rw [map, charOf_of_accepts hrest hc]
  rfl

/-- A repetition that must match fails like its first attempt. -/
theorem many1_of_failed {parser : Parser α} {s : Cursor} {e : Failure} (h : parser s = .failed e) :
    many1 parser s = .failed e := by
  rw [many1, h]
  rfl

/-- Repeating a class of characters reads all characters of the class. -/
theorem repeatFrom_charOf {accepts : Char → Bool} (expected : String) (f : Char → β)
    {attempts : Nat} {s : Cursor} (hattempts : s.remaining < attempts) :
    repeatFrom (map f (charOf accepts expected)) attempts s =
      .pure ((s.rest.takeWhile accepts).map f, s.skip (s.rest.takeWhile accepts).length) := by
  induction attempts generalizing s with
  | zero => omega
  | succ attempts ih =>
    by_cases hempty : s.rest.takeWhile accepts = []
    · obtain ⟨e, _, _, hfailed⟩ := charOf_failed expected hempty
      rw [repeatFrom, map_of_failed f hfailed, hempty, List.map_nil, List.length_nil,
        Cursor.skip_zero]
      rfl
    · cases hrest : s.rest with
      | nil => simp [hrest] at hempty
      | cons c cs =>
        have hc : accepts c = true := Cursor.accepts_of_rest hrest hempty
        have hremaining := Cursor.remaining_of_rest hrest
        have hpos : (s.skip 1).pos = s.pos + 1 := Cursor.pos_skip (by omega)
        have hlater := Cursor.rest_skip_one hrest
        have hless : (s.skip 1).remaining < attempts := by
          rw [← Cursor.length_rest, hlater]
          omega
        have hne : ¬(s.skip 1).pos = s.pos := by omega
        rw [repeatFrom, map_charOf_of_accepts f expected hrest hc]
        change (if (s.skip 1).pos = s.pos then _ else _) = _
        rw [if_neg hne]
        change (repeatFrom _ attempts (s.skip 1)).bind _ = _
        rw [ih hless, hlater, List.takeWhile_cons_of_pos hc, List.length_cons, List.map_cons,
          Cursor.skip_skip, Nat.add_comm 1]
        rfl

/-- All the leading digits are read as their values. -/
theorem digits_of_ne_nil {s : Cursor} (h : leadingDigits s.rest ≠ []) :
    digits s = .matched (s.matchTo ((leadingDigits s.rest).map digitValue)
      (s.skip (leadingDigits s.rest).length)) := by
  cases hrest : s.rest with
  | nil => simp [hrest, leadingDigits] at h
  | cons c cs =>
    have hc : isDecimal c = true := Cursor.accepts_of_rest hrest h
    have hlater := Cursor.rest_skip_one hrest
    have hdigit : digit s = .matched (s.matchTo (digitValue c) (s.skip 1)) :=
      map_charOf_of_accepts digitValue "a digit" hrest hc
    rw [digits, many1, hdigit]
    change (repeatFrom digit (attemptsIn (s.skip 1)) (s.skip 1)).bind _ = _
    rw [digit, repeatFrom_charOf _ _ (attemptsIn_enough _), hlater, leadingDigits,
      List.takeWhile_cons_of_pos hc, List.map_cons, List.length_cons, Cursor.skip_skip,
      Nat.add_comm 1]
    rfl

/-- Without a leading digit there are no digits. -/
theorem digits_of_nil {s : Cursor} (h : leadingDigits s.rest = []) :
    digits s = .failed (s.unexpected "a digit") :=
  many1_of_failed (map_of_failed digitValue (charOf_of_takeWhile_eq_nil h))

/-- All the leading digits are read if there are some. -/
theorem someDigits_of_ne_nil {s : Cursor} (h : leadingDigits s.rest ≠ []) :
    someDigits s = .matched (s.matchTo ((leadingDigits s.rest).map digitValue)
      (s.skip (leadingDigits s.rest).length)) := by
  rw [someDigits, digits_of_ne_nil h]
  rfl

/-- Without digits there is no number, which the failure of the first digit has caused. -/
theorem someDigits_of_nil {s : Cursor} (h : leadingDigits s.rest = []) :
    someDigits s = .failed (.noNumber s (s.unexpected "a digit")) := by
  rw [someDigits, digits_of_nil h]
  rfl

/-- A missing number is placed well, with its cause. -/
theorem placed_noNumber (s : Cursor) : (Failure.noNumber s (s.unexpected "a digit")).Placed :=
  .noNumber (s.cursor_unexpected _) (placed_unexpected s _)

/-- A sign is read if there is one. -/
theorem optionalSign_eq (s : Cursor) :
    optionalSign s = .matched (s.matchTo (signFactor s.rest) (s.skip (signLength s.rest))) := by
  cases hrest : s.rest with
  | nil =>
    rw [optionalSign, optional, sign, map_of_failed _ (charOf_of_nil hrest), signLength,
      Cursor.skip_zero]
    rfl
  | cons c cs =>
    cases hc : signs.contains c with
    | false =>
      have hfactor : signFactor (c :: cs) = 1 := by
        unfold signFactor
        split
        · next heq =>
          cases heq
          cases hc
        · rfl
      rw [optionalSign, optional, sign, map_of_failed _ (charOf_of_rejects hrest hc), hfactor]
      simp only [signLength, hc, Bool.false_eq_true, if_false, Cursor.skip_zero]
      rfl
    | true =>
      have hfactor : signFactor (c :: cs) = if c = '-' then -1 else 1 := by
        split
        · next heq => rw [heq]; rfl
        · next hne =>
          unfold signFactor
          split
          · next heq =>
            cases heq
            exact absurd rfl hne
          · rfl
      rw [optionalSign, optional, sign, map_charOf_of_accepts _ _ hrest hc, hfactor]
      simp only [signLength, hc, if_true]
      rfl

/-! ### Numbers -/

/-- Without a leading digit there is no unsigned integer. -/
theorem unsigned_of_nil (width : Option Int) {s : Cursor} (h : leadingDigits s.rest = []) :
    unsigned width s = .failed (.noNumber s (s.unexpected "a digit")) := by
  rw [unsigned, someDigits_of_nil h, Run.failed_ifMatched]

/-- The digits of an unsigned integer are all read, and then the number must fit the width. -/
theorem unsigned_of_ne_nil (width : Option Int) {s : Cursor} (h : leadingDigits s.rest ≠ []) :
    let value := readDigits (leadingDigits s.rest)
    unsigned width s =
      if fitsUnsigned width value = true then
        .matched (s.matchTo value (s.skip (leadingDigits s.rest).length))
      else .failed (.tooWide s (String.ofList (leadingDigits s.rest)) (width.getD 0)) := by
  have htext : (s.skip (leadingDigits s.rest).length).textSince s.pos = leadingDigits s.rest := by
    rw [Cursor.textSince_skip, take_leadingDigits]
  rw [unsigned, someDigits_of_ne_nil h, Run.matched_ifMatched, Match.text, Cursor.matchTo_rest]
  simp only [Cursor.matchTo, htext]
  rfl

/-- The parser of unsigned integers does what their reading says. -/
theorem reads_unsigned (width : Option Int) : (unsigned width).Reads (.unsigned width) where
  length_le hsome := by
    simp only [Reading.unsigned] at hsome
    split at hsome
    · cases hsome
      exact (leadingDigits_isPrefix _).length_le
    · cases hsome
  matched {s value length} hsome := by
    simp only [Reading.unsigned] at hsome
    split at hsome
    · next h =>
      cases hsome
      rw [unsigned_of_ne_nil width h.1, if_pos h.2]
    · cases hsome
  failed {s} hnone := by
    simp only [Reading.unsigned] at hnone
    split at hnone
    · cases hnone
    · next h =>
      by_cases hdigits : leadingDigits s.rest = []
      · refine ⟨_, ?_, unsigned_of_nil width hdigits⟩
        exact ⟨Cursor.LeadsTo.refl s, placed_noNumber s⟩
      · have hfits : ¬fitsUnsigned width (readDigits (leadingDigits s.rest)) = true :=
          fun hfits => h ⟨hdigits, hfits⟩
        rw [unsigned_of_ne_nil width hdigits, if_neg hfits]
        exact ⟨.tooWide s _ _, ⟨Cursor.LeadsTo.refl s, .tooWide⟩, rfl⟩

/-- Without a digit behind the sign there is no signed integer. -/
theorem signed_of_nil (width : Option Int) {s : Cursor}
    (h : leadingDigits (s.rest.drop (signLength s.rest)) = []) :
    let place := s.skip (signLength s.rest)
    signed width s = .failed (.noNumber place (place.unexpected "a digit")) := by
  rw [← Cursor.rest_skip] at h
  rw [signed, optionalSign_eq, Run.matched_ifMatched, Cursor.matchTo_rest, someDigits_of_nil h,
    Run.failed_ifMatched]

/-- The sign and the digits of an integer are all read, and then the number must fit the width. -/
theorem signed_of_ne_nil (width : Option Int) {s : Cursor}
    (h : leadingDigits (s.rest.drop (signLength s.rest)) ≠ []) :
    let value := signFactor s.rest * readDigits (leadingDigits (s.rest.drop (signLength s.rest)))
    signed width s =
      if fitsSigned width value = true then
        .matched (s.matchTo value (s.skip (wholeLength s.rest)))
      else .failed (.tooWide s (String.ofList (s.rest.take (wholeLength s.rest)))
        (width.getD 0)) := by
  have hwhole := Cursor.skip_skip s (signLength s.rest)
    (leadingDigits (s.rest.drop (signLength s.rest))).length
  rw [← wholeLength] at hwhole
  rw [← Cursor.rest_skip] at h
  rw [signed, optionalSign_eq, Run.matched_ifMatched, Cursor.matchTo_rest, someDigits_of_ne_nil h,
    Run.matched_ifMatched, Cursor.matchTo_rest, Cursor.rest_skip, hwhole, Cursor.textSince_skip]
  rfl

/-- The parser of signed integers does what their reading says. -/
theorem reads_signed (width : Option Int) : (signed width).Reads (.signed width) where
  length_le hsome := by
    simp only [Reading.signed] at hsome
    split at hsome
    · cases hsome
      exact wholeLength_le _
    · cases hsome
  matched {s value length} hsome := by
    simp only [Reading.signed] at hsome
    split at hsome
    · next h =>
      cases hsome
      rw [signed_of_ne_nil width h.1, if_pos h.2]
    · cases hsome
  failed {s} hnone := by
    simp only [Reading.signed] at hnone
    split at hnone
    · cases hnone
    · next h =>
      by_cases hdigits : leadingDigits (s.rest.drop (signLength s.rest)) = []
      · refine ⟨_, ?_, signed_of_nil width hdigits⟩
        exact ⟨s.leadsTo_skip _, placed_noNumber _⟩
      · have hfits := fun hfits => h ⟨hdigits, hfits⟩
        rw [signed_of_ne_nil width hdigits, if_neg hfits]
        exact ⟨.tooWide s _ _, ⟨Cursor.LeadsTo.refl s, .tooWide⟩, rfl⟩

/-- A point is skipped together with the digits behind it, or not at all. -/
theorem skipFraction_eq (s : Cursor) :
    skipFraction s = .pure (s.skip (fractionLength s.rest)) := by
  cases hrest : s.rest with
  | nil =>
    have hlength : fractionLength [] = 0 := by simp [fractionLength]
    rw [skipFraction, char, charOf_of_nil hrest, Run.failed_bind, hlength, Cursor.skip_zero]
  | cons c cs =>
    by_cases hc : c = '.'
    · subst hc
      have hpoint : char decimalPoint s = .matched (s.matchTo '.' (s.skip 1)) :=
        charOf_of_accepts hrest rfl
      have hlater := Cursor.rest_skip_one hrest
      simp only [skipFraction, hpoint, Run.matched_bind, Cursor.matchTo_rest]
      by_cases hdigits : leadingDigits cs = []
      · rw [digits_of_nil (hlater ▸ hdigits), Run.failed_bind, fractionLength, if_pos hdigits,
          Cursor.skip_zero]
      · rw [digits_of_ne_nil (hlater ▸ hdigits), Run.matched_bind, fractionLength,
          if_neg hdigits, hlater, Cursor.skip_skip, Nat.add_comm]
        rfl
    · have hreject : (c == decimalPoint) = false := by simpa [decimalPoint] using hc
      have hlength : fractionLength (c :: cs) = 0 := by
        unfold fractionLength
        split
        · next heq =>
          cases heq
          exact absurd rfl hc
        · rfl
      rw [skipFraction, char, charOf_of_rejects hrest hreject, Run.failed_bind, hlength,
        Cursor.skip_zero]

/-- An exponent is skipped if it is complete. -/
theorem skipExponent_of_some {s : Cursor} {length : Nat}
    (h : exponentLength? s.rest = some length) :
    skipExponent s = .matched (s.matchTo (s.skip length) (s.skip length)) := by
  cases hrest : s.rest with
  | nil =>
    rw [hrest] at h
    obtain rfl := Option.some.inj h
    rw [skipExponent, exponentMarker, charOf_of_nil hrest, Run.failed_bind, Cursor.skip_zero]
  | cons c cs =>
    rw [hrest] at h
    simp only [exponentLength?] at h
    have hlater := Cursor.rest_skip_one hrest
    split at h
    · next hmarker =>
      split at h
      · cases h
      · next hdigits =>
        obtain rfl := Option.some.inj h
        have hsign := optionalSign_eq (s.skip 1)
        have hrest' := Cursor.rest_skip (s.skip 1) (signLength cs)
        rw [hlater] at hsign hrest'
        rw [← hrest'] at hdigits
        simp only [skipExponent, exponentMarker, charOf_of_accepts hrest hmarker, Run.matched_bind,
          Cursor.matchTo_rest, hsign, Run.matched_ifMatched, digits_of_ne_nil hdigits, hrest']
        rw [Cursor.skip_skip, Cursor.skip_skip]
    · next hmarker =>
      obtain rfl := Option.some.inj h
      rw [skipExponent, exponentMarker, charOf_of_rejects hrest (by simpa using hmarker),
        Run.failed_bind, Cursor.skip_zero]

/-- An exponent marker without digits is a failure behind the marker and its sign. -/
theorem skipExponent_of_none {s : Cursor} (h : exponentLength? s.rest = none) :
    skipExponent s = .failed (.noExponent ((s.skip 1).skip (signLength (s.skip 1).rest))) := by
  cases hrest : s.rest with
  | nil =>
    rw [hrest] at h
    cases h
  | cons c cs =>
    rw [hrest] at h
    simp only [exponentLength?] at h
    have hlater := Cursor.rest_skip_one hrest
    split at h
    · next hmarker =>
      split at h
      · next hdigits =>
        have hsign := optionalSign_eq (s.skip 1)
        have hrest' := Cursor.rest_skip (s.skip 1) (signLength cs)
        rw [hlater] at hsign hrest'
        rw [← hrest'] at hdigits
        simp only [skipExponent, exponentMarker, charOf_of_accepts hrest hmarker,
          Run.matched_bind, Cursor.matchTo_rest, hsign, Run.matched_ifMatched,
          digits_of_nil hdigits, Run.failed_bind, hlater]
      · cases h
    · cases h

/-- Behind a sign and digits, only the exponent can keep a floating point number from being read. -/
theorem float_of_ne_nil {s : Cursor} (h : leadingDigits (s.rest.drop (signLength s.rest)) ≠ []) :
    float s = (skipExponent (s.skip (decimalLength s.rest))).ifMatched fun last =>
      (Run.ofExcept (readFloat (last.value.textSince s.pos))).bind fun x =>
        .matched (s.matchTo x last.value) := by
  have hwhole := Cursor.skip_skip s (signLength s.rest)
    (leadingDigits (s.rest.drop (signLength s.rest))).length
  have hdecimal := Cursor.skip_skip s (wholeLength s.rest)
    (fractionLength (s.rest.drop (wholeLength s.rest)))
  rw [← wholeLength] at hwhole
  rw [← decimalLength] at hdecimal
  rw [← Cursor.rest_skip] at h
  rw [float, optionalSign_eq, Run.matched_ifMatched, Cursor.matchTo_rest, someDigits_of_ne_nil h,
    Run.matched_ifMatched, Cursor.matchTo_rest, Cursor.rest_skip, hwhole, skipFraction_eq,
    Run.pure_bind, Cursor.rest_skip, hdecimal]

/-- Without a digit behind the sign there is no floating point number, and the failure lies there.
-/
theorem float_of_no_digits {s : Cursor}
    (h : leadingDigits (s.rest.drop (signLength s.rest)) = []) :
    let place := s.skip (signLength s.rest)
    float s = .failed (.noNumber place (place.unexpected "a digit")) := by
  rw [← Cursor.rest_skip] at h
  rw [float, optionalSign_eq, Run.matched_ifMatched, Cursor.matchTo_rest, someDigits_of_nil h,
    Run.failed_ifMatched]

/-- Without a digit behind the sign there is no floating point number, for a cause that is placed
well. -/
theorem float_of_nil {s : Cursor} (h : leadingDigits (s.rest.drop (signLength s.rest)) = []) :
    ∃ cause : Failure, cause.cursor = s.skip (signLength s.rest) ∧ cause.Placed ∧
      float s = .failed (.noNumber (s.skip (signLength s.rest)) cause) :=
  ⟨_, Cursor.cursor_unexpected _ "a digit", placed_unexpected _ _, float_of_no_digits h⟩

/-- Without a digit behind the exponent marker there is no floating point number. -/
theorem float_of_exponent_eq_none {s : Cursor}
    (h : leadingDigits (s.rest.drop (signLength s.rest)) ≠ [])
    (hexponent : exponentLength? (s.rest.drop (decimalLength s.rest)) = none) :
    let behindMarker := (s.skip (decimalLength s.rest)).skip 1
    float s = .failed (.noExponent (behindMarker.skip (signLength behindMarker.rest))) := by
  rw [← Cursor.rest_skip] at hexponent
  rw [float_of_ne_nil h, skipExponent_of_none hexponent, Run.failed_ifMatched]

/-- The parser of floating point numbers does what their reading says. -/
theorem reads_float : float.Reads .float where
  length_le hsome := by
    obtain ⟨length, hlength, hread⟩ := Option.bind_eq_some_iff.mp hsome
    obtain ⟨x, _, heq⟩ := Option.map_eq_some_iff.mp hread
    cases heq
    exact numeralLength?_le hlength
  matched {s x length} hsome := by
    obtain ⟨length, hlength, hread⟩ := Option.bind_eq_some_iff.mp hsome
    obtain ⟨x, hx, heq⟩ := Option.map_eq_some_iff.mp hread
    cases heq
    unfold numeralLength? at hlength
    split at hlength
    · cases hlength
    · next hdigits =>
      obtain ⟨exponent, hexponent, rfl⟩ := Option.map_eq_some_iff.mp hlength
      rw [← Cursor.rest_skip] at hexponent
      rw [float_of_ne_nil hdigits, skipExponent_of_some hexponent, Run.matched_ifMatched,
        Cursor.matchTo_value, Cursor.skip_skip, Cursor.textSince_skip]
      simp only [readFloat, hx, Run.ofExcept, Run.pure_bind]
  failed {s} hnone := by
    by_cases hdigits : leadingDigits (s.rest.drop (signLength s.rest)) = []
    · obtain ⟨cause, hcursor, hplaced, hfailed⟩ := float_of_nil hdigits
      exact ⟨.noNumber _ cause, ⟨s.leadsTo_skip _, .noNumber hcursor hplaced⟩, hfailed⟩
    · cases hexponent : exponentLength? (s.rest.drop (decimalLength s.rest)) with
      | none =>
        refine ⟨.noExponent _, ⟨?_, .noExponent⟩, float_of_exponent_eq_none hdigits hexponent⟩
        exact ((s.leadsTo_skip _).trans (Cursor.leadsTo_skip _ _)).trans (Cursor.leadsTo_skip _ _)
      | some exponent =>
        -- what goes as far as a numeral always denotes a number
        have hlength := numeralLength?_of_exponent hdigits hexponent
        obtain ⟨x, hx⟩ := (isNumeral_take hlength).read?_isSome
        rw [Reading.float, hlength, Option.bind_some, hx] at hnone
        cases hnone

end Parser

end TextGrammar
