import TextGrammar.Proofs.Leaf.LongestNumber

/-!
# The integer in front of a float

A float and an integer begin alike, with a sign and digits, so a float goes on where an integer
without a width ends. It ends there too unless a fraction or an exponent marker follows. A point
that no digit follows is left, but a marker that no digit follows is a failure behind it.
-/

namespace TextGrammar

open Text

namespace Text

variable {cs : List Char}

/-- A text starts with a point and a digit. -/
def OpensFraction (cs : List Char) : Prop := ∃ c, isDecimal c = true ∧ ['.', c] <+: cs

/-- A text starts with an exponent marker. -/
def OpensExponent (cs : List Char) : Prop := ['e'] <+: cs ∨ ['E'] <+: cs

/-- A fraction is empty just when none opens. -/
theorem fractionLength_eq_zero_iff : fractionLength cs = 0 ↔ ¬OpensFraction cs := by
  constructor
  · rintro hzero ⟨c, hc, later, rfl⟩
    have hdigits : leadingDigits (c :: later) ≠ [] := by
      rw [leadingDigits, List.takeWhile_cons_of_pos hc]
      exact List.cons_ne_nil _ _
    simp only [List.cons_append, List.nil_append, fractionLength, if_neg hdigits] at hzero
    omega
  · intro hnone
    unfold fractionLength
    split
    · next later =>
      split
      · rfl
      · next hdigits =>
        -- a digit behind the point opens a fraction
        obtain ⟨c, digits, heq, hc⟩ := (isDigits_leadingDigits hdigits).exists_cons
        have hprefix : [c] <+: later := .trans ⟨digits, heq.symm⟩ (leadingDigits_isPrefix later)
        exact absurd ⟨c, hc, (List.prefix_cons_inj '.').mpr hprefix⟩ hnone
    · rfl

/-- An exponent opens just with an exponent marker. -/
theorem opensExponent_cons_iff {c : Char} :
    OpensExponent (c :: cs) ↔ Parser.exponentMarkers.contains c = true := by
  simp only [OpensExponent, List.cons_prefix_cons, List.nil_prefix, and_true,
    List.contains_iff_mem, Parser.exponentMarkers, List.mem_cons, List.not_mem_nil, or_false]
  rw [or_comm, eq_comm, @eq_comm _ 'e']

/-- An exponent is empty just when none opens. -/
theorem exponentLength?_eq_some_zero_iff : exponentLength? cs = some 0 ↔ ¬OpensExponent cs := by
  cases cs with
  | nil => simp [exponentLength?, OpensExponent]
  | cons c cs =>
    rw [opensExponent_cons_iff, exponentLength?]
    by_cases hmarker : Parser.exponentMarkers.contains c = true
    · rw [if_pos hmarker]
      simp only [hmarker, not_true_eq_false, iff_false]
      split
      · exact Option.some_ne_none 0 ∘ Eq.symm
      · rw [Option.some.injEq]
        omega
    · rw [if_neg hmarker]
      simpa using hmarker

/-- Behind a sign and digits a numeral is over just when neither a fraction nor an exponent
follows. -/
theorem decimalLength_eq_wholeLength_iff :
    decimalLength cs = wholeLength cs ∧ exponentLength? (cs.drop (decimalLength cs)) = some 0 ↔
      ¬OpensFraction (cs.drop (wholeLength cs)) ∧ ¬OpensExponent (cs.drop (wholeLength cs)) := by
  rw [← fractionLength_eq_zero_iff, ← exponentLength?_eq_some_zero_iff]
  have hlength : decimalLength cs = wholeLength cs + fractionLength (cs.drop (wholeLength cs)) :=
    rfl
  constructor
  · rintro ⟨hwhole, hexponent⟩
    rw [hwhole] at hexponent
    exact ⟨by omega, hexponent⟩
  · rintro ⟨hfraction, hexponent⟩
    have hwhole : decimalLength cs = wholeLength cs := by omega
    rw [hwhole]
    exact ⟨rfl, hexponent⟩

end Text

/-- Cursors that are skipped to are the same just when as many characters are skipped. -/
theorem Cursor.skip_eq_skip_iff {s : Cursor} {first second : Nat} (hfirst : first ≤ s.remaining)
    (hsecond : second ≤ s.remaining) : s.skip first = s.skip second ↔ first = second := by
  constructor
  · intro h
    have hpos := congrArg Cursor.pos h
    rw [Cursor.pos_skip hfirst, Cursor.pos_skip hsecond] at hpos
    omega
  · exact congrArg s.skip

variable {s : Cursor}

/-- A sign and digits are an integer when there is no width to fit. -/
theorem Leaf.signed_none_of_opensNumber (h : OpensNumber s.rest) :
    ∃ value, (Leaf.signed none).parser s =
      .matched (s.matchTo (.int value) (s.skip (wholeLength s.rest))) := by
  refine ⟨signFactor s.rest * readDigits (leadingDigits (s.rest.drop (signLength s.rest))), ?_⟩
  exact Parser.map_of_matched Value.int (Parser.signed_of_ne_nil none (opensNumber_iff.mp h))

/-- A float ends behind its exponent. -/
theorem Leaf.float_of_exponent_eq_some {length : Nat} (hopens : OpensNumber s.rest)
    (h : exponentLength? (s.rest.drop (decimalLength s.rest)) = some length) :
    ∃ x, Leaf.float.parser s =
      .matched (s.matchTo (.float x) (s.skip (decimalLength s.rest + length))) := by
  have hcomplete : ¬OpensNoExponent (s.rest.drop (decimalLength s.rest)) := by
    rw [← exponentLength?_eq_none_iff, h]
    exact Option.some_ne_none length
  obtain ⟨numeral, x, hlongest, -, hread⟩ := Leaf.float_of_not_opensNoExponent hopens hcomplete
  have hlength := numeralLength?_of_exponent (opensNumber_iff.mp hopens) h
  have hnumeral : numeral.length = decimalLength s.rest + length := by
    rw [hlongest.unique (isLongestStart_numeral hlength),
      List.length_take_of_le (numeralLength?_le hlength)]
  exact ⟨x, hnumeral ▸ hread⟩

/-- A float ends where an integer does if it has neither a fraction nor an exponent. -/
theorem Leaf.skip_numeral_eq_iff {length : Nat} (hopens : OpensNumber s.rest)
    (h : exponentLength? (s.rest.drop (decimalLength s.rest)) = some length) :
    s.skip (decimalLength s.rest + length) = s.skip (wholeLength s.rest) ↔
      decimalLength s.rest = wholeLength s.rest ∧ some length = some 0 := by
  have hlength := numeralLength?_le (numeralLength?_of_exponent (opensNumber_iff.mp hopens) h)
  have hwhole := wholeLength_le s.rest
  rw [Cursor.length_rest] at hlength hwhole
  have hle : wholeLength s.rest ≤ decimalLength s.rest := Nat.le_add_right _ _
  rw [Cursor.skip_eq_skip_iff hlength hwhole, Option.some.injEq]
  omega

/-- A marker without digits is a failure behind the place where an integer would end. -/
theorem Leaf.float_of_exponent_eq_none (hopens : OpensNumber s.rest)
    (h : exponentLength? (s.rest.drop (decimalLength s.rest)) = none) :
    ∃ place, Leaf.float.parser s = .failed (.noExponent place) ∧
      (s.skip (wholeLength s.rest)).pos < place.pos := by
  obtain ⟨marker, later, sign, hrest, hsign, hfailed⟩ :=
    Leaf.float_of_opensNoExponent hopens (exponentLength?_eq_none_iff.mp h)
  refine ⟨_, hfailed, ?_⟩
  have hwhole := wholeLength_le s.rest
  have hlength := congrArg List.length hrest
  have hsignLength := hsign.isPrefix.length_le
  have hdecimal := decimalLength_le s.rest
  have hle : wholeLength s.rest ≤ decimalLength s.rest := Nat.le_add_right _ _
  rw [List.length_append, List.length_take_of_le hdecimal, List.length_cons] at hlength
  rw [Cursor.length_rest] at hlength hwhole
  rw [Cursor.pos_skip hwhole, Cursor.pos_skip (by omega)]
  omega

/-- Floats extend integers without a width. There is no number for the one just when there is none
for the other, and then the two fail at one place for one cause. Otherwise the integer is read, and
the float is read as far or further, or it lacks the digits of an exponent further on. It ends where
the integer ends just when the text goes on neither with a point and a digit nor with an exponent
marker, and then both are the same characters. -/
theorem Leaf.float_extends_signed (s : Cursor) :
    (∀ place cause, Leaf.float.parser s = .failed (.noNumber place cause) ↔
      (Leaf.signed none).parser s = .failed (.noNumber place cause)) ∧
    ((∃ place cause, (Leaf.signed none).parser s = .failed (.noNumber place cause)) ∨
      ∃ integer, (Leaf.signed none).parser s = .matched integer ∧
        ((∃ float, Leaf.float.parser s = .matched float ∧ integer.rest.LeadsTo float.rest) ∨
          ∃ place, Leaf.float.parser s = .failed (.noExponent place) ∧
            integer.rest.pos < place.pos) ∧
        ((∃ float, Leaf.float.parser s = .matched float ∧ float.rest = integer.rest) ↔
          ¬OpensFraction integer.rest.rest ∧ ¬OpensExponent integer.rest.rest) ∧
        ∀ float, Leaf.float.parser s = .matched float → float.rest = integer.rest →
          float.text = integer.text) := by
  by_cases hopens : OpensNumber s.rest
  · obtain ⟨value, hsigned⟩ := Leaf.signed_none_of_opensNumber hopens
    have hwhole : (s.skip (wholeLength s.rest)).rest = s.rest.drop (wholeLength s.rest) :=
      Cursor.rest_skip s _
    -- the float fails only where the digits of an exponent are missing
    cases hexponent : exponentLength? (s.rest.drop (decimalLength s.rest)) with
    | none =>
      obtain ⟨place, hfloat, hpos⟩ := Leaf.float_of_exponent_eq_none hopens hexponent
      rw [hfloat, hsigned]
      refine ⟨fun _ _ => ⟨by rintro ⟨⟩, by rintro ⟨⟩⟩,
        .inr ⟨_, rfl, .inr ⟨place, rfl, hpos⟩, ?_, by rintro _ ⟨⟩⟩⟩
      rw [Cursor.matchTo_rest, hwhole, ← decimalLength_eq_wholeLength_iff, hexponent]
      constructor
      · rintro ⟨_, ⟨⟩, -⟩
      · rintro ⟨-, ⟨⟩⟩
    | some length =>
      obtain ⟨x, hfloat⟩ := Leaf.float_of_exponent_eq_some hopens hexponent
      rw [hfloat, hsigned]
      refine ⟨fun _ _ => ⟨by rintro ⟨⟩, by rintro ⟨⟩⟩,
        .inr ⟨_, rfl, .inl ⟨_, rfl, ?_⟩, ?_, ?_⟩⟩
      · have hlonger := Cursor.leadsTo_skip (s.skip (wholeLength s.rest))
          (fractionLength (s.rest.drop (wholeLength s.rest)) + length)
        rwa [Cursor.skip_skip, ← Nat.add_assoc] at hlonger
      · rw [Cursor.matchTo_rest, hwhole, ← decimalLength_eq_wholeLength_iff, hexponent,
          ← Leaf.skip_numeral_eq_iff hopens hexponent]
        constructor
        · rintro ⟨_, ⟨⟩, hrest⟩
          exact hrest
        · exact fun hrest => ⟨_, rfl, hrest⟩
      · rintro _ ⟨⟩ hrest
        rw [Match.text, hrest]
        rfl
  · rw [opensNumber_iff, Classical.not_not] at hopens
    have hfloat : Leaf.float.parser s = _ :=
      Parser.map_of_failed Value.float (Parser.float_of_no_digits hopens)
    have hsigned : (Leaf.signed none).parser s = _ :=
      Parser.map_of_failed Value.int (Parser.signed_of_nil none hopens)
    rw [hfloat, hsigned]
    exact ⟨fun _ _ => Iff.rfl, .inl ⟨_, _, rfl⟩⟩

end TextGrammar
