import TextGrammar.Proofs.Leaf.Table
import TextGrammar.Proofs.Text.LongestStart

/-!
# Numbers as far as they go

A floating point number takes the longest numeral at the cursor. A point without digits behind
it is left to what follows, but an exponent marker without digits is not.
-/

namespace TextGrammar

open Text

/-- A marker without digits behind a decimal is a failure behind the marker and its sign. -/
theorem Leaf.float_of_opensNoExponent {s : Cursor} (hopens : OpensNumber s.rest)
    (h : OpensNoExponent (s.rest.drop (decimalLength s.rest))) :
    ∃ marker later sign, s.rest = s.rest.take (decimalLength s.rest) ++ marker :: later ∧
      IsLongestStart IsSign sign later ∧
      Leaf.float.parser s =
        .failed (.noExponent (s.skip (decimalLength s.rest + 1 + sign.length))) := by
  have hfailed := Parser.float_of_exponent_eq_none (opensNumber_iff.mp hopens)
    (exponentLength?_eq_none_iff.mpr h)
  obtain ⟨marker, later, -, hlater, -⟩ := h
  have hrest : ((s.skip (decimalLength s.rest)).skip 1).rest = later :=
    Cursor.rest_skip_one (by rw [Cursor.rest_skip, hlater])
  refine ⟨marker, later, _, ?_, isLongestStart_sign later, ?_⟩
  · rw [← hlater, List.take_append_drop]
  · simp only [hrest] at hfailed
    rw [Cursor.skip_skip, Cursor.skip_skip, ← Nat.add_assoc] at hfailed
    rw [List.length_take_of_le (signLength_le later)]
    exact Parser.map_of_failed Value.float hfailed

/-- In front of anything else the longest numeral is read. -/
theorem Leaf.float_of_not_opensNoExponent {s : Cursor} (hopens : OpensNumber s.rest)
    (h : ¬OpensNoExponent (s.rest.drop (decimalLength s.rest))) :
    ∃ numeral x, IsLongestStart IsNumeral numeral s.rest ∧ Binary64.read? numeral = some x ∧
      Leaf.float.parser s = .matched (s.matchTo (.float x) (s.skip numeral.length)) := by
  rw [← exponentLength?_eq_none_iff, ← ne_eq, Option.ne_none_iff_exists'] at h
  obtain ⟨exponent, hexponent⟩ := h
  have hlength := numeralLength?_of_exponent (opensNumber_iff.mp hopens) hexponent
  obtain ⟨x, hx⟩ := (isNumeral_take hlength).read?_isSome
  have hreading : Reading.float s.rest = some (x, decimalLength s.rest + exponent) := by
    rw [Reading.float, hlength, Option.bind_some, hx, Option.map_some]
  refine ⟨_, x, isLongestStart_numeral hlength, hx, ?_⟩
  rw [List.length_take_of_le (numeralLength?_le hlength)]
  exact Parser.map_of_matched Value.float (Parser.reads_float.matched hreading)

/-- What reading a floating point number comes to. Without a digit behind the sign, there is no
number, and the failure lies behind the sign. Otherwise there is a longest decimal without an
exponent. If a marker without digits follows it, the exponent is missing, and the failure lies
behind the marker and its sign. In all other cases the longest numeral is read, which denotes
the value. -/
theorem Leaf.float_reads_longest (s : Cursor) :
    (¬OpensNumber s.rest →
      ∃ sign cause, IsLongestStart IsSign sign s.rest ∧
        Leaf.float.parser s = .failed (.noNumber (s.skip sign.length) cause)) ∧
    (OpensNumber s.rest →
      ∃ decimal, IsLongestStart IsPlainDecimal decimal s.rest ∧
        (OpensNoExponent (s.rest.drop decimal.length) →
          ∃ marker later sign, s.rest = decimal ++ marker :: later ∧
            IsLongestStart IsSign sign later ∧
            Leaf.float.parser s =
              .failed (.noExponent (s.skip (decimal.length + 1 + sign.length)))) ∧
        (¬OpensNoExponent (s.rest.drop decimal.length) →
          ∃ numeral x, IsLongestStart IsNumeral numeral s.rest ∧
            Binary64.read? numeral = some x ∧
            Leaf.float.parser s = .matched (s.matchTo (.float x) (s.skip numeral.length)))) := by
  refine ⟨fun hnone => ?_, fun hopens => ?_⟩
  · rw [opensNumber_iff, Classical.not_not] at hnone
    obtain ⟨cause, -, -, hfailed⟩ := Parser.float_of_nil hnone
    have hsign := isLongestStart_sign s.rest
    refine ⟨_, cause, hsign, ?_⟩
    rw [List.length_take_of_le (signLength_le s.rest)]
    exact Parser.map_of_failed Value.float hfailed
  · have hdecimal := isLongestStart_decimal hopens
    have hlength := List.length_take_of_le (decimalLength_le s.rest)
    refine ⟨_, hdecimal, fun hbare => ?_, fun hcomplete => ?_⟩
    · rw [hlength] at hbare ⊢
      exact Leaf.float_of_opensNoExponent hopens hbare
    · rw [hlength] at hcomplete
      exact Leaf.float_of_not_opensNoExponent hopens hcomplete

end TextGrammar
