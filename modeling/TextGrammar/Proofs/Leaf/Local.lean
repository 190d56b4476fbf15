import TextGrammar.Proofs.Leaf.Table
import TextGrammar.Proofs.Parser.Local

/-!
# Local leaves

Numbers are read by local parsers, also where the text of a number is cut out of the whole
text. So all leaves are local.
-/

namespace TextGrammar

namespace Parser

open Text

variable {front : Array Char}

/-- A digit is read alike wherever the text stands. -/
theorem isLocal_digit : digit.IsLocal := isLocal_map (isLocal_charOf _ _) _

/-- A sign is read alike wherever the text stands. -/
theorem isLocal_optionalSign : optionalSign.IsLocal :=
  isLocal_optional (isLocal_map (isLocal_charOf _ _) _) 1

/-- A digit reads a character. -/
theorem advances_digit : digit.Advances False :=
  advances_map (advances_satisfy fun _ => Run.yields_pure trivial) _

/-- Digits are read alike wherever the text stands. -/
theorem isLocal_digits : digits.IsLocal := isLocal_many1 isLocal_digit advances_digit

/-- Digits or a missing number are read alike wherever the text stands. -/
theorem isLocal_someDigits : someDigits.IsLocal := by
  intro front s
  apply Run.bind_behind (isLocal_digits front s)
  intro outcome _
  cases outcome <;> rfl

/-- A match of digits starts where it was attempted. -/
theorem start_of_someDigits {s : Cursor} {m : Match (List Nat)}
    (h : (someDigits s).answer = .ok (.matched m)) : m.start = s.pos := by
  by_cases hdigits : leadingDigits s.rest = []
  · rw [someDigits_of_nil hdigits] at h
    cases Except.ok.inj h
  · rw [someDigits_of_ne_nil hdigits] at h
    cases Except.ok.inj h
    rfl

/-- An unsigned integer is read alike wherever the text stands. -/
theorem isLocal_unsigned (width : Option Int) : (unsigned width).IsLocal := by
  intro front s
  apply Run.ifMatched_behind (isLocal_someDigits front s)
  intro m hanswer
  have hstart : 0 ≤ m.start := start_of_someDigits hanswer ▸ Int.natCast_nonneg _
  change (if fitsUnsigned width (fromDigits m.value) = true then _ else _) = _
  split
  · rfl
  · rw [m.text_behind front hstart]
    rfl

/-- A signed integer is read alike wherever the text stands. -/
theorem isLocal_signed (width : Option Int) : (signed width).IsLocal := by
  intro front s
  apply Run.ifMatched_behind (isLocal_optionalSign front s)
  intro sign _
  apply Run.ifMatched_behind (isLocal_someDigits front sign.rest)
  intro m _
  have htext : (m.rest.behind front).textSince (s.behind front).pos = m.rest.textSince s.pos :=
    m.rest.textSince_behind front (Int.natCast_nonneg _)
  change (if fitsSigned width (sign.value * fromDigits m.value) = true then _ else _) =
    Run.behind front _ (if fitsSigned width (sign.value * fromDigits m.value) = true then _ else _)
  split
  · exact Run.matchTo_behind _ _ _
  · rw [← htext]
    rfl

/-- A fraction is skipped alike wherever the text stands. -/
theorem skipFraction_behind (front : Array Char) (s : Cursor) :
    skipFraction (s.behind front) = (skipFraction s).behind front (Cursor.behind front) := by
  rw [skipFraction_eq, skipFraction_eq, Cursor.rest_behind, Cursor.skip_behind]
  rfl

/-- The outcome of reading an exponent, whose value is a cursor itself, at the same characters. -/
def exponentBehind (front : Array Char) (outcome : Outcome Cursor) : Outcome Cursor :=
  (outcome.behind front).map (Cursor.behind front)

/-- An exponent lies between the same characters wherever the text stands. -/
theorem matchTo_exponentBehind (s rest : Cursor) :
    Run.matched ((s.behind front).matchTo (rest.behind front) (rest.behind front)) =
      (Run.matched (s.matchTo rest rest)).behind front (exponentBehind front) := by
  have hmatch : exponentBehind front (.matched (s.matchTo rest rest)) =
      .matched ((s.behind front).matchTo (rest.behind front) (rest.behind front)) := by
    rw [exponentBehind, Outcome.behind, Cursor.matchTo_behind]
    rfl
  rw [Run.matched, Run.matched, Run.pure_behind, hmatch]

/-- An exponent is skipped alike wherever the text stands. -/
theorem skipExponent_behind (front : Array Char) (s : Cursor) :
    skipExponent (s.behind front) = (skipExponent s).behind front (exponentBehind front) := by
  apply Run.bind_behind (isLocal_charOf _ _ front s)
  intro outcome _
  cases outcome with
  | failed f => exact matchTo_exponentBehind s s
  | matched marker =>
    apply Run.bind_behind (isLocal_optionalSign front marker.rest)
    intro outcome _
    cases outcome with
    | failed f => rfl
    | matched sign =>
      apply Run.bind_behind (isLocal_digits front sign.rest)
      intro outcome _
      cases outcome with
      | failed f => rfl
      | matched m => exact matchTo_exponentBehind s m.rest

/-- A floating point number is read alike wherever the text stands. -/
theorem isLocal_float : float.IsLocal := by
  intro front s
  apply Run.ifMatched_behind (isLocal_optionalSign front s)
  intro sign _
  apply Run.ifMatched_behind (isLocal_someDigits front sign.rest)
  intro whole _
  apply Run.bind_behind (skipFraction_behind front whole.rest)
  intro fraction _
  apply Run.bind_behind (skipExponent_behind front fraction)
  intro outcome _
  cases outcome with
  | failed f => rfl
  | matched last =>
    have htext : (last.value.behind front).textSince (s.behind front).pos =
        last.value.textSince s.pos :=
      last.value.textSince_behind front (Int.natCast_nonneg _)
    have hread : Run.ofExcept (readFloat
        ((last.value.behind front).textSince (s.behind front).pos)) =
          (Run.ofExcept (readFloat (last.value.textSince s.pos))).behind front id := by
      rw [htext]
      cases readFloat (last.value.textSince s.pos) <;> rfl
    exact Run.bind_behind hread fun _ _ => Run.matchTo_behind _ _ _

end Parser

/-- Leaves are read alike wherever the text stands. -/
theorem Leaf.isLocal (l : Leaf) : l.parser.IsLocal := by
  cases l with
  | blank => exact Parser.isLocal_map (Parser.isLocal_charOf _ _) _
  | alphanumeric => exact Parser.isLocal_map (Parser.isLocal_charOf _ _) _
  | anyChar => exact Parser.isLocal_map (Parser.isLocal_charOf _ _) _
  | finish => exact Parser.isLocal_map Parser.isLocal_finish fun _ => Value.null
  | nothing => exact Parser.isLocal_map Parser.isLocal_nothing fun _ => Value.null
  | blanks => exact Parser.isLocal_map Parser.isLocal_blanks _
  | someBlanks => exact Parser.isLocal_map Parser.isLocal_someBlanks _
  | digit => exact Parser.isLocal_map Parser.isLocal_digit fun n : Nat => Value.int n
  | sign => exact Parser.isLocal_map (Parser.isLocal_map (Parser.isLocal_charOf _ _) _) _
  | float => exact Parser.isLocal_map Parser.isLocal_float _
  | literal text => exact Parser.isLocal_map (Parser.isLocal_literal text) _
  | unsigned width =>
    exact Parser.isLocal_map (Parser.isLocal_unsigned width) fun n : Nat => Value.int n
  | signed width => exact Parser.isLocal_map (Parser.isLocal_signed width) _

end TextGrammar
