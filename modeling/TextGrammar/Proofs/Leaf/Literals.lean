import TextGrammar.Parser.Combinators
import TextGrammar.Proofs.Leaf.Table
import TextGrammar.Proofs.Text.LongestStart

/-!
# Literals and their characters

A literal and the text at a cursor have a longest start in common. The literal is read if that is
the whole of it, and fails behind the common start otherwise. Reading the characters of the literal
one behind the other ends at the same place and in the same way.
-/

namespace TextGrammar

open Text

variable {s : Cursor} {text : String} {c expected : Char} {chars common later : List Char}

/-! ### The common start -/

/-- What two texts have in common before the first difference is the longest start that they have
in common. -/
theorem isLongestStart_common (hcommon : common <+: chars)
    (hdifferent : ¬common ++ [expected] <+: chars) :
    IsLongestStart (· <+: common ++ expected :: later) common chars where
  isPrefix := hcommon
  isKind := List.prefix_append _ _
  length_le := by
    intro other hother hkind
    refine Nat.le_of_not_lt fun hlonger => ?_
    have hnext : common ++ [expected] <+: common ++ expected :: later :=
      ⟨later, (List.append_cons common expected later).symm⟩
    have hlength : (common ++ [expected]).length ≤ other.length := by
      rw [List.length_append, List.length_singleton]
      omega
    exact hdifferent ((List.prefix_of_prefix_length_le hnext hkind hlength).trans hother)

/-- Behind a common start the text ends, or it goes on with another character. -/
theorem Cursor.unexpected_behind (hcommon : common <+: s.rest)
    (hdifferent : ¬common ++ [expected] <+: s.rest) :
    s.rest = common ∧
        (∀ description, (s.skip common.length).unexpected description =
          .ended (s.skip common.length) description) ∨
      ∃ actual behind, s.rest = common ++ actual :: behind ∧ actual ≠ expected ∧
        ∀ description, (s.skip common.length).unexpected description =
          .mismatch (s.skip common.length) description actual := by
  obtain ⟨behind, hrest⟩ := hcommon
  have hplace : (s.skip common.length).rest = behind := by
    rw [Cursor.rest_skip, ← hrest, List.drop_left]
  cases behind with
  | nil =>
    rw [List.append_nil] at hrest
    exact .inl ⟨hrest.symm, Cursor.unexpected_of_nil hplace⟩
  | cons actual behind =>
    refine .inr ⟨actual, behind, hrest.symm, ?_, Cursor.unexpected_of_cons hplace⟩
    intro heq
    rw [← hrest, heq] at hdifferent
    exact hdifferent ⟨behind, (List.append_cons common expected behind).symm⟩

/-! ### Literals -/

/-- How a failure of a literal describes the expected character; a literal of one character is not
named as well. -/
def Leaf.described (text : String) (expected : Char) : String :=
  if 2 ≤ text.length then Parser.expectedOf expected text else quoteOne expected

/-- A character is read where the text goes on with it. -/
theorem Parser.char_of_prefix (h : [c] <+: s.rest) :
    char c s = .matched (s.matchTo c (s.skip 1)) := by
  obtain ⟨behind, hrest⟩ := h
  exact charOf_of_accepts hrest.symm (beq_self_eq_true c)

/-- A character fails where another one or none is next. -/
theorem Parser.char_of_not_prefix (h : ¬[c] <+: s.rest) :
    char c s = .failed (s.unexpected (quoteOne c)) := by
  apply charOf_of_takeWhile_eq_nil
  cases hrest : s.rest with
  | nil => rfl
  | cons actual behind =>
    have hne : actual ≠ c := by
      rintro rfl
      rw [hrest] at h
      exact h ⟨behind, rfl⟩
    exact List.takeWhile_cons_of_neg (by simpa using hne)

/-- A literal is read where the text starts with it. -/
theorem Leaf.literal_of_prefix (h : text.toList <+: s.rest) :
    (Leaf.literal text).parser s =
      .matched (s.matchTo (.text text) (s.skip text.toList.length)) := by
  apply (Leaf.parser_reads (.literal text)).matched
  simp only [Leaf.reading, Reading.map, Reading.literal, if_pos h, Option.map_some]

/-- A literal fails at the first character that differs from it, or at the end of the text. -/
theorem Leaf.literal_of_difference (htext : text.toList = common ++ expected :: later)
    (hcommon : common <+: s.rest) (hdifferent : ¬common ++ [expected] <+: s.rest) :
    (Leaf.literal text).parser s =
      .failed ((s.skip common.length).unexpected (Leaf.described text expected)) := by
  have hlength : text.length = common.length + (later.length + 1) := by
    rw [← String.length_toList, htext, List.length_append, List.length_cons]
  by_cases hsingle : text.length = 1
  · obtain rfl : common = [] := List.length_eq_zero_iff.mp (by omega)
    obtain rfl : later = [] := List.length_eq_zero_iff.mp (by omega)
    have hchar := Parser.char_of_not_prefix hdifferent
    rw [List.length_nil, Cursor.skip_zero, Leaf.described, if_neg (by omega), Leaf.parser,
      Parser.literal_singleton htext]
    exact Parser.map_of_failed Value.text (Parser.map_of_failed String.singleton hchar)
  · have hseveral : ∀ c, text.toList ≠ [c] := by
      intro c hc
      rw [← String.length_toList, hc] at hsingle
      exact hsingle rfl
    rw [Leaf.described, if_pos (by omega), Leaf.parser, Parser.literal_of_ne_singleton hseveral]
    exact Parser.map_of_failed Value.text
      (Parser.phrase_of_difference htext hcommon hdifferent)

/-! ### Characters one behind the other -/

/-- Reads the given characters one behind the other. -/
def Parser.characters (chars : List Char) : Parser (List Char) := sequence (chars.map char)

/-- A character that is there is read, and then the others. -/
theorem Parser.characters_cons (h : [c] <+: s.rest) (chars : List Char) :
    characters (c :: chars) s = (characters chars (s.skip 1)).ifMatched fun ms =>
      .matched (s.matchTo (c :: ms.value) ms.rest) := by
  rw [characters, List.map_cons, sequence, char_of_prefix h, Run.matched_ifMatched]
  rfl

/-- Characters one by one are read where the text starts with them. -/
theorem Parser.characters_of_prefix (h : chars <+: s.rest) :
    characters chars s = .matched (s.matchTo chars (s.skip chars.length)) := by
  induction chars generalizing s with
  | nil =>
    rw [List.length_nil, Cursor.skip_zero]
    rfl
  | cons c chars ih =>
    obtain ⟨behind, hrest⟩ := h
    have hlater : (s.skip 1).rest = chars ++ behind := Cursor.rest_skip_one hrest.symm
    rw [characters_cons ⟨_, hrest⟩, ih (hlater ▸ List.prefix_append _ _), Run.matched_ifMatched,
      Cursor.matchTo_rest, Cursor.skip_skip, Nat.add_comm 1]
    rfl

/-- Characters one by one fail at the first one that differs, or at the end of the text. -/
theorem Parser.characters_of_difference (later : List Char) (hcommon : common <+: s.rest)
    (hdifferent : ¬common ++ [expected] <+: s.rest) :
    characters (common ++ expected :: later) s =
      .failed ((s.skip common.length).unexpected (quoteOne expected)) := by
  induction common generalizing s with
  | nil =>
    rw [List.nil_append, characters, List.map_cons, sequence, char_of_not_prefix hdifferent,
      Run.failed_ifMatched, List.length_nil, Cursor.skip_zero]
  | cons c common ih =>
    obtain ⟨behind, hrest⟩ := hcommon
    have hlater : (s.skip 1).rest = common ++ behind := Cursor.rest_skip_one hrest.symm
    have hdifferent' : ¬common ++ [expected] <+: (s.skip 1).rest := by
      rwa [← hrest, List.cons_append, List.cons_append, List.prefix_cons_inj, ← hlater]
        at hdifferent
    rw [List.cons_append, characters_cons ⟨_, hrest⟩,
      ih (hlater ▸ List.prefix_append _ _) hdifferent', Run.failed_ifMatched, Cursor.skip_skip,
      Nat.add_comm 1]
    rfl

/-- What reading a literal comes to, and what reading its characters one behind the other does.
There is a longest start that the literal and the text at the cursor have in common. If that is the
whole literal, both are read and end behind it. Otherwise both fail at the place behind it, where
the text has ended or goes on with another character than the literal. A literal of several
characters names the expected one and itself. -/
theorem Leaf.literal_reads_common (text : String) (s : Cursor) :
    ∃ common, IsLongestStart (· <+: text.toList) common s.rest ∧
      let place := s.skip common.length
      place.pos = s.pos + common.length ∧
      (common = text.toList ∧
          (Leaf.literal text).parser s = .matched (s.matchTo (.text text) place) ∧
          Parser.characters text.toList s = .matched (s.matchTo text.toList place) ∨
        ∃ expected later, text.toList = common ++ expected :: later ∧
          (s.rest = common ∧
              (Leaf.literal text).parser s =
                .failed (.ended place (Leaf.described text expected)) ∧
              Parser.characters text.toList s = .failed (.ended place (quoteOne expected)) ∨
            ∃ actual behind, s.rest = common ++ actual :: behind ∧ actual ≠ expected ∧
              (Leaf.literal text).parser s =
                .failed (.mismatch place (Leaf.described text expected) actual) ∧
              Parser.characters text.toList s =
                .failed (.mismatch place (quoteOne expected) actual))) := by
  by_cases hwhole : text.toList <+: s.rest
  · have hlongest : IsLongestStart (· <+: text.toList) text.toList s.rest :=
      ⟨hwhole, List.prefix_refl _, fun _ _ hother => hother.length_le⟩
    refine ⟨_, hlongest, Cursor.pos_skip_of_prefix hwhole, .inl ⟨rfl, ?_, ?_⟩⟩
    · exact Leaf.literal_of_prefix hwhole
    · exact Parser.characters_of_prefix hwhole
  · obtain ⟨common, expected, later, htext, hcommon, hdifferent⟩ :=
      Parser.exists_difference hwhole
    have hliteral := Leaf.literal_of_difference htext hcommon hdifferent
    have hcharacters := Parser.characters_of_difference later hcommon hdifferent
    rw [← htext] at hcharacters
    refine ⟨common, htext ▸ isLongestStart_common hcommon hdifferent,
      Cursor.pos_skip_of_prefix hcommon, .inr ⟨expected, later, htext, ?_⟩⟩
    rcases Cursor.unexpected_behind hcommon hdifferent with
      ⟨hend, hplace⟩ | ⟨actual, behind, hrest, hne, hplace⟩
    · rw [hplace] at hliteral hcharacters
      exact .inl ⟨hend, hliteral, hcharacters⟩
    · rw [hplace] at hliteral hcharacters
      exact .inr ⟨actual, behind, hrest, hne, hliteral, hcharacters⟩

end TextGrammar
