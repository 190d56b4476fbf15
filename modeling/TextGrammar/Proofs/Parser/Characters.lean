import TextGrammar.Parser.Basic
import TextGrammar.Proofs.Cursor.Advance

/-!
# Reading characters

What the parsers of characters, literals and blanks answer, said in terms of the rest of
the text. In each case the checked moves and looks at characters succeed, so the answers
are plain equations.
-/

namespace TextGrammar

open Text

/-- The cursor behind the blank characters at a cursor. -/
def Cursor.afterBlanks (s : Cursor) : Cursor := s.skip (s.rest.takeWhile isBlank).length

/-- The failure at a cursor where a character is expected, and another one or none is next. -/
def Cursor.unexpected (s : Cursor) (expected : String) : Failure :=
  match s.rest with
  | [] => .ended s expected
  | c :: _ => .mismatch s expected c

section Unexpected

variable {s : Cursor} {c : Char} {cs : List Char}

/-- At the end of the text the end is unexpected. -/
theorem Cursor.unexpected_of_nil (h : s.rest = []) (expected : String) :
    s.unexpected expected = .ended s expected := by
  rw [unexpected, h]

/-- In front of a character this one is unexpected. -/
theorem Cursor.unexpected_of_cons (h : s.rest = c :: cs) (expected : String) :
    s.unexpected expected = .mismatch s expected c := by
  rw [unexpected, h]

/-- What is unexpected is so at the cursor. -/
@[simp] theorem Cursor.cursor_unexpected (s : Cursor) (expected : String) :
    (s.unexpected expected).cursor = s := by
  unfold unexpected
  split <;> rfl

end Unexpected

namespace Parser

variable {s : Cursor} {c : Char} {cs : List Char}

/-! ### Single characters -/

/-- At the end of the text no character passes. -/
theorem satisfy_of_nil {test : Char → Run Bool} {expected : String} (h : s.rest = []) :
    satisfy test expected s = .failed (.ended s expected) := by
  have hnext := Cursor.next?_of_rest_eq_nil h
  simp only [satisfy, hnext]

/-- Before the end the test decides on the next character. -/
theorem satisfy_of_cons {test : Char → Run Bool} {expected : String} (h : s.rest = c :: cs) :
    satisfy test expected s = (test c).bind fun passed =>
      if passed then .matched (s.matchTo c (s.skip 1)) else .failed (.mismatch s expected c) := by
  have hnext := Cursor.next?_of_rest h
  have hsome : 1 ≤ s.remaining := by
    rw [Cursor.remaining_of_rest h]
    omega
  have hmove : s.move 1 = .ok (s.skip 1) := Cursor.move_eq_skip hsome
  simp only [satisfy, hnext, hmove, mismatch, Failure.mismatch?, Run.ofExcept, Run.pure_bind]

variable {accepts : Char → Bool} {expected : String}

/-- A character of a class fails at the end of the text. -/
theorem charOf_of_nil (h : s.rest = []) :
    charOf accepts expected s = .failed (.ended s expected) := satisfy_of_nil h

/-- A character of a class is read where one is next. -/
theorem charOf_of_accepts (h : s.rest = c :: cs) (hc : accepts c = true) :
    charOf accepts expected s = .matched (s.matchTo c (s.skip 1)) := by
  rw [charOf, satisfy_of_cons h, Run.pure_bind, if_pos hc]

/-- A character of a class fails where one of no such class is next. -/
theorem charOf_of_rejects (h : s.rest = c :: cs) (hc : accepts c = false) :
    charOf accepts expected s = .failed (.mismatch s expected c) := by
  rw [charOf, satisfy_of_cons h, Run.pure_bind, hc, if_neg Bool.false_ne_true]

/-- A class of characters fails unless the text goes on with some of them. -/
theorem charOf_of_takeWhile_eq_nil (h : s.rest.takeWhile accepts = []) :
    charOf accepts expected s = .failed (s.unexpected expected) := by
  cases hrest : s.rest with
  | nil => rw [charOf_of_nil hrest, Cursor.unexpected_of_nil hrest]
  | cons c cs =>
    have hc : accepts c = false := by
      rw [hrest] at h
      simpa [List.takeWhile_cons] using h
    rw [charOf_of_rejects hrest hc, Cursor.unexpected_of_cons hrest]

/-- The end is reached when there is no rest. -/
theorem finish_of_nil (h : s.rest = []) : finish s = .matched (s.matchTo () s) := by
  rw [finish, if_pos (Cursor.isAtEnd_iff.mpr (Cursor.rest_eq_nil_iff.mp h))]

/-- The end fails where a character is next. -/
theorem finish_of_cons (h : s.rest = c :: cs) :
    finish s = .failed (.mismatch s "the end of the input" c) := by
  have hnot : ¬s.isAtEnd = true := by
    rw [Cursor.isAtEnd_iff, Cursor.remaining_of_rest h]
    omega
  rw [finish, if_neg hnot]
  simp only [mismatch, Failure.mismatch?, Cursor.next?_of_rest h, Run.ofExcept, Run.pure_bind]

/-! ### Literals -/

/-- A text of several characters is read where the rest starts with it. -/
theorem phrase_of_prefix {text : String} (h : text.toList <+: s.rest) :
    phrase text s = .matched (s.matchTo text (s.skip text.toList.length)) := by
  have hlength : text.toList.length ≤ s.remaining := by
    rw [← Cursor.length_rest]
    exact h.length_le
  rw [phrase, if_pos (Cursor.startsWith_iff.mpr h), Cursor.move_eq_skip hlength, Run.ofExcept,
    Run.pure_bind]

/-- Where a text does not start with some characters, there is a first one in which it differs. -/
theorem exists_difference {chars cs : List Char} (h : ¬chars <+: cs) :
    ∃ common expected later, chars = common ++ expected :: later ∧ common <+: cs ∧
      ¬common ++ [expected] <+: cs := by
  induction chars generalizing cs with
  | nil => exact absurd List.nil_prefix h
  | cons c chars ih =>
    by_cases hfirst : [c] <+: cs
    · obtain ⟨cs, rfl⟩ := hfirst
      rw [List.singleton_append, List.prefix_cons_inj] at h
      obtain ⟨common, expected, later, rfl, hcommon, hdifferent⟩ := ih h
      refine ⟨c :: common, expected, later, rfl, ?_, ?_⟩
      · rwa [List.singleton_append, List.prefix_cons_inj]
      · rwa [List.singleton_append, List.cons_append, List.prefix_cons_inj]
    · exact ⟨[], c, chars, rfl, List.nil_prefix, hfirst⟩

/-- The characters of a literal are compared up to the first difference, where the text has another
character or ends. -/
theorem firstDifference_eq (literal : String) (later : List Char) {common : List Char}
    {expected : Char} {index : Nat} (hindex : index ≤ s.remaining)
    (hcommon : common <+: (s.skip index).rest)
    (hdifferent : ¬common ++ [expected] <+: (s.skip index).rest) :
    firstDifference literal s index (common ++ expected :: later) =
      .ok ((s.skip (index + common.length)).unexpected (expectedOf expected literal)) := by
  induction common generalizing index with
  | nil =>
    -- the check never goes behind the end of the text, since the end is a difference as well
    rw [List.nil_append, List.length_nil, Nat.add_zero]
    cases hrest : (s.skip index).rest with
    | nil =>
      have hnext := Cursor.next?_of_rest_eq_nil hrest
      simp only [firstDifference, Cursor.move_eq_skip hindex, hnext,
        Cursor.unexpected_of_nil hrest]
    | cons actual cs =>
      have hnext := Cursor.next?_of_rest hrest
      have hne : actual ≠ expected := by
        rintro rfl
        rw [hrest] at hdifferent
        exact hdifferent ⟨cs, rfl⟩
      simp only [firstDifference, Cursor.move_eq_skip hindex, hnext, if_neg hne,
        Failure.mismatch?, Cursor.unexpected_of_cons hrest]
  | cons c common ih =>
    obtain ⟨rest, hrest⟩ := hcommon
    rw [List.cons_append] at hrest
    have hnext := Cursor.next?_of_rest hrest.symm
    have hlater : (s.skip (index + 1)).rest = common ++ rest := by
      rw [← Cursor.skip_skip, Cursor.rest_skip_one hrest.symm]
    have hindex' : index + 1 ≤ s.remaining := by
      have hlength := congrArg List.length hrest
      rw [Cursor.rest_skip, List.length_drop, Cursor.length_rest, List.length_cons] at hlength
      omega
    have hdifferent' : ¬common ++ [expected] <+: (s.skip (index + 1)).rest := by
      rwa [← hrest, List.cons_append, List.prefix_cons_inj, ← hlater] at hdifferent
    have hlaterDifference := ih hindex' (hlater ▸ List.prefix_append common rest) hdifferent'
    have hlength : index + (c :: common).length = index + 1 + common.length := by
      rw [List.length_cons]
      omega
    rw [hlength, ← hlaterDifference, List.cons_append]
    simp only [firstDifference, Cursor.move_eq_skip hindex, hnext, if_pos]

/-- Where a literal is not read, it fails at the first difference. -/
theorem phrase_of_difference {text : String} {common later : List Char} {expected : Char}
    (htext : text.toList = common ++ expected :: later) (hcommon : common <+: s.rest)
    (hdifferent : ¬common ++ [expected] <+: s.rest) :
    phrase text s =
      .failed ((s.skip common.length).unexpected (expectedOf expected text)) := by
  have hnot : ¬s.startsWith text.toList = true := by
    rw [Cursor.startsWith_iff, htext, List.append_cons]
    exact fun hprefix => hdifferent ((List.prefix_append _ _).trans hprefix)
  rw [← s.skip_zero] at hcommon hdifferent
  have hdifference := firstDifference_eq text later (Nat.zero_le s.remaining) hcommon hdifferent
  rw [Nat.zero_add] at hdifference
  rw [phrase, if_neg hnot, htext, hdifference, Run.ofExcept, Run.pure_bind]

/-- A literal of one character is read as that character. -/
theorem literal_singleton {text : String} (h : text.toList = [c]) :
    literal text = map String.singleton (char c) := by
  simp only [literal, h]

/-- A literal that is not a single character is read as a whole. -/
theorem literal_of_ne_singleton {text : String} (h : ∀ c, text.toList ≠ [c]) :
    literal text = phrase text := by
  unfold literal
  split
  · next c hc => exact absurd hc (h c)
  · rfl

/-! ### Runs of characters -/

/-- The end of the run of characters of a class from an index on. -/
def classEnd (accepts : Char → Bool) (text : Array Char) (index : Nat) : Nat :=
  if h : index < text.size then
    if accepts text[index] then classEnd accepts text (index + 1) else index
  else index
termination_by text.size - index

/-- Reads all characters of a class by a loop over the text. -/
def runOf (accepts : Char → Bool) : Parser String := fun s =>
  (Run.ofExcept (Cursor.at? s.text (classEnd accepts s.text s.pos))).bind fun rest =>
    .matched (s.matchTo (String.ofList (rest.textSince s.pos)) rest)

/-- Reads all characters of a class by a loop over the text; there must be one. -/
def someRunOf (accepts : Char → Bool) (expected : String) : Parser String := fun s =>
  (charOf accepts expected s).ifMatched fun _ => runOf accepts s

/-- The loop ends where the characters of the class end. -/
theorem classEnd_eq (accepts : Char → Bool) (text : Array Char) (index : Nat) :
    classEnd accepts text index =
      index + ((text.toList.drop index).takeWhile accepts).length := by
  fun_induction classEnd accepts text index with
  | case1 index hlt hc ih =>
    have hlength : index < text.toList.length := by rwa [Array.length_toList]
    rw [ih, List.drop_eq_getElem_cons hlength, Array.getElem_toList,
      List.takeWhile_cons_of_pos hc, List.length_cons]
    omega
  | case2 index hlt hc =>
    have hlength : index < text.toList.length := by rwa [Array.length_toList]
    rw [List.drop_eq_getElem_cons hlength, Array.getElem_toList,
      List.takeWhile_cons_of_neg hc, List.length_nil, Nat.add_zero]
  | case3 index hle =>
    have hlength : text.toList.length ≤ index := by
      rw [Array.length_toList]
      omega
    rw [List.drop_eq_nil_of_le hlength, List.takeWhile_nil, List.length_nil, Nat.add_zero]

/-- The end of a run of characters never lies outside the text. -/
theorem at?_classEnd (accepts : Char → Bool) (s : Cursor) :
    Cursor.at? s.text (classEnd accepts s.text s.pos) =
      .ok (s.skip (s.rest.takeWhile accepts).length) := by
  have hlength : (s.rest.takeWhile accepts).length ≤ s.remaining := by
    rw [← Cursor.length_rest]
    exact (List.takeWhile_prefix accepts).length_le
  have hmove := Cursor.move_eq_skip hlength
  rw [Cursor.move] at hmove
  rw [classEnd_eq, ← Cursor.rest_eq_drop, Int.natCast_add, hmove]

/-- A run of characters of a class takes all of them. -/
theorem runOf_eq (accepts : Char → Bool) (s : Cursor) :
    runOf accepts s =
      .matched (s.matchTo (String.ofList (s.rest.takeWhile accepts))
        (s.skip (s.rest.takeWhile accepts).length)) := by
  have htext : (s.skip (s.rest.takeWhile accepts).length).textSince s.pos =
      s.rest.takeWhile accepts := by
    rw [Cursor.textSince_skip]
    exact (List.prefix_iff_eq_take.mp (List.takeWhile_prefix accepts)).symm
  rw [runOf, at?_classEnd, Run.ofExcept, Run.pure_bind, htext]

/-- A run of at least one character fails where there is none. -/
theorem someRunOf_of_nil (h : s.rest.takeWhile accepts = []) :
    someRunOf accepts expected s = .failed (s.unexpected expected) := by
  rw [someRunOf, charOf_of_takeWhile_eq_nil h]
  rfl

/-- A character that is looked at first is read again by the loop. -/
theorem someRunOf_of_ne_nil (h : s.rest.takeWhile accepts ≠ []) :
    someRunOf accepts expected s = runOf accepts s := by
  cases hrest : s.rest with
  | nil => simp [hrest] at h
  | cons c cs =>
    rw [someRunOf, charOf_of_accepts hrest (Cursor.accepts_of_rest hrest h)]
    rfl

/-! ### Blanks -/

/-- The run of blank characters is one like any other. -/
theorem blankEnd_eq_classEnd (text : Array Char) (index : Nat) :
    blankEnd text index = classEnd isBlank text index := by
  fun_induction blankEnd text index with
  | case1 index hlt hblank ih => rw [classEnd, dif_pos hlt, if_pos hblank, ih]
  | case2 index hlt hblank => rw [classEnd, dif_pos hlt, if_neg hblank]
  | case3 index hle => rw [classEnd, dif_neg hle]

/-- Blanks are the run of the blank characters. -/
theorem blanks_eq_runOf : blanks = runOf isBlank := by
  funext s
  rw [blanks, skipBlanks, blankEnd_eq_classEnd, runOf]

/-- One or more blanks are such a run of the blank characters. -/
theorem someBlanks_eq_someRunOf : someBlanks = someRunOf isBlank "a whitespace" := by
  funext s
  rw [someBlanks, blanks_eq_runOf, blank, someRunOf]

/-- Skipping blanks never fails. -/
theorem skipBlanks_eq (s : Cursor) : skipBlanks s = .pure s.afterBlanks := by
  rw [skipBlanks, blankEnd_eq_classEnd, at?_classEnd, Run.ofExcept, Cursor.afterBlanks]

/-- All blanks at the cursor are read. -/
theorem blanks_eq (s : Cursor) :
    blanks s = .matched (s.matchTo (String.ofList (s.rest.takeWhile isBlank)) s.afterBlanks) := by
  rw [blanks_eq_runOf, runOf_eq, Cursor.afterBlanks]

end Parser

end TextGrammar
