import TextGrammar.Proofs.Parser.Contract

/-!
# Readings

What a parser reads off the rest of a text, said without parsers: a function that gives the
value and the count of its characters. A parser that does what a reading says matches just
where the reading has a value, and is at the cursor behind those characters then.
-/

namespace TextGrammar

variable {α β : Type}

/-- What can be read off the start of some characters: a value and the count of its characters. -/
abbrev Reading (α : Type) : Type := List Char → Option (α × Nat)

namespace Reading

open Text

/-- A reading with another value. -/
def map (f : α → β) (reading : Reading α) : Reading β := fun cs =>
  (reading cs).map fun (value, length) => (f value, length)

/-- The first character, if it belongs to a class. -/
def ofClass (accepts : Char → Bool) : Reading Char
  | [] => none
  | c :: _ => if accepts c then some (c, 1) else none

/-- A given text. -/
def literal (text : String) : Reading String := fun cs =>
  if text.toList <+: cs then some (text, text.toList.length) else none

/-- Nothing at all. -/
def nothing : Reading Unit := fun _ => some ((), 0)

/-- The end of the text. -/
def finish : Reading Unit := fun cs => if cs = [] then some ((), 0) else none

/-- All blanks. -/
def blanks : Reading String := fun cs =>
  some (String.ofList (cs.takeWhile isBlank), (cs.takeWhile isBlank).length)

/-- All blanks, of which there must be one. -/
def someBlanks : Reading String := fun cs =>
  if cs.takeWhile isBlank = [] then none else blanks cs

/-- A reading takes at least one character. -/
def Consumes (reading : Reading α) : Prop :=
  ∀ cs value length, reading cs = some (value, length) → 0 < length

/-- Changing what is read does not change that a character is read. -/
theorem Consumes.map {reading : Reading α} (h : reading.Consumes) (f : α → β) :
    (reading.map f).Consumes := by
  intro cs value length hsome
  obtain ⟨⟨a, length⟩, ha, heq⟩ := Option.map_eq_some_iff.mp hsome
  cases heq
  exact h _ _ _ ha

/-- A class of characters reads a character. -/
theorem consumes_ofClass (accepts : Char → Bool) : (ofClass accepts).Consumes := by
  intro cs value length hsome
  cases cs with
  | nil => cases hsome
  | cons c cs =>
    simp only [ofClass] at hsome
    split at hsome <;> cases hsome
    exact Nat.one_pos

/-- A literal of some characters reads a character. -/
theorem consumes_literal {text : String} (h : text.isEmpty = false) : (literal text).Consumes := by
  intro cs value length hsome
  simp only [literal] at hsome
  split at hsome <;> cases hsome
  rw [List.length_pos_iff]
  intro hnil
  rw [String.toList_eq_nil_iff] at hnil
  simp [hnil] at h

/-- One or more blanks read a character. -/
theorem consumes_someBlanks : someBlanks.Consumes := by
  intro cs value length hsome
  simp only [someBlanks] at hsome
  split at hsome
  · cases hsome
  · next hne =>
    cases hsome
    exact List.length_pos_iff.mpr hne

end Reading

/-- A parser does what a reading says, and fails where the reading has no value. -/
structure Parser.Reads (parser : Parser α) (reading : Reading α) : Prop where
  length_le {cs : List Char} {value : α} {length : Nat} :
    reading cs = some (value, length) → length ≤ cs.length
  matched {s : Cursor} {value : α} {length : Nat} :
    reading s.rest = some (value, length) →
      parser s = .matched (s.matchTo value (s.skip length))
  failed {s : Cursor} :
    reading s.rest = none → ∃ f : Failure, f.LiesFrom s ∧ parser s = .failed f

namespace Parser

open Text

/-- A parser that does what a reading says keeps the contract. -/
theorem Reads.advances {parser : Parser α} {reading : Reading α} {empty : Prop}
    (h : parser.Reads reading)
    (hempty : ∀ {cs : List Char} {value : α}, reading cs = some (value, 0) → empty) :
    parser.Advances empty := by
  intro s
  cases hreading : reading s.rest with
  | none =>
    obtain ⟨f, hlies, hfailed⟩ := h.failed hreading
    rw [hfailed]
    exact Run.yields_pure hlies
  | some result =>
    obtain ⟨value, length⟩ := result
    have hlength := h.length_le hreading
    rw [Cursor.length_rest] at hlength
    rw [h.matched hreading]
    refine Run.yields_pure ⟨rfl, s.leadsTo_skip length, fun hpos => ?_⟩
    have hskip := Cursor.pos_skip hlength
    have hzero : length = 0 := by
      change (s.skip length).pos = s.pos at hpos
      omega
    exact hempty (hzero ▸ hreading)

/-- A match is changed in its value alone. -/
theorem map_of_matched {parser : Parser α} {s : Cursor} {m : Match α} (f : α → β)
    (h : parser s = .matched m) : map f parser s = .matched (m.withValue (f m.value)) := by
  rw [map, h]
  rfl

/-- The answer of a match is changed in its value alone. -/
theorem map_answer_of_matched {parser : Parser α} {s : Cursor} {m : Match α} (f : α → β)
    (h : (parser s).answer = .ok (.matched m)) :
    (map f parser s).answer = .ok (.matched (m.withValue (f m.value))) := by
  rw [map, Run.ifMatched_of_matched h]
  rfl

/-- A failure is not changed. -/
theorem map_of_failed {parser : Parser α} {s : Cursor} {e : Failure} (f : α → β)
    (h : parser s = .failed e) : map f parser s = .failed e := by
  rw [map, h]
  rfl

/-- A parser and its reading are changed alike. -/
theorem reads_map {parser : Parser α} {reading : Reading α} (h : parser.Reads reading)
    (f : α → β) : (map f parser).Reads (.map f reading) where
  length_le hsome := by
    obtain ⟨⟨value, length⟩, hvalue, heq⟩ := Option.map_eq_some_iff.mp hsome
    cases heq
    exact h.length_le hvalue
  matched hsome := by
    obtain ⟨⟨value, length⟩, hvalue, heq⟩ := Option.map_eq_some_iff.mp hsome
    cases heq
    exact map_of_matched f (h.matched hvalue)
  failed hnone := by
    obtain ⟨failure, hlies, hfailed⟩ := h.failed (Option.map_eq_none_iff.mp hnone)
    exact ⟨failure, hlies, map_of_failed f hfailed⟩

/-! ### Characters, literals and blanks -/

/-- A missing character is a failure where the character is missed. -/
theorem placed_unexpected (s : Cursor) (expected : String) : (s.unexpected expected).Placed := by
  cases hrest : s.rest with
  | nil =>
    rw [Cursor.unexpected_of_nil hrest]
    exact .ended (Cursor.next?_of_rest_eq_nil hrest)
  | cons c cs =>
    rw [Cursor.unexpected_of_cons hrest]
    exact .mismatch (Cursor.next?_of_rest hrest)

/-- A character that is not of a class is not read. -/
theorem charOf_failed {accepts : Char → Bool} {s : Cursor} (expected : String)
    (h : s.rest.takeWhile accepts = []) :
    ∃ f : Failure, f.cursor = s ∧ f.Placed ∧ charOf accepts expected s = .failed f :=
  ⟨s.unexpected expected, s.cursor_unexpected expected, placed_unexpected s expected,
    charOf_of_takeWhile_eq_nil h⟩

/-- The parser of a class does what the reading of the class says. -/
theorem reads_charOf (accepts : Char → Bool) (expected : String) :
    (charOf accepts expected).Reads (.ofClass accepts) where
  length_le {cs value length} hsome := by
    cases cs with
    | nil => cases hsome
    | cons c cs =>
      simp only [Reading.ofClass] at hsome
      split at hsome
      · cases hsome
        rw [List.length_cons]
        omega
      · cases hsome
  matched {s value length} hsome := by
    cases hrest : s.rest with
    | nil =>
      rw [hrest] at hsome
      cases hsome
    | cons c cs =>
      rw [hrest] at hsome
      simp only [Reading.ofClass] at hsome
      split at hsome
      · next hc =>
        cases hsome
        exact charOf_of_accepts hrest hc
      · cases hsome
  failed {s} hnone := by
    have hempty : s.rest.takeWhile accepts = [] := by
      cases hrest : s.rest with
      | nil => rfl
      | cons c cs =>
        rw [hrest] at hnone
        simp only [Reading.ofClass] at hnone
        split at hnone
        · cases hnone
        · next hc => exact List.takeWhile_cons_of_neg hc
    obtain ⟨f, hcursor, hplaced, hfailed⟩ := charOf_failed expected hempty
    exact ⟨f, .of_cursor_eq hcursor hplaced, hfailed⟩

/-- The parser of the end does what its reading says. -/
theorem reads_finish : finish.Reads .finish where
  length_le hsome := by
    simp only [Reading.finish] at hsome
    split at hsome
    · cases hsome
      exact Nat.zero_le _
    · cases hsome
  matched {s value length} hsome := by
    simp only [Reading.finish] at hsome
    split at hsome
    · next hrest =>
      cases hsome
      rw [finish_of_nil hrest, Cursor.skip_zero]
    · cases hsome
  failed {s} hnone := by
    cases hrest : s.rest with
    | nil => simp [Reading.finish, hrest] at hnone
    | cons c cs =>
      exact ⟨.mismatch s _ c, ⟨Cursor.LeadsTo.refl s, .mismatch (Cursor.next?_of_rest hrest)⟩,
        finish_of_cons hrest⟩

/-- The parser of nothing does what its reading says. -/
theorem reads_nothing : nothing.Reads .nothing where
  length_le hsome := by
    cases hsome
    exact Nat.zero_le _
  matched {s value length} hsome := by
    cases hsome
    rw [nothing, Cursor.skip_zero]
  failed hnone := by cases hnone

/-- The parser of a text of several characters does what the reading of a literal says. -/
theorem reads_phrase (text : String) : (phrase text).Reads (.literal text) where
  length_le hsome := by
    simp only [Reading.literal] at hsome
    split at hsome
    · next hprefix =>
      cases hsome
      exact hprefix.length_le
    · cases hsome
  matched hsome := by
    simp only [Reading.literal] at hsome
    split at hsome
    · next hprefix =>
      cases hsome
      exact phrase_of_prefix hprefix
    · cases hsome
  failed {s} hnone := by
    simp only [Reading.literal] at hnone
    split at hnone
    · cases hnone
    · next hprefix =>
      obtain ⟨common, expected, later, htext, hcommon, hdifferent⟩ := exists_difference hprefix
      refine ⟨_, ⟨?_, placed_unexpected _ _⟩, phrase_of_difference htext hcommon hdifferent⟩
      rw [Cursor.cursor_unexpected]
      exact s.leadsTo_skip common.length

/-- Reading a literal of one character is reading that character. -/
theorem literal_reading_singleton {text : String} {c : Char} (h : text.toList = [c]) :
    Reading.literal text = .map String.singleton (.ofClass (· == c)) := by
  have htext : String.singleton c = text := by
    rw [← String.toList_inj, h, String.toList_singleton]
  funext cs
  cases cs with
  | nil => simp [Reading.literal, Reading.map, Reading.ofClass, h]
  | cons d cs =>
    by_cases hd : d = c
    · subst hd
      simp [Reading.literal, Reading.map, Reading.ofClass, h, htext]
    · have hne : ¬c = d := fun heq => hd heq.symm
      simp [Reading.literal, Reading.map, Reading.ofClass, h, hd, hne]

/-- The parser of a literal does what its reading says. -/
theorem reads_literal (text : String) : (literal text).Reads (.literal text) := by
  by_cases h : ∃ c, text.toList = [c]
  · obtain ⟨c, hc⟩ := h
    rw [literal_singleton hc, literal_reading_singleton hc]
    exact reads_map (reads_charOf _ _) _
  · rw [literal_of_ne_singleton (not_exists.mp h)]
    exact reads_phrase text

/-- The parser of blanks does what their reading says. -/
theorem reads_blanks : blanks.Reads .blanks where
  length_le hsome := by
    cases hsome
    exact (List.takeWhile_prefix isBlank).length_le
  matched hsome := by
    cases hsome
    exact blanks_eq _
  failed hnone := by cases hnone

/-- The parser of one or more blanks does what their reading says. -/
theorem reads_someBlanks : someBlanks.Reads .someBlanks where
  length_le hsome := by
    simp only [Reading.someBlanks] at hsome
    split at hsome
    · cases hsome
    · exact reads_blanks.length_le hsome
  matched {s value length} hsome := by
    simp only [Reading.someBlanks] at hsome
    split at hsome
    · cases hsome
    · next hne =>
      cases hrest : s.rest with
      | nil => simp [hrest] at hne
      | cons c cs =>
        have hc : isBlank c = true := Cursor.accepts_of_rest hrest hne
        have hblank : blank s = .matched _ := charOf_of_accepts hrest hc
        rw [someBlanks, hblank]
        exact reads_blanks.matched hsome
  failed {s} hnone := by
    simp only [Reading.someBlanks] at hnone
    split at hnone
    · next hempty =>
      obtain ⟨f, hcursor, hplaced, hfailed⟩ := charOf_failed "a whitespace" hempty
      refine ⟨f, .of_cursor_eq hcursor hplaced, ?_⟩
      rw [someBlanks, blank, hfailed]
      rfl
    · cases hnone

end Parser

end TextGrammar
