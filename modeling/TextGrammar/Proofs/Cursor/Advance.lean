import TextGrammar.Match

/-!
# Moving forward

Parsers only ever move forward in one text. `Cursor.skip` moves without a check and is what
a checked move gives whenever it succeeds; `Cursor.LeadsTo` relates a cursor to the cursors
of its text that do not lie before it. Everything else is said about the rest of the text.
-/

namespace TextGrammar.Cursor

/-- The cursor that many characters further along, or the end if there are fewer. -/
def skip (s : Cursor) (count : Nat) : Cursor :=
  ⟨s.text, min (s.pos + count) s.text.size, Nat.min_le_right _ _⟩

/-- Nothing of a text has been read at its start. -/
theorem rest_ofText (text : String) : (ofText text).rest = text.toList := by
  rw [rest_eq_drop, ofText, List.drop_zero]

/-- As long as enough characters remain, skipping adds to the position. -/
theorem pos_skip {s : Cursor} {count : Nat} (h : count ≤ s.remaining) :
    (s.skip count).pos = s.pos + count := by
  have := s.pos_le
  simp only [remaining] at h
  simp only [skip]
  omega

/-- Skipping nothing stays at the cursor. -/
@[simp] theorem skip_zero (s : Cursor) : s.skip 0 = s :=
  Cursor.ext rfl (pos_skip (Nat.zero_le _))

/-- Skipping twice skips the sum. -/
theorem skip_skip (s : Cursor) (first second : Nat) :
    (s.skip first).skip second = s.skip (first + second) := by
  refine Cursor.ext rfl ?_
  simp only [skip]
  omega

/-- Skipping drops characters from the rest. -/
@[simp] theorem rest_skip (s : Cursor) (count : Nat) : (s.skip count).rest = s.rest.drop count := by
  rw [rest_eq_drop, rest_eq_drop, List.drop_drop]
  by_cases h : s.pos + count ≤ s.text.size
  · simp [skip, Nat.min_eq_left h]
  · rw [List.drop_eq_nil_of_le, List.drop_eq_nil_of_le]
    · simp only [Array.length_toList]
      omega
    · simp only [Array.length_toList, skip]
      omega

/-- A move by no more than what remains is a skip. -/
theorem move_eq_skip {s : Cursor} {count : Nat} (h : count ≤ s.remaining) :
    s.move count = .ok (s.skip count) := by
  rw [move_of_le h]
  exact congrArg Except.ok (Cursor.ext rfl (pos_skip h).symm)

/-- Nothing remains exactly when the rest is empty. -/
theorem rest_eq_nil_iff {s : Cursor} : s.rest = [] ↔ s.remaining = 0 := by
  rw [← length_rest, List.length_eq_zero_iff]

/-- The next character together with what remains behind it. -/
theorem next?_of_rest {s : Cursor} {c : Char} {cs : List Char} (h : s.rest = c :: cs) :
    s.next? = some c := by
  rw [next?_eq_head?, h, List.head?_cons]

/-- Behind the last character there is no next one. -/
theorem next?_of_rest_eq_nil {s : Cursor} (h : s.rest = []) : s.next? = none := by
  rw [next?_eq_head?, h, List.head?_nil]

/-- Behind the next character lies the rest of the rest. -/
theorem rest_skip_one {s : Cursor} {c : Char} {cs : List Char} (h : s.rest = c :: cs) :
    (s.skip 1).rest = cs := by
  rw [rest_skip, h, List.drop_one, List.tail_cons]

/-- Behind the first characters of the rest lies the remainder. -/
theorem rest_skip_length {s : Cursor} {cs tail : List Char} (h : s.rest = cs ++ tail) :
    (s.skip cs.length).rest = tail := by
  rw [rest_skip, h, List.drop_left]

/-- If some of the next characters belong to a class, the next one does. -/
theorem accepts_of_rest {s : Cursor} {accepts : Char → Bool} {c : Char} {cs : List Char}
    (h : s.rest = c :: cs) (hsome : s.rest.takeWhile accepts ≠ []) : accepts c = true := by
  rw [h] at hsome
  simpa [List.takeWhile_cons] using hsome

/-- There is a character as long as the rest is not empty. -/
theorem remaining_of_rest {s : Cursor} {c : Char} {cs : List Char} (h : s.rest = c :: cs) :
    s.remaining = cs.length + 1 := by
  rw [← length_rest, h, List.length_cons]

/-- A start of the rest ends that many characters behind the cursor. -/
theorem pos_skip_of_prefix {s : Cursor} {start : List Char} (h : start <+: s.rest) :
    (s.skip start.length).pos = s.pos + start.length := by
  have hlength := h.length_le
  rw [length_rest] at hlength
  exact pos_skip hlength

/-- A cursor leads to the cursors of its text that do not lie before it. -/
structure LeadsTo (s t : Cursor) : Prop where
  text_eq : t.text = s.text
  pos_le : s.pos ≤ t.pos

/-- Every cursor leads to itself. -/
@[refl] theorem LeadsTo.refl (s : Cursor) : s.LeadsTo s := ⟨rfl, Nat.le_refl _⟩

/-- Moves forward one after the other are a move forward. -/
theorem LeadsTo.trans {s t u : Cursor} (hst : s.LeadsTo t) (htu : t.LeadsTo u) : s.LeadsTo u :=
  ⟨htu.text_eq.trans hst.text_eq, Nat.le_trans hst.pos_le htu.pos_le⟩

/-- Skipping moves forward. -/
theorem leadsTo_skip (s : Cursor) (count : Nat) : s.LeadsTo (s.skip count) := by
  have := s.pos_le
  constructor
  · rfl
  · simp only [skip]
    omega

/-- Moving forward never leaves more characters. -/
theorem LeadsTo.remaining_le {s t : Cursor} (h : s.LeadsTo t) : t.remaining ≤ s.remaining := by
  have hpos := h.pos_le
  simp only [remaining, h.text_eq]
  omega

/-- Moving forward to another position leaves fewer characters. -/
theorem LeadsTo.remaining_lt {s t : Cursor} (h : s.LeadsTo t) (hne : t.pos ≠ s.pos) :
    t.remaining < s.remaining := by
  have hpos := h.pos_le
  have hend := t.pos_le
  rw [h.text_eq] at hend
  simp only [remaining, h.text_eq]
  omega

/-- Two cursors of one text at one position are the same. -/
theorem LeadsTo.eq_of_pos_eq {s t : Cursor} (h : s.LeadsTo t) (hpos : t.pos = s.pos) : t = s :=
  Cursor.ext h.text_eq hpos

/-- The characters on the way and the rest behind it make up the rest before it. -/
theorem LeadsTo.textSince_append_rest {s t : Cursor} (h : s.LeadsTo t) :
    t.textSince s.pos ++ t.rest = s.rest := by
  have hend := t.pos_le
  have hpos := h.pos_le
  rw [textSince, Text.slice_of_le (by omega) hend, rest_eq_drop, rest_eq_drop, h.text_eq]
  have hsplit := List.take_append_drop t.pos s.text.toList
  have htake : s.pos ≤ (s.text.toList.take t.pos).length := by
    rw [h.text_eq] at hend
    simp only [List.length_take, Array.length_toList]
    omega
  rw [← List.drop_append_of_le_length htake, hsplit]

/-- The characters that a skip passes are the first ones of the rest. -/
theorem textSince_skip (s : Cursor) (count : Nat) :
    (s.skip count).textSince s.pos = s.rest.take count := by
  have hsplit := (leadsTo_skip s count).textSince_append_rest
  rw [rest_skip] at hsplit
  have hdrop := List.take_append_drop count s.rest
  exact List.append_cancel_right (hsplit.trans hdrop.symm)

/-- A match between two cursors has the value that it is given. -/
@[simp] theorem matchTo_value {α : Type} (s : Cursor) (value : α) (rest : Cursor) :
    (s.matchTo value rest).value = value := rfl

/-- A match between two cursors ends at the second one. -/
@[simp] theorem matchTo_rest {α : Type} (s : Cursor) (value : α) (rest : Cursor) :
    (s.matchTo value rest).rest = rest := rfl

end TextGrammar.Cursor
