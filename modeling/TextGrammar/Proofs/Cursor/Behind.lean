import TextGrammar.Proofs.Parser.Characters

/-!
# Cursors behind other characters

`Cursor.behind` puts characters before the text of a cursor and moves the cursor along with
its text. What a cursor shows of its text stays the same: the rest, the next character and
the pieces of the text from one position to another.
-/

namespace TextGrammar

/-- Characters before a text move the places in it that are counted from the front. -/
theorem Text.place_add (front length : Nat) {index : Int} (h : 0 ≤ index) :
    place (front + length) (front + index) = front + place length index := by
  unfold place
  rw [if_neg (by omega), if_neg (by omega)]
  omega

/-- Slices that are counted from the front move along with their text. -/
theorem Text.slice_append (front text : Array Char) {start stop : Int} (hstart : 0 ≤ start)
    (hstop : 0 ≤ stop) :
    slice (front ++ text) (front.size + start) (front.size + stop) = slice text start stop := by
  rw [slice, slice, Array.size_append, place_add _ _ hstart, place_add _ _ hstop,
    Array.extract_append]
  simp

namespace Cursor

/-- The cursor at the same character if there are some more characters before the text. -/
def behind (front : Array Char) (s : Cursor) : Cursor :=
  ⟨front ++ s.text, front.size + s.pos, by
    have := s.pos_le
    rw [Array.size_append]
    omega⟩

variable (front : Array Char) (s : Cursor)

/-- The text with characters put in front. -/
@[simp] theorem text_behind : (s.behind front).text = front ++ s.text := rfl

/-- A position counts the characters put in front. -/
@[simp] theorem pos_behind : (s.behind front).pos = front.size + s.pos := rfl

/-- What is left to read does not depend on the characters in front. -/
@[simp] theorem rest_behind : (s.behind front).rest = s.rest := by
  rw [rest_eq_drop, rest_eq_drop, text_behind, pos_behind, Array.toList_append,
    ← Array.length_toList, List.drop_length_add_append]

/-- How much is left to read does not depend on the characters in front. -/
@[simp] theorem remaining_behind : (s.behind front).remaining = s.remaining := by
  rw [← length_rest, ← length_rest, rest_behind]

/-- Skipping is the same with characters in front. -/
@[simp] theorem skip_behind (count : Nat) :
    (s.behind front).skip count = (s.skip count).behind front := by
  refine Cursor.ext rfl ?_
  simp only [skip, behind, Array.size_append]
  omega

/-- Blanks are skipped alike with characters in front. -/
@[simp] theorem afterBlanks_behind : (s.behind front).afterBlanks = s.afterBlanks.behind front := by
  rw [afterBlanks, afterBlanks, rest_behind, skip_behind]

/-- The characters from one position to another are the same. -/
theorem textSince_behind {start : Int} (h : 0 ≤ start) :
    (s.behind front).textSince (front.size + start) = s.textSince start := by
  rw [textSince, textSince, text_behind, pos_behind, Int.natCast_add]
  exact Text.slice_append front s.text h (Int.natCast_nonneg _)

/-- A cursor is at the start of its rest, behind the characters that it has passed. -/
theorem behind_ofText_rest :
    (ofText (String.ofList s.rest)).behind (s.text.extract 0 s.pos) = s := by
  have hpos := s.pos_le
  have hrest : (ofText (String.ofList s.rest)).text = s.text.extract s.pos s.text.size := by
    change (String.ofList s.rest).toList.toArray = _
    rw [String.toList_ofList, rest, Array.toArray_toList]
  refine Cursor.ext ?_ ?_
  · rw [text_behind, hrest, Array.extract_append_extract, Nat.zero_min, Nat.max_eq_right hpos,
      Array.extract_size]
  · simp only [pos_behind, ofText, Array.size_extract]
    omega

end Cursor

end TextGrammar
