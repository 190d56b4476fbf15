import TextGrammar.Fault

/-!
# Cursors

A cursor is a position in a text, the end included. Parsers never change a text; they
return a cursor further along it. What the parsers read is the view `rest`, the characters
from the position to the end. Where a place is given by an integer, one that is not negative
counts characters from the front, a negative one counts from the back, and places outside the
text are moved to its ends.
-/

namespace TextGrammar.Text

/-- The place that an integer names in a text of the given length. -/
def place (length : Nat) (index : Int) : Nat :=
  if index < 0 then (length + index).toNat else min index.toNat length

/-- The characters from one place up to another. -/
def slice (text : Array Char) (start stop : Int) : List Char :=
  (text.extract (place text.size start) (place text.size stop)).toList

/-- A place never lies behind the end of the text. -/
theorem place_le (length : Nat) (index : Int) : place length index ≤ length := by
  unfold place
  split <;> omega

/-- A position inside the text is its own place. -/
theorem place_of_le {length pos : Nat} (h : pos ≤ length) : place length pos = pos := by
  unfold place
  split <;> omega

/-- Between two positions of the text, a slice holds the characters from the first to the second. -/
theorem slice_of_le {text : Array Char} {start stop : Nat} (hstart : start ≤ text.size)
    (hstop : stop ≤ text.size) : slice text start stop = (text.toList.take stop).drop start := by
  rw [slice, place_of_le hstart, place_of_le hstop, Array.toList_extract, List.extract_eq_take_drop,
    List.drop_take]

end TextGrammar.Text

namespace TextGrammar

/-- A position in a text. -/
@[ext]
structure Cursor where
  text : Array Char
  pos : Nat
  pos_le : pos ≤ text.size

namespace Cursor

/-- The start of a text. -/
def ofText (text : String) : Cursor := ⟨text.toList.toArray, 0, Nat.zero_le _⟩

/-- A position of a text, which must not lie outside. -/
def at? (text : Array Char) (pos : Int) : Except Fault Cursor :=
  if h : 0 ≤ pos ∧ pos ≤ text.size then .ok ⟨text, pos.toNat, by omega⟩
  else .error (.positionOutside pos)

/-- The characters from the position to the end. -/
def rest (s : Cursor) : List Char := (s.text.extract s.pos s.text.size).toList

/-- How many characters there are to the end. -/
def remaining (s : Cursor) : Nat := s.text.size - s.pos

/-- Whether the end has been reached. -/
def isAtEnd (s : Cursor) : Bool := decide (s.text.size ≤ s.pos)

/-- Whether there is a character left. -/
def hasNext (s : Cursor) : Bool := decide (s.pos < s.text.size)

/-- Whether there are at least that many characters to the end. -/
def hasAtLeast (s : Cursor) (amount : Int) : Bool := decide (s.pos + amount ≤ s.text.size)

/-- The next character. -/
def next? (s : Cursor) : Option Char := s.text[s.pos]?

/-- The characters from the position on, if there are that many. -/
def peek (s : Cursor) (amount : Int) : Option (List Char) :=
  if s.hasAtLeast amount then some (Text.slice s.text s.pos (s.pos + amount)) else none

/-- The cursor that many characters further along, which must not lie outside the text. -/
def move (s : Cursor) (amount : Int) : Except Fault Cursor := at? s.text (s.pos + amount)

/-- Whether the text goes on with the given characters from an index on. -/
def matchesAt (text : Array Char) : Nat → List Char → Bool
  | _, [] => true
  | index, c :: cs => text[index]? == some c && matchesAt text (index + 1) cs

/-- Whether the text goes on with the given characters. -/
def startsWith (s : Cursor) (chars : List Char) : Bool := matchesAt s.text s.pos chars

/-- The characters from a position up to the cursor. -/
def textSince (s : Cursor) (start : Int) : List Char := Text.slice s.text start s.pos

/-- The text of a cursor in messages: its position and the first twenty characters from there. -/
def render (s : Cursor) : String :=
  "<Source " ++ Text.writeNat s.pos ++ ": " ++ Text.quote (String.ofList (s.rest.take 20)) ++ ">"

/-! ### The view -/

/-- The rest is the text without the characters before the position. -/
theorem rest_eq_drop (s : Cursor) : s.rest = s.text.toList.drop s.pos := by
  rw [rest, Array.toList_extract, List.extract_eq_take_drop, List.take_of_length_le]
  simp

/-- The rest has as many characters as remain. -/
@[simp]
theorem length_rest (s : Cursor) : s.rest.length = s.remaining := by
  simp [rest_eq_drop, remaining]

/-- The next character is the first one of the rest. -/
theorem next?_eq_head? (s : Cursor) : s.next? = s.rest.head? := by
  rw [rest_eq_drop, List.head?_drop, next?, Array.getElem?_toList]

/-- There is no next character exactly at the end. -/
theorem next?_eq_none_iff {s : Cursor} : s.next? = none ↔ s.remaining = 0 := by
  simp only [next?, Array.getElem?_eq_none_iff, remaining]
  omega

/-- The end is reached when nothing remains. -/
theorem isAtEnd_iff {s : Cursor} : s.isAtEnd = true ↔ s.remaining = 0 := by
  simp only [isAtEnd, remaining, decide_eq_true_eq]
  omega

/-- A position inside the text gives a cursor. -/
theorem at?_of_le {text : Array Char} {pos : Nat} (h : pos ≤ text.size) :
    at? text pos = .ok ⟨text, pos, h⟩ := by
  have hbounds : (0 : Int) ≤ pos ∧ (pos : Int) ≤ text.size := by omega
  simp [at?, hbounds]

/-- Advancing by no more than what remains gives a cursor of the same text. -/
theorem move_of_le {s : Cursor} {amount : Nat} (h : amount ≤ s.remaining) :
    s.move amount =
      .ok ⟨s.text, s.pos + amount, by have := s.pos_le; unfold remaining at h; omega⟩ := by
  have hle : s.pos + amount ≤ s.text.size := by have := s.pos_le; unfold remaining at h; omega
  exact at?_of_le hle

/-- Characters stand at an index of a text just when the rest from there starts with them. -/
private theorem matchesAt_iff {text : Array Char} {chars : List Char} {index : Nat} :
    matchesAt text index chars = true ↔ chars <+: text.toList.drop index := by
  induction chars generalizing index with
  | nil => simp [matchesAt]
  | cons c cs ih =>
    simp only [matchesAt, Bool.and_eq_true, beq_iff_eq, ih]
    by_cases h : index < text.size
    · have hdrop : text.toList.drop index = text[index] :: text.toList.drop (index + 1) := by
        rw [List.drop_eq_getElem_cons (by simpa using h), Array.getElem_toList]
      rw [hdrop, List.cons_prefix_cons, Array.getElem?_eq_getElem h, Option.some.injEq, eq_comm]
    · have hdrop : text.toList.drop index = [] := List.drop_eq_nil_of_le (by simp; omega)
      rw [hdrop, Array.getElem?_eq_none (by omega)]
      simp

/-- A cursor starts with the prefixes of its rest. -/
theorem startsWith_iff {s : Cursor} {chars : List Char} :
    s.startsWith chars = true ↔ chars <+: s.rest := by
  rw [startsWith, matchesAt_iff, rest_eq_drop]

end Cursor

end TextGrammar
