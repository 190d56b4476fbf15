import Mathlib.Tactic.TFAE
import TextGrammar.Proofs.Cursor.Advance

/-!
# The views of a cursor

What a cursor shows of its text is computed in several ways: some compare positions with the size
of the text, some cut out a piece of it, and a move checks the position that it comes to. All of
them agree on how many characters are left, also exactly at the end of the text.
-/

namespace TextGrammar.Cursor

variable {s : Cursor} {n : ℕ}

/-! ### Amounts of characters -/

/-- There are at least so many characters just when so many remain. -/
theorem hasAtLeast_iff : s.hasAtLeast n = true ↔ n ≤ s.remaining := by
  have := s.pos_le
  simp only [hasAtLeast, remaining, decide_eq_true_eq]
  omega

/-- Skipping takes from what remains, down to nothing. -/
@[simp] theorem remaining_skip (s : Cursor) (count : ℕ) :
    (s.skip count).remaining = s.remaining - count := by
  rw [← length_rest, rest_skip, List.length_drop, length_rest]

/-- The characters that are shown are those that a skip passes. -/
theorem peek_of_le (h : n ≤ s.remaining) : s.peek n = some (s.rest.take n) := by
  have hskip : Text.slice s.text s.pos (s.pos + n) = (s.skip n).textSince s.pos := by
    rw [textSince, pos_skip h, Int.natCast_add]
    rfl
  rw [peek, if_pos (hasAtLeast_iff.mpr h), hskip, textSince_skip]

/-- Nothing is peeked at when fewer characters remain than asked for. -/
theorem peek_of_lt (h : s.remaining < n) : s.peek n = none :=
  if_neg fun hleast => Nat.not_lt.mpr (hasAtLeast_iff.mp hleast) h

/-- Characters are peeked at just when there are as many as asked for. -/
theorem peek_ne_none_iff : s.peek n ≠ none ↔ n ≤ s.remaining := by
  by_cases h : n ≤ s.remaining
  · simp [peek_of_le h, h]
  · simp [peek_of_lt (Nat.lt_of_not_le h), h]

/-- A move behind the end comes to a position outside the text. -/
theorem move_of_lt (h : s.remaining < n) : s.move n = .error (.positionOutside (s.pos + n)) := by
  have := s.pos_le
  simp only [remaining] at h
  rw [move, at?, dif_neg (by omega)]

/-- A move succeeds just when as many characters remain. -/
theorem exists_move_iff : (∃ t, s.move n = .ok t) ↔ n ≤ s.remaining := by
  by_cases h : n ≤ s.remaining
  · simp [move_eq_skip h, h]
  · simp [move_of_lt (Nat.lt_of_not_le h), h]

/-! ### Moves one behind the other -/

/-- Two moves come to the cursor of the one move that adds them up, or neither way is there one. -/
theorem move_move (s : Cursor) (m n : ℕ) :
    (∃ t, (s.move m).bind (·.move n) = .ok t ∧ s.move (m + n) = .ok t) ∨
      ∃ e e', (s.move m).bind (·.move n) = .error e ∧ s.move (m + n) = .error e' := by
  rw [← Int.natCast_add]
  by_cases hfirst : m ≤ s.remaining
  · have hmoved : (s.move m).bind (·.move n) = (s.skip m).move n := by
      rw [move_eq_skip hfirst]
      rfl
    rw [hmoved]
    by_cases hsecond : n ≤ (s.skip m).remaining
    · have hboth : m + n ≤ s.remaining := by
        rw [remaining_skip] at hsecond
        omega
      refine .inl ⟨s.skip (m + n), ?_, move_eq_skip hboth⟩
      rw [move_eq_skip hsecond, skip_skip]
    · have hlast := Nat.lt_of_not_le hsecond
      have hboth : s.remaining < m + n := by
        rw [remaining_skip] at hlast
        omega
      exact .inr ⟨_, _, move_of_lt hlast, move_of_lt hboth⟩
  · have hlast := Nat.lt_of_not_le hfirst
    have hfault : (s.move m).bind (·.move n) = .error (.positionOutside (s.pos + m)) := by
      rw [move_of_lt hlast]
      rfl
    exact .inr ⟨_, _, hfault, move_of_lt (Nat.lt_add_right n hlast)⟩

/-! ### Characters and the end -/

/-- A text goes on with the characters that are shown of it. -/
theorem startsWith_iff_peek {chars : List Char} :
    s.startsWith chars = true ↔ s.peek chars.length = some chars := by
  rw [startsWith_iff]
  by_cases h : chars.length ≤ s.remaining
  · rw [peek_of_le h, Option.some.injEq, List.prefix_iff_eq_take, eq_comm]
  · rw [peek_of_lt (Nat.lt_of_not_le h)]
    have hlonger : ¬chars <+: s.rest := by
      intro hprefix
      rw [← length_rest] at h
      exact h hprefix.length_le
    simp [hlonger]

/-- A cursor is at the end just when nothing is left to read. -/
theorem isAtEnd_iff_rest : s.isAtEnd = true ↔ s.rest = [] := by
  rw [isAtEnd_iff, rest_eq_nil_iff]

/-- There is a next character or the cursor is at the end. -/
theorem hasNext_eq_not (s : Cursor) : s.hasNext = !s.isAtEnd := by
  rw [hasNext, isAtEnd, ← decide_not]
  exact decide_eq_decide.mpr Nat.not_le.symm

/-- All views of a cursor agree. There are so many characters left if they can be shown, and if a
move passes them; then the characters that are shown and the rest behind the move make up the rest
before. Two moves come to where one move by both amounts comes to, or neither does. A text goes on
with the given characters if they are shown, and it has ended if there is nothing left of it. -/
theorem views_agree (s : Cursor) :
    (∀ n : ℕ, [s.hasAtLeast n = true, s.peek n ≠ none, ∃ t, s.move n = .ok t,
      n ≤ s.remaining].TFAE) ∧
    (∀ n : ℕ, n ≤ s.remaining → ∃ chars t, s.peek n = some chars ∧ s.move n = .ok t ∧
      chars.length = n ∧ chars ++ t.rest = s.rest ∧ t.remaining = s.remaining - n) ∧
    (∀ m n : ℕ, (∃ t, (s.move m).bind (·.move n) = .ok t ∧ s.move (m + n) = .ok t) ∨
      ∃ e e', (s.move m).bind (·.move n) = .error e ∧ s.move (m + n) = .error e') ∧
    (∀ chars, s.startsWith chars = true ↔ s.peek chars.length = some chars) ∧
    (s.isAtEnd = true ↔ s.rest = []) ∧ (s.rest = [] ↔ s.hasNext = false) := by
  refine ⟨fun n => ?_, fun n h => ?_, s.move_move, fun _ => startsWith_iff_peek,
    isAtEnd_iff_rest, ?_⟩
  · tfae_have 1 ↔ 4 := hasAtLeast_iff
    tfae_have 2 ↔ 4 := peek_ne_none_iff
    tfae_have 3 ↔ 4 := exists_move_iff
    tfae_finish
  · refine ⟨s.rest.take n, s.skip n, peek_of_le h, move_eq_skip h, ?_, ?_, remaining_skip s n⟩
    · rw [List.length_take, length_rest, Nat.min_eq_left h]
    · rw [rest_skip, List.take_append_drop]
  · rw [← isAtEnd_iff_rest, hasNext_eq_not, Bool.not_eq_false']

end TextGrammar.Cursor
