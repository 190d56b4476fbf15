import Mathlib
import TextGrammar.Failure.Report

/-!
# Lines of a text

The pieces between the line feeds of a text, seen from a place in it. As many whole lines
lie before the place as there are line feeds; together with the characters behind the last
of them they make up the text before the place, and the line at the place goes on to the
next line feed.
-/

namespace TextGrammar

/-- The lines of a text are what the text is split into at its line feeds. -/
theorem linesOf_eq_splitOn (text : List Char) : linesOf text = text.splitOn '\n' := by
  induction text with
  | nil => rfl
  | cons c cs ih =>
    rw [List.splitOn_cons_eq_if_modifyHead, linesOf]
    by_cases hc : c = '\n'
    · rw [if_pos hc, if_pos (beq_iff_eq.mpr hc), ih]
    · rw [if_neg hc, if_neg (by simpa using hc), ih]
      cases hlines : cs.splitOn '\n' with
      | nil => exact absurd hlines (List.splitOn_ne_nil '\n' cs)
      | cons line lines => rfl

namespace Text

/-- The characters behind the last line feed; all of them if there is none. -/
def sinceBreak (cs : List Char) : List Char := cs.rtakeWhile (· ≠ '\n')

/-- There is no line break behind the last one. -/
theorem break_notMem_sinceBreak (cs : List Char) : '\n' ∉ sinceBreak cs := by
  intro hmem
  have hne := List.mem_rtakeWhile_imp hmem
  simp at hne

/-- Without line breaks the line is the whole text. -/
theorem sinceBreak_of_notMem {cs : List Char} (h : '\n' ∉ cs) : sinceBreak cs = cs := by
  apply List.rtakeWhile_eq_self_iff.mpr
  intro c hc
  have hne : c ≠ '\n' := ne_of_mem_of_not_mem hc h
  simpa using hne

/-- A text with line feeds is whole lines, a line feed and the characters behind it. -/
theorem exists_append_sinceBreak {cs : List Char} (h : '\n' ∈ cs) :
    ∃ lines, cs = lines ++ '\n' :: sinceBreak cs := by
  have hsplit : cs.rdropWhile (· ≠ '\n') ++ sinceBreak cs = cs := List.rdropWhile_append_rtakeWhile
  have hne : cs.rdropWhile (· ≠ '\n') ≠ [] := by
    intro hnil
    rw [hnil, List.nil_append] at hsplit
    exact break_notMem_sinceBreak cs (hsplit.symm ▸ h)
  have hlast : (cs.rdropWhile (· ≠ '\n')).getLast hne = '\n' := by
    simpa using List.rdropWhile_last_not (· ≠ '\n') cs hne
  refine ⟨(cs.rdropWhile (· ≠ '\n')).dropLast, ?_⟩
  conv_lhs => rw [← hsplit, ← List.dropLast_append_getLast hne, hlast]
  rw [List.append_assoc, List.singleton_append]

/-- There is one line more than there are line feeds. -/
theorem length_splitOn_break (cs : List Char) :
    (cs.splitOn '\n').length = cs.count '\n' + 1 := by
  induction cs with
  | nil => rfl
  | cons c cs ih =>
    rw [List.splitOn_cons_eq_if_modifyHead, List.count_cons]
    split
    · rw [List.length_cons, ih]
    · rw [List.length_modifyHead, ih, Nat.add_zero]

/-- The lines and a line feed for each of them are one character longer than the text. -/
theorem sum_length_splitOn_break (cs : List Char) :
    ((cs.splitOn '\n').map (·.length + 1)).sum = cs.length + 1 := by
  induction cs with
  | nil => rfl
  | cons c cs ih =>
    rw [List.splitOn_cons_eq_if_modifyHead, List.length_cons]
    split
    · rw [List.map_cons, List.sum_cons, ih, List.length_nil]
      omega
    · obtain ⟨line, lines, hlines⟩ := List.exists_cons_of_ne_nil (List.splitOn_ne_nil '\n' cs)
      rw [hlines, List.map_cons, List.sum_cons] at ih
      rw [hlines, List.modifyHead_cons, List.map_cons, List.sum_cons, List.length_cons]
      omega

/-- The first line goes on to the first line feed. -/
theorem head?_splitOn_break {since : List Char} (h : '\n' ∉ since) (after : List Char) :
    ((since ++ after).splitOn '\n').head? = some (since ++ after.takeWhile (· ≠ '\n')) := by
  induction since with
  | nil =>
    rw [List.nil_append, List.nil_append]
    induction after with
    | nil => rfl
    | cons c cs ih =>
      rw [List.splitOn_cons_eq_if_modifyHead]
      by_cases hc : c = '\n'
      · simp [hc]
      · simp [hc, ih]
  | cons c since ih =>
    rw [List.mem_cons, not_or] at h
    rw [List.cons_append, List.splitOn_cons_eq_if_modifyHead,
      if_neg (by simpa using fun heq => h.1 heq.symm), List.head?_modifyHead, ih h.2]
    rfl

/-- The line at a place begins behind the last line feed before the place and goes on to the next
one; the lines before it, each with its line feed, are the text before it. -/
theorem splitOn_break_append (before after : List Char) :
    ((before ++ after).splitOn '\n')[before.count '\n']? =
        some (sinceBreak before ++ after.takeWhile (· ≠ '\n')) ∧
      ((((before ++ after).splitOn '\n').take (before.count '\n')).map (·.length + 1)).sum +
        (sinceBreak before).length = before.length := by
  by_cases hbreak : '\n' ∈ before
  · obtain ⟨lines, hlines⟩ := exists_append_sinceBreak hbreak
    have hnone := break_notMem_sinceBreak before
    generalize sinceBreak before = since at hlines hnone
    subst hlines
    -- the lines before the last line feed are those of the text before it, one more than it has
    have hcount : (lines ++ '\n' :: since).count '\n' = (lines.splitOn '\n').length := by
      rw [length_splitOn_break, List.count_append, List.count_cons_self,
        List.count_eq_zero_of_not_mem hnone]
    have hsplit : (lines ++ '\n' :: since ++ after).splitOn '\n' =
        lines.splitOn '\n' ++ (since ++ after).splitOn '\n' := by
      rw [List.append_assoc, List.cons_append, List.splitOn_append_cons_self]
    have hsum := sum_length_splitOn_break lines
    rw [hcount, hsplit]
    constructor
    · rw [List.getElem?_append_right (Nat.le_refl _), Nat.sub_self, ← List.head?_eq_getElem?,
        head?_splitOn_break hnone]
    · rw [List.take_left, hsum, List.length_append, List.length_cons]
      omega
  · rw [List.count_eq_zero_of_not_mem hbreak, sinceBreak_of_notMem hbreak]
    constructor
    · rw [← List.head?_eq_getElem?, head?_splitOn_break hbreak]
    · rw [List.take_zero, List.map_nil, List.sum_nil, Nat.zero_add]

end Text

end TextGrammar
