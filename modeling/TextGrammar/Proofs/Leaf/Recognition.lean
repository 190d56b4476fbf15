import TextGrammar.Proofs.Leaf.Table
import TextGrammar.Proofs.Parser.Recognition

/-!
# Recognizing texts by leaves

Which texts literals, blanks and numbers recognize, and what must follow them.
-/

namespace TextGrammar

open Text

variable {s : Cursor} {cs : List Char}

/-! ### Blanks and digits -/

/-- One or more blanks. -/
def Text.IsGap (cs : List Char) : Prop := cs ≠ [] ∧ ∀ c ∈ cs, isBlank c = true

/-- No digit is blank. -/
theorem Text.isBlank_eq_false {c : Char} (h : isDecimal c = true) : isBlank c = false := by
  simp only [isDecimal, decimalDigits, List.contains_eq_mem, List.mem_cons, List.not_mem_nil,
    or_false, decide_eq_true_eq] at h
  rcases h with rfl | rfl | rfl | rfl | rfl | rfl | rfl | rfl | rfl | rfl <;> decide

/-- A text that starts with a gap does not start with a digit. -/
theorem Text.IsGap.leadingDigits_append (h : IsGap cs) (tail : List Char) :
    leadingDigits (cs ++ tail) = [] := by
  obtain ⟨c, cs, rfl⟩ := List.exists_cons_of_ne_nil h.1
  have hblank := h.2 c List.mem_cons_self
  have hdigit : ¬isDecimal c = true := by
    intro hdigit
    rw [isBlank_eq_false hdigit] at hblank
    cases hblank
  rw [leadingDigits, List.cons_append, List.takeWhile_cons_of_neg hdigit]

/-! ### Leaves -/

/-- A literal recognizes its own text, whatever follows. -/
theorem Leaf.recognizes_literal (text : String) :
    (Leaf.literal text).parser.Recognizes text.toList (.text text) fun _ => True := by
  refine (Leaf.parser_reads _).recognizes fun tail _ => ?_
  have hprefix : text.toList <+: text.toList ++ tail := List.prefix_append _ _
  simp only [Leaf.reading, Reading.map, Reading.literal, if_pos hprefix, Option.map_some]

/-- A literal fails on every other text. -/
theorem Leaf.fails_literal {text : String} (h : ¬text.toList <+: s.rest) :
    (Leaf.literal text).parser.Fails s := by
  apply (Leaf.parser_reads _).fails
  simp only [Leaf.reading, Reading.map, Reading.literal, if_neg h, Option.map_none]

/-- A gap is recognized in front of what is not blank. -/
theorem Leaf.recognizes_someBlanks (hgap : IsGap cs) :
    Leaf.someBlanks.parser.Recognizes cs (.text (String.ofList cs))
      fun tail => tail.takeWhile isBlank = [] := by
  refine (Leaf.parser_reads _).recognizes fun tail htail => ?_
  have htake : (cs ++ tail).takeWhile isBlank = cs := by
    rw [List.takeWhile_append_of_pos hgap.2, htail, List.append_nil]
  simp only [Leaf.reading, Reading.map, Reading.someBlanks, Reading.blanks, htake,
    if_neg hgap.1, Option.map_some]

/-- The digits of a number that fits the width are read in front of what is no digit. -/
theorem Leaf.reading_unsigned {width : Option Int} {tail : List Char} (hdigits : IsDigits cs)
    (hfits : Parser.fitsUnsigned width (readDigits cs) = true) (htail : leadingDigits tail = []) :
    (Leaf.unsigned width).reading (cs ++ tail) = some (.int (readDigits cs), cs.length) := by
  have htake := leadingDigits_append hdigits htail
  simp only [Leaf.reading, Reading.map, Reading.unsigned, htake]
  rw [if_pos ⟨hdigits.1, hfits⟩, Option.map_some]

/-- So they are recognized there. -/
theorem Leaf.recognizes_unsigned {width : Option Int} (hdigits : IsDigits cs)
    (hfits : Parser.fitsUnsigned width (readDigits cs) = true) :
    (Leaf.unsigned width).parser.Recognizes cs (.int (readDigits cs))
      fun tail => leadingDigits tail = [] :=
  (Leaf.parser_reads _).recognizes fun _ => Leaf.reading_unsigned hdigits hfits

end TextGrammar
