import TextGrammar.Proofs.Text.Lines

/-!
# Where notes point

A note names the line and the column of a position, and these two find the position again
among the lines of the text. It shows a piece of the line exactly if there is a character
of the line at the position, and the mark is under that character.
-/

namespace TextGrammar

open Text

/-- The line of a position, counted from one. -/
def lineAt (text : Array Char) (pos : Nat) : Nat := (text.toList.take pos).count '\n' + 1

/-- The column of a position in its line, counted from one. -/
def columnAt (text : Array Char) (pos : Nat) : Nat :=
  (sinceBreak (text.toList.take pos)).length + 1

/-- The line of a position, without the line feed that ends it. -/
def lineAround (text : Array Char) (pos : Nat) : List Char :=
  sinceBreak (text.toList.take pos) ++ (text.toList.drop pos).takeWhile (· ≠ '\n')

/-- How a note names a position. -/
def heading (pos line column : Nat) : String :=
  "At position " ++ writeNat pos ++ " (line " ++ writeNat line ++ ", column " ++
    writeNat column ++ ")"

/-- A piece of a line with a mark under it. -/
structure Excerpt where
  piece : List Char
  /-- How many characters of the piece are to the left of the mark. -/
  indent : Nat

/-- The piece and, below it, the mark. -/
def Excerpt.render (e : Excerpt) : String :=
  String.ofList (e.piece ++ '\n' :: (List.replicate e.indent ' ' ++ ['^']))

/-- An excerpt is a short piece of a line, and its mark is under the character at an index. -/
structure Excerpt.Marks (e : Excerpt) (chars : List Char) (index : Nat) : Prop where
  isPiece : ∃ skipped, skipped ++ e.piece <+: chars ∧ skipped.length + e.indent = index
  length_le : e.piece.length ≤ 40
  indent_lt : e.indent < e.piece.length
  mark_eq : e.piece[e.indent]? = chars[index]?

/-- What a note with a message and maybe an excerpt tells about a position. -/
structure Describes (text : Array Char) (pos : Nat) (message : Option String)
    (excerpt : Option Excerpt) (described : String) : Prop where
  described_eq : described = "\n".intercalate (message.toList ++
    heading pos (lineAt text pos) (columnAt text pos) :: (excerpt.map Excerpt.render).toList)
  /-- The line and the column find the position in the text. -/
  pos_eq : (((text.toList.splitOn '\n').take (lineAt text pos - 1)).map (·.length + 1)).sum +
    (columnAt text pos - 1) = pos
  shown_iff : excerpt.isSome ↔ ∃ c, text[pos]? = some c ∧ c ≠ '\n'
  marks : ∀ e ∈ excerpt, ∃ line, (text.toList.splitOn '\n')[lineAt text pos - 1]? = some line ∧
    e.Marks line (columnAt text pos - 1) ∧ e.piece[e.indent]? = text[pos]?

/-! ### Excerpts -/

/-- No piece is shown of a line that ends before the column. -/
theorem excerpt?_of_le {line : List Char} {index : Nat} (h : line.length ≤ index) :
    excerpt? line (index + 1) = none := by
  have hcolumn : (line.length : Int) < index + 1 := by omega
  rw [excerpt?, if_pos hcolumn]

/-- A piece from the start of the line marks every one of the first columns. -/
theorem marks_take {line : List Char} {index : Nat} (h : index < line.length)
    (hindex : index < excerptIndent) :
    Excerpt.Marks ⟨line.take excerptWidth, index⟩ line index := by
  have hwidth : index < excerptWidth := Nat.lt_trans hindex (by decide)
  refine ⟨⟨[], List.take_prefix _ _, Nat.zero_add _⟩, ?_, ?_, ?_⟩
  · exact List.length_take_le _ _
  · rw [List.length_take]
    exact Nat.lt_min.mpr ⟨hwidth, h⟩
  · exact List.getElem?_take_of_lt hwidth

/-- Further to the right the piece begins as far before the column as its mark is indented. -/
theorem marks_drop {line : List Char} {index : Nat} (h : index < line.length)
    (hindex : excerptIndent ≤ index) :
    Excerpt.Marks ⟨(line.drop (index - excerptIndent)).take excerptWidth, excerptIndent⟩ line
      index := by
  have hwidth : excerptIndent < excerptWidth := by decide
  refine ⟨⟨line.take (index - excerptIndent), ?_, ?_⟩, ?_, ?_, ?_⟩
  · conv_rhs => rw [← List.take_append_drop (index - excerptIndent) line]
    exact List.prefix_append_right_inj _ |>.mpr (List.take_prefix _ _)
  · rw [List.length_take]
    dsimp only
    omega
  · exact List.length_take_le _ _
  · rw [List.length_take, List.length_drop]
    dsimp only
    omega
  · rw [List.getElem?_take_of_lt hwidth, List.getElem?_drop, Nat.sub_add_cancel hindex]

/-- Of a line that has the column a piece is shown, with the mark under that column. -/
theorem exists_excerpt {line : List Char} {index : Nat} (h : index < line.length) :
    ∃ e : Excerpt, excerpt? line (index + 1) = some e.render ∧ e.Marks line index := by
  have hcolumn : ¬(line.length : Int) < index + 1 := by omega
  by_cases hindex : index < excerptIndent
  · refine ⟨_, ?_, marks_take h hindex⟩
    have hshort : (index + 1 : Int) ≤ excerptIndent := by omega
    have hblanks : ((index + 1 : Int) - 1).toNat = index := by omega
    rw [excerpt?, if_neg hcolumn, if_pos hshort, hblanks, Excerpt.render]
  · have hle : excerptIndent ≤ index := Nat.le_of_not_lt hindex
    refine ⟨_, ?_, marks_drop h hle⟩
    have hlong : ¬(index + 1 : Int) ≤ excerptIndent := by omega
    have hskipped : (index + 1 : Int).toNat - excerptIndent - 1 = index - excerptIndent := by omega
    rw [excerpt?, if_neg hcolumn, if_neg hlong, hskipped, Excerpt.render]

/-! ### Positions -/

/-- A position from the front has the line and the column of the characters before it. -/
theorem placeOf_eq {text : Array Char} {pos : Nat} (hpos : pos ≤ text.size) :
    placeOf text pos = ⟨lineAt text pos, columnAt text pos⟩ := by
  have hbefore : slice text 0 pos = text.toList.take pos := slice_of_le (Nat.zero_le _) hpos
  have hlength : (text.toList.take pos).length = pos := by
    rw [List.length_take, Array.length_toList, Nat.min_eq_left hpos]
  have hsince : ((text.toList.take pos).reverse.takeWhile (· ≠ '\n')).length =
      (sinceBreak (text.toList.take pos)).length := List.length_reverse.symm
  rw [placeOf, hbefore]
  refine Place.mk.injEq .. |>.mpr ⟨rfl, ?_⟩
  rw [hlength, hsince, columnAt]
  omega

/-- The line of a position is the one with its number. -/
theorem getElem?_splitOn_lineAt (text : Array Char) (pos : Nat) :
    (text.toList.splitOn '\n')[lineAt text pos - 1]? = some (lineAround text pos) := by
  have hline := (splitOn_break_append (text.toList.take pos) (text.toList.drop pos)).1
  rwa [List.take_append_drop] at hline

/-- The lines before that of a position and the characters before its column are the text before
the position. -/
theorem sum_splitOn_lineAt {text : Array Char} {pos : Nat} (hpos : pos ≤ text.size) :
    (((text.toList.splitOn '\n').take (lineAt text pos - 1)).map (·.length + 1)).sum +
      (columnAt text pos - 1) = pos := by
  have hsum := (splitOn_break_append (text.toList.take pos) (text.toList.drop pos)).2
  have hlength : (text.toList.take pos).length = pos := by
    rw [List.length_take, Array.length_toList, Nat.min_eq_left hpos]
  rwa [List.take_append_drop, hlength] at hsum

/-- In the column of a position its line has the character there, unless that is a line feed. -/
theorem getElem?_lineAround (text : Array Char) (pos : Nat) :
    (lineAround text pos)[columnAt text pos - 1]? = text[pos]?.filter (· ≠ '\n') := by
  have hnext : text[pos]? = (text.toList.drop pos).head? := by
    rw [List.head?_drop, Array.getElem?_toList]
  rw [lineAround, columnAt, Nat.add_sub_cancel, List.getElem?_append_right (Nat.le_refl _),
    Nat.sub_self, ← List.head?_eq_getElem?, List.head?_takeWhile, hnext]

/-- A natural number is written as an integer as it is by itself. -/
theorem writeInt_natCast (n : Nat) : writeInt n = writeNat n := by
  rw [writeInt, if_neg (Int.not_lt.mpr (Int.natCast_nonneg n)), Int.natAbs_natCast]

/-- A note names the line and the column and shows what it can of the line. -/
theorem describe_eq {text : Array Char} {pos : Nat} (hpos : pos ≤ text.size)
    (message : Option String) :
    describe text ⟨pos, message⟩ = "\n".intercalate (message.toList ++
      heading pos (lineAt text pos) (columnAt text pos) ::
        (excerpt? (lineAround text pos) (columnAt text pos)).toList) := by
  have hclamped : min (pos : Int) text.size = pos := by omega
  have hline := getElem?_splitOn_lineAt text pos
  rw [← linesOf_eq_splitOn] at hline
  simp only [describe, hclamped, placeOf_eq hpos]
  rw [hline, writeInt_natCast, writeInt_natCast, Option.bind_some]
  delta heading
  rfl

/-- A position behind the end is described like the end. -/
theorem describe_min (text : Array Char) (p : Nat) (message : Option String) :
    describe text ⟨p, message⟩ = describe text ⟨(min p text.size : Nat), message⟩ := by
  have hclamped : min ((min p text.size : Nat) : Int) text.size = min (p : Int) text.size := by
    omega
  simp only [describe, hclamped]

/-- A note describes the position that it is about; behind the end that is the end. -/
theorem exists_describes (text : Array Char) (p : Nat) (message : Option String) :
    ∃ excerpt, Describes text (min p text.size) message excerpt (describe text ⟨p, message⟩) := by
  rw [describe_min]
  generalize hmin : min p text.size = pos
  have hpos : pos ≤ text.size := hmin ▸ Nat.min_le_right _ _
  have hdescribed := describe_eq hpos message
  have hline := getElem?_splitOn_lineAt text pos
  have hchar := getElem?_lineAround text pos
  have hcolumn : ((columnAt text pos : Nat) : Int) = (columnAt text pos - 1 : Nat) + 1 := rfl
  rw [hcolumn] at hdescribed
  rcases Nat.lt_or_ge (columnAt text pos - 1) (lineAround text pos).length with hlt | hge
  · obtain ⟨e, hshown, hmarks⟩ := exists_excerpt hlt
    rw [List.getElem?_eq_getElem hlt, eq_comm, Option.filter_eq_some_iff] at hchar
    obtain ⟨hc, hne⟩ := hchar
    rw [hshown] at hdescribed
    refine ⟨some e, hdescribed, sum_splitOn_lineAt hpos, ?_, ?_⟩
    · exact iff_of_true rfl ⟨_, hc, of_decide_eq_true hne⟩
    · rintro _ ⟨⟩
      refine ⟨_, hline, hmarks, ?_⟩
      rw [hmarks.mark_eq, hc, List.getElem?_eq_getElem hlt]
  · rw [List.getElem?_eq_none hge, eq_comm, Option.filter_eq_none_iff] at hchar
    rw [excerpt?_of_le hge] at hdescribed
    refine ⟨none, hdescribed, sum_splitOn_lineAt hpos, ?_, by simp⟩
    refine iff_of_false Bool.false_ne_true ?_
    rintro ⟨c, hc, hne⟩
    exact hchar c hc (decide_eq_true hne)

/-- Every note made for a position describes it, and the notes of a report of a failure are made
for the position of the failure and, in their order, for its remarks. -/
theorem Report.notes_describe (report : Report) (p : Nat) (message : Option String)
    (f : Failure) :
    (report.append ⟨p, message⟩).notes = report.notes ++ [describe report.text ⟨p, message⟩] ∧
      (∃ excerpt, Describes report.text (min p report.text.size) message excerpt
        (describe report.text ⟨p, message⟩)) ∧
      f.report.text = f.cursor.text ∧
      f.report.notes = (⟨f.pos, none⟩ :: f.notes).map (describe f.cursor.text) :=
  ⟨rfl, exists_describes _ _ _, rfl, rfl⟩

example : describe "ab\ncd".toList.toArray ⟨4, none⟩ =
    "At position 4 (line 2, column 2)\ncd\n ^" := by cbv

end TextGrammar
