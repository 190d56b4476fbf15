import TextGrammar.Failure.Basic

/-!
# Reports

A report tells a reader where a text went wrong. Each of its notes names a line and a
column and, if there is a character at the position, shows a piece of the line with a mark
under that character.
-/

namespace TextGrammar

/-- How many characters of a line a note shows. -/
def excerptWidth : Nat := 40

/-- The greatest column that is shown without cutting off the start of its line. -/
def excerptIndent : Nat := 20

/-- The lines of a text; only line feeds end a line. -/
def linesOf : List Char → List (List Char)
  | [] => [[]]
  | c :: cs =>
    if c = '\n' then [] :: linesOf cs
    else
      match linesOf cs with
      | [] => [[c]]
      | line :: lines => (c :: line) :: lines

/-- A place in a text for readers: the line and the column of a position, both counted from one. -/
structure Place where
  line : Nat
  column : Int
  deriving DecidableEq

/-- The line and the column of a position, which counts from the end when negative. -/
def placeOf (text : Array Char) (pos : Int) : Place :=
  let before := Text.slice text 0 pos
  let sinceBreak := (before.reverse.takeWhile (· ≠ '\n')).length
  let lineStart : Int := (before.length : Int) - sinceBreak
  ⟨before.count '\n' + 1, pos - lineStart + 1⟩

/-- The piece of a line around a column and a mark under that column, if the line has it. -/
def excerpt? (line : List Char) (column : Int) : Option String :=
  if line.length < column then none
  else if column ≤ excerptIndent then
    some (String.ofList
      (line.take excerptWidth ++ '\n' :: (List.replicate (column - 1).toNat ' ' ++ ['^'])))
  else
    some (String.ofList ((line.drop (column.toNat - excerptIndent - 1)).take excerptWidth ++
      '\n' :: (List.replicate excerptIndent ' ' ++ ['^'])))

/-- The text of a remark about a position. Positions behind the end are moved to the end. -/
def describe (text : Array Char) (note : Note) : String :=
  let pos := min note.pos text.size
  let place := placeOf text pos
  let header := "At position " ++ Text.writeInt pos ++ " (line " ++ Text.writeNat place.line ++
    ", column " ++ Text.writeInt place.column ++ ")"
  let excerpt := ((linesOf text.toList)[place.line - 1]?).bind fun line =>
    excerpt? line place.column
  "\n".intercalate (note.message.toList ++ header :: excerpt.toList)

/-- What went wrong in a text, for a reader. -/
structure Report where
  text : Array Char
  pos : Int
  message : Option String
  /-- The described remarks; the first one is about the position of the report itself. -/
  notes : List String

/-- A report about a position, with further remarks in their order. -/
def Report.make (text : Array Char) (pos : Int) (message : Option String) (notes : List Note) :
    Report :=
  ⟨text, pos, message, describe text ⟨pos, none⟩ :: notes.map (describe text)⟩

/-- A report with one more remark. -/
def Report.append (report : Report) (note : Note) : Report :=
  { report with notes := report.notes ++ [describe report.text note] }

/-- The report of a failure. -/
def Failure.report (f : Failure) : Report :=
  .make f.cursor.text f.pos f.message f.notes

/-- A text has at least one line. -/
theorem linesOf_ne_nil (text : List Char) : linesOf text ≠ [] := by
  cases text with
  | nil => simp [linesOf]
  | cons c cs =>
    rw [linesOf]
    split
    · simp
    · split <;> simp

/-- The report of a failure has one note for its position and one for each remark. -/
theorem Failure.length_report_notes (f : Failure) :
    f.report.notes.length = f.notes.length + 1 := by
  simp [report, Report.make]

end TextGrammar
