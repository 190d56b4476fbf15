import TextGrammar.Run
import TextGrammar.Text.CharSet

/-!
# Parsers

A parser reads from a cursor and answers with a match or a failure. This module holds the
parsers that read characters and literal texts. Every move of a cursor and every look at a
character is a checked one; that none of the checks ever fails is a matter of proof.
-/

namespace TextGrammar

/-- A parser of values of a type. -/
abbrev Parser (α : Type) : Type := Cursor → Run (Outcome α)

namespace Parser

open Text

variable {α β : Type}

/-- Changes the value of a match. -/
def map (f : α → β) (parser : Parser α) : Parser β := fun s =>
  (parser s).ifMatched fun m => .matched (m.withValue (f m.value))

/-- Fails since the next character is not the expected one. -/
def mismatch (s : Cursor) (expected : String) : Run (Outcome α) :=
  (Run.ofExcept (Failure.mismatch? s expected)).bind .failed

/-- Reads a character that passes a test. The description of the characters that pass is part of
the failures. -/
def satisfy (test : Char → Run Bool) (expected : String) : Parser Char := fun s =>
  match s.next? with
  | none => .failed (.ended s expected)
  | some c =>
    (test c).bind fun passed =>
      if passed then (Run.ofExcept (s.move 1)).bind fun rest => .matched (s.matchTo c rest)
      else mismatch s expected

/-- Reads a character of a class. -/
def charOf (accepts : Char → Bool) (expected : String) : Parser Char :=
  satisfy (fun c => .pure (accepts c)) expected

/-- Reads the given character. -/
def char (c : Char) : Parser Char := charOf (· == c) (quoteOne c)

/-- Reads one blank character. -/
def blank : Parser Char := charOf isBlank "a whitespace"

/-- Reads a letter, a digit or a numeral. -/
def alphanumeric : Parser Char := charOf isAlphanumeric "an alphanumeric character"

/-- Reads any character. -/
def anyChar : Parser Char := charOf (fun _ => true) "a character"

/-- Reads nothing and matches at the end of the text. -/
def finish : Parser Unit := fun s =>
  if s.isAtEnd then .matched (s.matchTo () s) else mismatch s "the end of the input"

/-- Reads nothing and always matches. -/
def nothing : Parser Unit := fun s => .matched (s.matchTo () s)

/-- How a failure of a literal describes the character that was expected. -/
def expectedOf (expected : Char) (literal : String) : String :=
  quoteOne expected ++ " of " ++ quote literal

/-- The failure at the first character, from an index on, in which the text at a cursor differs
from a literal. There must be such a character. -/
def firstDifference (literal : String) (s : Cursor) : Nat → List Char → Except Fault Failure
  | _, [] => .error .noDifference
  | index, expected :: chars =>
    match s.move index with
    | .error e => .error e
    | .ok place =>
      match place.next? with
      | none => .ok (.ended place (expectedOf expected literal))
      | some actual =>
        if actual = expected then firstDifference literal s (index + 1) chars
        else Failure.mismatch? place (expectedOf expected literal)

/-- Reads a literal of several characters. -/
def phrase (text : String) : Parser String := fun s =>
  if s.startsWith text.toList then
    (Run.ofExcept (s.move text.toList.length)).bind fun rest => .matched (s.matchTo text rest)
  else (Run.ofExcept (firstDifference text s 0 text.toList)).bind .failed

/-- Reads a literal. A single character is read like any other one. -/
def literal (text : String) : Parser String :=
  match text.toList with
  | [c] => map String.singleton (char c)
  | _ => phrase text

/-- The end of the run of blank characters from an index on. -/
def blankEnd (text : Array Char) (index : Nat) : Nat :=
  if h : index < text.size then
    if isBlank text[index] then blankEnd text (index + 1) else index
  else index
termination_by text.size - index

/-- The cursor behind the blank characters at a cursor. -/
def skipBlanks (s : Cursor) : Run Cursor := Run.ofExcept (Cursor.at? s.text (blankEnd s.text s.pos))

/-- Reads all blank characters, if there are any. -/
def blanks : Parser String := fun s =>
  (skipBlanks s).bind fun rest =>
    .matched (s.matchTo (String.ofList (rest.textSince s.pos)) rest)

/-- Reads all blank characters, of which there must be one. -/
def someBlanks : Parser String := fun s => (blank s).ifMatched fun _ => blanks s

end Parser

end TextGrammar
