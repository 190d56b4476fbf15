import TextGrammar.Failure.Basic

/-!
# Matches

A match holds the value that was read, the cursor behind it and the position where it
began. A match of a named variant carries the name as its tag. A parser answers with a
match or a failure.
-/

namespace TextGrammar

/-- What a parser has read. -/
structure Match (α : Type) where
  value : α
  rest : Cursor
  start : Int
  tag : Option String

namespace Match

variable {α β : Type}

/-- The match with another value. -/
def withValue (m : Match α) (value : β) : Match β := ⟨value, m.rest, m.start, m.tag⟩

/-- The match with another tag. -/
def withTag (m : Match α) (tag : Option String) : Match α := { m with tag }

/-- How many characters were read. -/
def length (m : Match α) : Int := m.rest.pos - m.start

/-- The characters that were read. -/
def text (m : Match α) : List Char := m.rest.textSince m.start

/-- The text of a match in messages: its tag, its positions and its value, which must have a
text. -/
def write (m : Match Value) : Except Fault String :=
  let tag := match m.tag with
    | none => ""
    | some name => name ++ " "
  m.value.write.map fun text =>
    "<" ++ tag ++ Text.writeInt m.start ++ ".." ++ Text.writeNat m.rest.pos ++ "> \x7b" ++
      text ++ "\x7d"

end Match

/-- An untagged match from a cursor to another one. -/
def Cursor.matchTo {α : Type} (s : Cursor) (value : α) (rest : Cursor) : Match α :=
  ⟨value, rest, s.pos, none⟩

/-- What a parser answers. -/
inductive Outcome (α : Type) where
  | matched (m : Match α)
  | failed (f : Failure)

/-- Changes the value of a match and keeps failures. -/
def Outcome.map {α β : Type} (f : α → β) : Outcome α → Outcome β
  | .matched m => .matched (m.withValue (f m.value))
  | .failed failure => .failed failure

end TextGrammar
