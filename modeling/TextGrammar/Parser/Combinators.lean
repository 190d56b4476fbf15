import TextGrammar.Parser.Basic

/-!
# Combining parsers

Sequences, ordered choices, options, repetitions and edges. A sequence reads its parts one
behind the other; a choice makes every attempt at the same cursor and takes the first match.

A repetition reads matches one behind the other until an attempt fails or reads nothing.
Parsers that never go back make progress with every match. A user's own parser may go back;
a repetition that has made more attempts than the text has positions was at one of them twice
and would never end.

An edge leads from one grammar to another one and maybe back to itself. A match is wrapped
into a box, a used-up call stack becomes a failure of the innermost edge around it, and an
attempt inside too many other ones is refused.
-/

namespace TextGrammar.Parser

variable {α β : Type}

/-- Changes the value of a match by a function that can be observed. -/
def mapRun (parser : Parser α) (f : α → Run β) : Parser β := fun s =>
  (parser s).ifMatched fun m => (f m.value).bind fun b => .matched (m.withValue b)

/-- Reads the parts in order, each one from where the part before it ended. -/
def sequence : List (Parser α) → Parser (List α)
  | [], s => .matched (s.matchTo [] s)
  | parser :: parsers, s =>
    (parser s).ifMatched fun m =>
      (sequence parsers m.rest).ifMatched fun ms =>
        .matched (s.matchTo (m.value :: ms.value) ms.rest)

/-- The first match of some parsers at a cursor, or the failures of all of them. -/
def firstMatch : List (Parser α) → Cursor → Run (Except (List Failure) (Match α))
  | [], _ => .pure (.error [])
  | parser :: parsers, s =>
    (parser s).bind fun
      | .matched m => .pure (.ok m)
      | .failed f =>
        (firstMatch parsers s).bind fun
          | .ok m => .pure (.ok m)
          | .error failures => .pure (.error (f :: failures))

/-- Reads the first alternative that matches. When none does, an event says so. -/
def choice (exhausted : Nat → Nat → Event) (parsers : List (Parser α)) : Parser α := fun s =>
  (firstMatch parsers s).bind fun
    | .ok m => .matched m
    | .error failures =>
      (Run.emit (exhausted failures.length s.pos)).bind fun _ =>
        .failed (.noneMatched s failures)

/-- Reads the first alternative that matches. -/
def oneOf (parsers : List (Parser α)) : Parser α := choice .alternativesExhausted parsers

/-- Reads what a parser reads, and nothing if it fails. -/
def optional (parser : Parser α) (default : α) : Parser α := fun s =>
  (parser s).bind fun
    | .matched m => .matched m
    | .failed _ => .matched (s.matchTo default s)

/-! ### Repetitions -/

/-- The values of the matches from a cursor on, and the cursor behind the last one; at most the
given count of attempts. -/
def repeatFrom (parser : Parser α) : Nat → Cursor → Run (List α × Cursor)
  | 0, s => .fault (.endless s.pos)
  | attempts + 1, s =>
    (parser s).bind fun
      | .failed _ => .pure ([], s)
      | .matched m =>
        if m.rest.pos = s.pos then
          (Run.emit (.repetitionCut s.pos)).bind fun _ => .pure ([], s)
        else
          (repeatFrom parser attempts m.rest).bind fun (values, rest) =>
            .pure (m.value :: values, rest)

/-- A bound on the attempts at different positions of a text. -/
def attemptsIn (s : Cursor) : Nat := s.text.size + 2

/-- Reads as many matches as there are. -/
def many (parser : Parser α) : Parser (List α) := fun s =>
  (repeatFrom parser (attemptsIn s) s).bind fun (values, rest) => .matched (s.matchTo values rest)

/-- Reads as many matches as there are, of which there must be one. The first match counts even
when it reads nothing. -/
def many1 (parser : Parser α) : Parser (List α) := fun s =>
  (parser s).ifMatched fun m =>
    (repeatFrom parser (attemptsIn m.rest) m.rest).bind fun (values, rest) =>
      .matched (s.matchTo (m.value :: values) rest)

/-! ### Edges -/

/-- Reads what a parser reads, and puts it into a box. -/
def edge (parser : Parser Value) : Parser Value := fun s =>
  let run := parser s
  match run.answer with
  | .ok outcome => ⟨.entered s.pos :: run.events ++ [.left s.pos], .ok (outcome.map .box)⟩
  | .error e =>
    if e.kind = .recursion then
      ⟨.entered s.pos :: run.events ++ [.recovered s.pos], .ok (.failed (.tooDeep s))⟩
    else ⟨.entered s.pos :: run.events, .error e⟩

/-- Refuses an attempt. -/
def refused {α : Type} : Parser α := fun s => ⟨[.refused s.pos], .ok (.failed (.tooDeep s))⟩

/-- Notes every attempt at a parser and changes nothing. -/
def probed {α : Type} (label : String) (parser : Parser α) : Parser α := fun s =>
  (Run.emit (.probed label s.pos)).bind fun _ => parser s

end TextGrammar.Parser
