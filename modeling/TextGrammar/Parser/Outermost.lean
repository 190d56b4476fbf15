import TextGrammar.Failure.Report
import TextGrammar.Parser.Basic

/-!
# The outermost uses of a parser

A parser is used for the value that it reads, or for a report to a reader where it reads none.
The whole text can be asked for, and then anything left over is reported.

It is also used for one value after another, each behind the value before it, as they are asked
for. Such an iteration is over when the parser fails, reads nothing or ends with a fault. A
fault that says that there are no more values would be taken for the end of the iteration, so
the iteration ends with another one in its place.
-/

namespace TextGrammar

namespace Parser

variable {α : Type}

/-- Reports a failure. -/
def report (f : Failure) : Run (Except Report α) :=
  (Run.emit (.parseFailed f.pos f.message)).bind fun _ => .pure (.error f.report)

/-- The value that a parser reads at a cursor, or a report. -/
def orReport (parser : Parser α) (complete : Bool) (s : Cursor) : Run (Except Report α) :=
  (parser s).bind fun
    | .failed f => report f
    | .matched m =>
      if complete && !m.rest.isAtEnd then
        (Run.ofExcept (Failure.mismatch? m.rest "the end of the input")).bind report
      else .pure (.ok m.value)

end Parser

/-! ### Values one by one -/

/-- The state of an iteration. -/
inductive Iteration (α : Type) where
  /-- Nothing has been asked for; the parser and the cursor may turn out to be faulty. -/
  | pending (start : Except Fault (Parser α × Cursor))
  /-- The next value is read at the cursor. -/
  | going (parser : Parser α) (s : Cursor)
  | finished

namespace Iteration

variable {α : Type}

/-- One attempt of an iteration: a value and the cursor behind it, or the end. -/
def attempt (parser : Parser α) (s : Cursor) : Run (Option (α × Cursor)) :=
  (parser s).bind fun
    | .failed _ => .pure none
    | .matched m => .pure (if s.pos < m.rest.pos then some (m.value, m.rest) else none)

/-- The fault with which an iteration ends when it comes to a fault. One that says that there are no
more values would be taken for the end of the iteration. -/
def faultOf (e : Fault) : Fault := if e.kind = .exhausted then .exhaustedInside else e

/-- The next value, if there is one, and the state behind it. -/
def step (parser : Parser α) (s : Cursor) : Run (Option α) × Iteration α :=
  let run := attempt parser s
  match run.answer with
  | .error e => (⟨run.events, .error (faultOf e)⟩, finished)
  | .ok none => (⟨run.events, .ok none⟩, finished)
  | .ok (some (value, rest)) => (⟨run.events, .ok (some value)⟩, going parser rest)

/-- The next value, if there is one, and the state behind it. -/
def next : Iteration α → Run (Option α) × Iteration α
  | finished => (.pure none, finished)
  | pending (.error e) => (.fault (faultOf e), finished)
  | pending (.ok (parser, s)) => step parser s
  | going parser s => step parser s

/-- A bound on the values that an iteration can still give. -/
def bound : Iteration α → Nat
  | pending (.ok (_, s)) | going _ s => s.text.size + 2
  | pending (.error _) | finished => 1

/-- The values that come next, at most the given count, and what happens meanwhile. -/
def take : Nat → Iteration α → List α × Run Unit
  | 0, _ => ([], .pure ())
  | count + 1, iteration =>
    let (run, later) := iteration.next
    match run.answer with
    | .error e => ([], ⟨run.events, .error e⟩)
    | .ok none => ([], ⟨run.events, .ok ()⟩)
    | .ok (some value) =>
      let (values, rest) := later.take count
      (value :: values, ⟨run.events ++ rest.events, rest.answer⟩)

/-- All values of an iteration, and what happens meanwhile. The values before a fault are kept. -/
def toList (iteration : Iteration α) : List α × Run Unit := iteration.take iteration.bound

end Iteration

end TextGrammar
