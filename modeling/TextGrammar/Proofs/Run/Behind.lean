import TextGrammar.Parser.Combinators
import TextGrammar.Proofs.Cursor.Behind

/-!
# Runs behind other characters

What a run is when the text stands behind some more characters: all positions in its events,
in its match or in its failure are greater by the count of these characters, and nothing else
is different. A run that is followed by another one is moved by moving both.
-/

namespace TextGrammar

variable {α β α' β' : Type} (front : Array Char)

/-! ### Failures and matches -/

/-- A remark about the same character. -/
def Note.behind (n : Note) : Note := ⟨front.size + n.pos, n.message⟩

mutual

/-- The failure at the same character, together with all failures nested in it. -/
def Failure.behind : Failure → Failure
  | .plain place message notes => .plain (place.behind front) message (notes.map (·.behind front))
  | .mismatch place expected actual => .mismatch (place.behind front) expected actual
  | .ended place expected => .ended (place.behind front) expected
  | .noneMatched place failures => .noneMatched (place.behind front) (failuresBehind failures)
  | .noNumber place cause => .noNumber (place.behind front) cause.behind
  | .tooWide place text width => .tooWide (place.behind front) text width
  | .noExponent place => .noExponent (place.behind front)
  | .rejected place field value writable => .rejected (place.behind front) field value writable
  | .tooDeep place => .tooDeep (place.behind front)

/-- The failures at the same characters. -/
def failuresBehind : List Failure → List Failure
  | [] => []
  | f :: fs => f.behind :: failuresBehind fs

end

/-- Failures are moved one by one. -/
theorem failuresBehind_eq_map (failures : List Failure) :
    failuresBehind front failures = failures.map (Failure.behind front) := by
  induction failures with
  | nil => rw [failuresBehind, List.map_nil]
  | cons f fs ih => rw [failuresBehind, ih, List.map_cons]

/-- The match of the same characters. -/
def Match.behind (m : Match α) : Match α :=
  ⟨m.value, m.rest.behind front, front.size + m.start, m.tag⟩

/-- The outcome at the same characters. -/
def Outcome.behind : Outcome α → Outcome α
  | .matched m => .matched (m.behind front)
  | .failed f => .failed (f.behind front)

namespace Failure

/-- A moved failure lies at the moved cursor. -/
@[simp] theorem cursor_behind (f : Failure) : (f.behind front).cursor = f.cursor.behind front := by
  cases f <;> simp only [behind, cursor]

/-- Moving a failure does not change its kind. -/
@[simp] theorem kindName_behind (f : Failure) : (f.behind front).kindName = f.kindName := by
  cases f <;> simp only [behind, kindName]

/-- A failure gives the same reason wherever the text stands. -/
@[simp] theorem message_behind (f : Failure) : (f.behind front).message = f.message := by
  cases f with
  | noneMatched place failures =>
    simp only [behind, message, failuresBehind_eq_map, List.length_map]
  | rejected place field value writable => cases field <;> simp only [behind, message]
  | _ => simp only [behind, message]

/-- The remarks of a failure are about the same characters. -/
theorem notes_behind (f : Failure) :
    (f.behind front).notes = f.notes.map (Note.behind front) := by
  cases f with
  | noneMatched place failures =>
    simp only [behind, notes, failuresBehind_eq_map, List.map_map]
    refine List.map_congr_left fun g _ => ?_
    simp only [Function.comp_apply, note, pos, cursor_behind, message_behind, Cursor.pos_behind,
      Note.behind, Int.natCast_add]
  | _ => simp only [behind, notes, List.map_nil]

end Failure

namespace Match

/-- A match behind the start of a text reads the same characters. -/
theorem text_behind {m : Match α} (h : 0 ≤ m.start) : (m.behind front).text = m.text :=
  m.rest.textSince_behind front h

end Match

/-- A match between moved cursors is the moved match. -/
theorem Cursor.matchTo_behind (s : Cursor) (value : α) (rest : Cursor) :
    (s.matchTo value rest).behind front = (s.behind front).matchTo value (rest.behind front) := by
  simp only [matchTo, Match.behind, pos_behind, Int.natCast_add]

/-! ### Events and runs -/

/-- The call at the same character. -/
def Call.behind : Call → Call
  | .custom pos => .custom (front.size + pos)
  | call => call

/-- The event at the same character. -/
def Event.behind : Event → Event
  | .probed label pos => .probed label (front.size + pos)
  | .targeted label => .targeted label
  | .called call => .called (call.behind front)
  | .raised e => .raised e
  | .entered pos => .entered (front.size + pos)
  | .left pos => .left (front.size + pos)
  | .recovered pos => .recovered (front.size + pos)
  | .refused pos => .refused (front.size + pos)
  | .alternativesExhausted count pos => .alternativesExhausted count (front.size + pos)
  | .variantsExhausted names pos => .variantsExhausted names (front.size + pos)
  | .repetitionCut pos => .repetitionCut (front.size + pos)
  | .parseFailed pos message => .parseFailed (front.size + pos) message

namespace Run

/-- The run at the same characters, given what becomes of its answer. A fault stays as it is. -/
def behind (f : α → β) (run : Run α) : Run β :=
  ⟨run.events.map (Event.behind front), run.answer.map f⟩

variable {front} {f : α → β}

/-- An answer is moved by itself. -/
theorem pure_behind (a : α) : (Run.pure a).behind front f = .pure (f a) := rfl

/-- An event is moved by itself. -/
theorem emit_behind (event : Event) (f : Unit → Unit) :
    (emit event).behind front f = emit (event.behind front) := rfl

/-- A match is moved by itself. -/
theorem matched_behind (m : Match α) :
    (matched m).behind front (Outcome.behind front) = matched (m.behind front) := rfl

/-- A match between the same characters. -/
theorem matchTo_behind (s : Cursor) (value : α) (rest : Cursor) :
    matched ((s.behind front).matchTo value (rest.behind front)) =
      (matched (s.matchTo value rest)).behind front (Outcome.behind front) := by
  rw [matched_behind, Cursor.matchTo_behind]

/-- A failure is moved by itself. -/
theorem failed_behind (e : Failure) :
    (failed e : Run (Outcome α)).behind front (Outcome.behind front) = failed (e.behind front) :=
  rfl

/-- Runs that follow one another are moved together. -/
theorem bind_behind {g : α' → β'} {run : Run α} {run' : Run β} {next : α → Run α'}
    {next' : β → Run β'} (hrun : run' = run.behind front f)
    (hnext : ∀ a, run.answer = .ok a → next' (f a) = (next a).behind front g) :
    run'.bind next' = (run.bind next).behind front g := by
  cases hanswer : run.answer with
  | error e =>
    have hmoved : run'.answer = .error e := by rw [hrun, behind, hanswer]; rfl
    rw [bind_of_error hanswer, bind_of_error hmoved, hrun]
    rfl
  | ok a =>
    have hmoved : run'.answer = .ok (f a) := by rw [hrun, behind, hanswer]; rfl
    rw [bind_of_ok hanswer, bind_of_ok hmoved, hnext a hanswer, hrun]
    simp only [behind, List.map_append]

/-- Going on with a match is moved together with it; failures are passed on. -/
theorem ifMatched_behind {run run' : Run (Outcome α)} {next next' : Match α → Run (Outcome β)}
    (hrun : run' = run.behind front (Outcome.behind front))
    (hnext : ∀ m, run.answer = .ok (.matched m) →
      next' (m.behind front) = (next m).behind front (Outcome.behind front)) :
    run'.ifMatched next' = (run.ifMatched next).behind front (Outcome.behind front) := by
  apply bind_behind hrun
  intro outcome houtcome
  cases outcome with
  | matched m => exact hnext m houtcome
  | failed e => rfl

/-- A run in which no position plays a part. -/
def IsPlaceless (run : Run α) : Prop := ∀ front, run = run.behind front id

/-- Where nothing happens, no position plays a part. -/
theorem isPlaceless_pure (a : α) : (Run.pure a).IsPlaceless := fun _ => rfl

/-- A user's function that is given no position does not see where the text stands. -/
theorem isPlaceless_consult {call : Call} (h : ∀ front, call.behind front = call)
    (result : Except Fault α) : (consult call result).IsPlaceless := by
  intro front
  cases result with
  | ok a => simp only [behind, consult, List.map, Event.behind, h front, Except.map, id_eq]
  | error e => simp only [behind, consult, List.map, Event.behind, h front, Except.map]

end Run

end TextGrammar
