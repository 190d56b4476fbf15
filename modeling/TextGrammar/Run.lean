import TextGrammar.Match

/-!
# Runs

A run is what happens while a parser works: the events in their order, and the answer or
the fault that ends it. Runs form a monad that keeps the events of every step, also of the
steps before a fault. Some events are worth a line in a log: exhausted choices, repetitions
that are cut short and parses that fail.
-/

namespace TextGrammar

/-- A call of one of the user's own functions, with what it is given. Values are the user's, so how
one is shown is up to a function of the user, too. -/
inductive Call where
  | test (c : Char)
  | map (value : Value)
  | check (value : Value)
  | build (fields : List (String × Value))
  /-- A value is shown. -/
  | show (value : Value)
  /-- The grammar behind an edge is asked for. -/
  | target
  /-- A user's own parser is called at a position. -/
  | custom (pos : Nat)

/-- What can be observed of a run besides its answer. -/
inductive Event where
  /-- A probe saw an attempt at a position. -/
  | probed (label : String) (pos : Nat)
  /-- The grammar behind a labelled edge is asked for. -/
  | targeted (label : String)
  /-- A user's function is called. -/
  | called (call : Call)
  /-- A user's function gave up. -/
  | raised (fault : Fault)
  /-- An attempt at an edge begins. -/
  | entered (pos : Nat)
  /-- An attempt at an edge ends with an outcome of its grammar. -/
  | left (pos : Nat)
  /-- An attempt at an edge turns a used-up call stack into a failure. -/
  | recovered (pos : Nat)
  /-- An attempt at an edge is refused because of the attempts around it. -/
  | refused (pos : Nat)
  | alternativesExhausted (count : Nat) (pos : Nat)
  | variantsExhausted (names : List String) (pos : Nat)
  /-- A repetition stops at a match that read nothing. -/
  | repetitionCut (pos : Nat)
  | parseFailed (pos : Nat) (message : Option String)

/-- The events of a run and its answer, or the fault that ends it. -/
structure Run (α : Type) where
  events : List Event
  answer : Except Fault α

namespace Run

variable {α β γ : Type}

/-- The run that answers at once. -/
protected def pure (a : α) : Run α := ⟨[], .ok a⟩

/-- The run that ends with a fault at once. -/
def fault (e : Fault) : Run α := ⟨[], .error e⟩

/-- The run of a single event. -/
def emit (event : Event) : Run Unit := ⟨[event], .ok ()⟩

/-- One run after another one; a fault in the first ends the whole. -/
protected def bind (run : Run α) (next : α → Run β) : Run β :=
  match run.answer with
  | .ok a =>
    let continued := next a
    ⟨run.events ++ continued.events, continued.answer⟩
  | .error e => ⟨run.events, .error e⟩

instance : Monad Run where
  pure := Run.pure
  bind := Run.bind

/-- A computation without events. -/
def ofExcept : Except Fault α → Run α
  | .ok a => .pure a
  | .error e => .fault e

/-- A call of a user's function, given what the function answers. -/
def consult (call : Call) : Except Fault α → Run α
  | .ok a => ⟨[.called call], .ok a⟩
  | .error e => ⟨[.called call, .raised e], .error e⟩

/-- Going on with a match; a failure is passed on. -/
def ifMatched (run : Run (Outcome α)) (next : Match α → Run (Outcome β)) : Run (Outcome β) :=
  run.bind fun
    | .matched m => next m
    | .failed f => .pure (.failed f)

/-- Answering with a match. -/
def matched (m : Match α) : Run (Outcome α) := .pure (.matched m)

/-- Answering with a failure. -/
def failed (f : Failure) : Run (Outcome α) := .pure (.failed f)

/-- Nothing happens before an answer at once. -/
@[simp] theorem pure_events (a : α) : (Run.pure a).events = [] := rfl

/-- An answer at once is the answer. -/
@[simp] theorem pure_answer (a : α) : (Run.pure a).answer = .ok a := rfl

/-- Nothing happens before a fault at once. -/
@[simp] theorem fault_events (e : Fault) : (Run.fault e : Run α).events = [] := rfl

/-- A fault at once is the end. -/
@[simp] theorem fault_answer (e : Fault) : (Run.fault e : Run α).answer = .error e := rfl

/-- An event alone is all that happens. -/
@[simp] theorem emit_events (event : Event) : (Run.emit event).events = [event] := rfl

/-- An event alone answers nothing. -/
@[simp] theorem emit_answer (event : Event) : (Run.emit event).answer = .ok () := rfl

/-- The monad's operations are those of runs. -/
@[simp] theorem monad_pure (a : α) : (pure a : Run α) = Run.pure a := rfl

/-- Binding is going on with the answer. -/
@[simp] theorem monad_bind (run : Run α) (next : α → Run β) : run >>= next = run.bind next := rfl

/-- After an answer, the events of both runs follow one another. -/
theorem bind_of_ok {run : Run α} {a : α} (h : run.answer = .ok a) (next : α → Run β) :
    run.bind next = ⟨run.events ++ (next a).events, (next a).answer⟩ := by
  simp [Run.bind, h]

/-- After a fault nothing follows. -/
theorem bind_of_error {run : Run α} {e : Fault} (h : run.answer = .error e) (next : α → Run β) :
    run.bind next = ⟨run.events, .error e⟩ := by
  simp [Run.bind, h]

/-- Going on from an answer at once is going on. -/
@[simp] theorem pure_bind (a : α) (next : α → Run β) : (Run.pure a).bind next = next a := by
  simp [Run.bind, Run.pure]

/-- Nothing follows a fault at once. -/
@[simp] theorem fault_bind (e : Fault) (next : α → Run β) :
    (Run.fault e).bind next = .fault e := rfl

/-- Answering with the answer changes nothing. -/
@[simp] theorem bind_pure (run : Run α) : run.bind Run.pure = run := by
  cases h : run.answer with
  | ok a => rw [bind_of_ok h]; cases run; simp_all
  | error e => rw [bind_of_error h]; cases run; simp_all

/-- Grouping does not matter. -/
theorem bind_assoc (run : Run α) (f : α → Run β) (g : β → Run γ) :
    (run.bind f).bind g = run.bind fun a => (f a).bind g := by
  cases h : run.answer with
  | error e => rw [bind_of_error h, bind_of_error h]; rfl
  | ok a =>
    rw [bind_of_ok h, bind_of_ok h]
    cases hf : (f a).answer with
    | error e => simp [Run.bind, hf]
    | ok b => simp [Run.bind, hf, List.append_assoc]

end Run

/-! ### The log -/

/-- The line that an event leaves in the log, if it leaves one. -/
def Event.logLine? : Event → Option String
  | .alternativesExhausted count pos =>
    some ("All " ++ Text.writeNat count ++ " alternatives failed at position " ++
      Text.writeNat pos ++ ".")
  | .variantsExhausted names pos =>
    some ("No variant of " ++ commaSeparated names ++ " matched at position " ++
      Text.writeNat pos ++ ".")
  | .repetitionCut pos =>
    some ("Repetition stopped by a zero-length match at position " ++ Text.writeNat pos ++ ".")
  | .parseFailed pos message =>
    some ("Parse failed at position " ++ Text.writeNat pos ++ ": " ++ message.getD "None")
  | _ => none

/-- The lines that a run leaves in the log. -/
def logLines (events : List Event) : List String := events.filterMap Event.logLine?

/-- The log of two runs is that of the first one and then that of the second one. -/
theorem logLines_append (first second : List Event) :
    logLines (first ++ second) = logLines first ++ logLines second := by
  simp [logLines]

end TextGrammar
