import TextGrammar.Run

/-!
# Rules for runs

What can be said of a run follows from what can be said of its steps. `Run.Yields` is about
the answer: it has a property, and a fault can only be one that a user's function raised.
`Run.Avoids` is about the events. `Run.Says` is about the answer of a run that avoids some
events.
-/

namespace TextGrammar

/-- A user's function gave up. -/
def Event.IsRaise : Event → Prop
  | .raised _ => True
  | _ => False

/-- An attempt at an edge was refused because of the attempts around it. -/
def Event.IsRefusal : Event → Prop
  | .refused _ => True
  | _ => False

/-- A user's function gave up or an attempt was refused, so what comes of it is not the text's. -/
def Event.IsInterruption (event : Event) : Prop := event.IsRaise ∨ event.IsRefusal

namespace Run

variable {α β : Type} {P : α → Prop} {Q : β → Prop} {bad : Event → Prop}

/-- The answer has a property; a fault is one that a user's function raised in the run. -/
def Yields (run : Run α) (P : α → Prop) : Prop :=
  match run.answer with
  | .ok a => P a
  | .error e => .raised e ∈ run.events

/-- None of the events of a run is of a kind. -/
def Avoids (run : Run α) (bad : Event → Prop) : Prop := ∀ event ∈ run.events, ¬bad event

/-- The answer has a property if the run avoids the events of a kind. -/
def Says (bad : Event → Prop) (run : Run α) (P : α → Prop) : Prop :=
  run.Avoids bad → ∀ a, run.answer = .ok a → P a

/-! ### Going on with an outcome -/

/-- A match is handed on. -/
@[simp] theorem matched_bind (m : Match α) (next : Outcome α → Run β) :
    (matched m).bind next = next (.matched m) := pure_bind _ next

/-- A failure is handed on. -/
@[simp] theorem failed_bind (f : Failure) (next : Outcome α → Run β) :
    (failed f).bind next = next (.failed f) := pure_bind _ next

/-- Going on with a match goes on with it. -/
@[simp] theorem matched_ifMatched (m : Match α) (next : Match α → Run (Outcome β)) :
    (matched m).ifMatched next = next m := matched_bind m _

/-- Going on with a failure passes it on. -/
@[simp] theorem failed_ifMatched (f : Failure) (next : Match α → Run (Outcome β)) :
    (failed f : Run (Outcome α)).ifMatched next = failed f := failed_bind f _

/-- Behind a match the events of both runs follow one another. -/
theorem ifMatched_of_matched {run : Run (Outcome α)} {m : Match α}
    (h : run.answer = .ok (.matched m)) (next : Match α → Run (Outcome β)) :
    run.ifMatched next = ⟨run.events ++ (next m).events, (next m).answer⟩ := bind_of_ok h _

/-- Behind a failure nothing happens, and it is passed on. -/
theorem ifMatched_of_failed {run : Run (Outcome α)} {f : Failure}
    (h : run.answer = .ok (.failed f)) (next : Match α → Run (Outcome β)) :
    run.ifMatched next = ⟨run.events, .ok (.failed f)⟩ := by
  rw [ifMatched, bind_of_ok h]
  simp

/-- Behind a fault nothing happens. -/
theorem ifMatched_of_error {run : Run (Outcome α)} {e : Fault} (h : run.answer = .error e)
    (next : Match α → Run (Outcome β)) : run.ifMatched next = ⟨run.events, .error e⟩ :=
  bind_of_error h _

/-- What is answered in the end is answered behind an answer. -/
theorem exists_of_bind {run : Run α} {next : α → Run β} {b : β}
    (h : (run.bind next).answer = .ok b) :
    ∃ a, run.answer = .ok a ∧ (next a).answer = .ok b := by
  cases hanswer : run.answer with
  | error e =>
    rw [bind_of_error hanswer] at h
    cases h
  | ok a =>
    rw [bind_of_ok hanswer] at h
    exact ⟨a, rfl, h⟩

/-- What matches in the end goes on from a match. -/
theorem exists_of_ifMatched {run : Run (Outcome α)} {next : Match α → Run (Outcome β)}
    {m : Match β} (h : (run.ifMatched next).answer = .ok (.matched m)) :
    ∃ first, run.answer = .ok (.matched first) ∧ (next first).answer = .ok (.matched m) := by
  obtain ⟨outcome, houtcome, hnext⟩ := exists_of_bind h
  cases outcome with
  | failed f => cases hnext
  | matched first => exact ⟨first, houtcome, hnext⟩

/-- Going on with the match that is made of an answer goes on with the answer. -/
theorem bind_matched_ifMatched {γ : Type} (run : Run α) (m : α → Match β)
    (next : Match β → Run (Outcome γ)) :
    (run.bind fun a => matched (m a)).ifMatched next = run.bind fun a => next (m a) := by
  simp only [ifMatched, bind_assoc, matched_bind]

/-- Grouping does not matter for going on with matches either. -/
theorem ifMatched_assoc {γ : Type} (run : Run (Outcome α)) (f : Match α → Run (Outcome β))
    (g : Match β → Run (Outcome γ)) :
    (run.ifMatched f).ifMatched g = run.ifMatched fun m => (f m).ifMatched g := by
  simp only [ifMatched, bind_assoc]
  congr 1
  funext outcome
  cases outcome with
  | matched m => rfl
  | failed e => rfl

/-! ### Answers -/

/-- A user's function answers what it answers when nobody looks. -/
theorem consult_answer (call : Call) (result : Except Fault α) :
    (consult call result).answer = result := by
  cases result <;> rfl

/-- What a run yields holds of its answer. -/
theorem Yields.of_ok {run : Run α} {a : α} (h : run.Yields P) (hok : run.answer = .ok a) : P a := by
  simpa only [Yields, hok] using h

/-- A fault with which a run ends was raised in it. -/
theorem Yields.raised {run : Run α} {e : Fault} (h : run.Yields P) (herr : run.answer = .error e) :
    .raised e ∈ run.events := by
  simpa only [Yields, herr] using h

/-- A run without events yields what holds of its answer. -/
theorem yields_pure {a : α} (h : P a) : (Run.pure a).Yields P := h

/-- An event yields what holds of nothing. -/
theorem yields_emit {event : Event} {P : Unit → Prop} (h : P ()) : (emit event).Yields P := h

/-- A user's function may answer anything, and what it raises can be observed. -/
theorem yields_consult {call : Call} {result : Except Fault α} (h : ∀ a, result = .ok a → P a) :
    (consult call result).Yields P := by
  cases result with
  | ok a => exact h a rfl
  | error e => exact List.mem_cons_of_mem _ List.mem_cons_self

/-- What a run yields implies weaker things. -/
theorem Yields.mono {P' : α → Prop} {run : Run α} (h : run.Yields P) (himp : ∀ a, P a → P' a) :
    run.Yields P' := by
  cases hanswer : run.answer with
  | ok a => simpa only [Yields, hanswer] using himp a (h.of_ok hanswer)
  | error e => simpa only [Yields, hanswer] using h.raised hanswer

/-- One run after another one yields what the second one does. -/
theorem Yields.bind {run : Run α} {next : α → Run β} (h : run.Yields P)
    (hnext : ∀ a, P a → (next a).Yields Q) : (run.bind next).Yields Q := by
  cases hanswer : run.answer with
  | error e =>
    rw [bind_of_error hanswer]
    exact h.raised hanswer
  | ok a =>
    have hlater := hnext a (h.of_ok hanswer)
    rw [bind_of_ok hanswer]
    cases hsecond : (next a).answer with
    | ok b => simpa only [Yields, hsecond] using hlater.of_ok hsecond
    | error e => exact List.mem_append_right _ (hlater.raised hsecond)

/-- Going on with a match yields what the continuation does; failures are passed on. -/
theorem Yields.ifMatched {P : Outcome α → Prop} {Q : Outcome β → Prop} {run : Run (Outcome α)}
    {next : Match α → Run (Outcome β)} (h : run.Yields P)
    (hmatched : ∀ m, P (.matched m) → (next m).Yields Q)
    (hfailed : ∀ f, P (.failed f) → Q (.failed f)) : (run.ifMatched next).Yields Q := by
  apply h.bind
  intro outcome houtcome
  cases outcome with
  | matched m => exact hmatched m houtcome
  | failed f => exact hfailed f houtcome

/-! ### Events -/

/-- Where nothing happens, nothing is to be avoided. -/
theorem avoids_pure (a : α) : (Run.pure a).Avoids bad := by simp [Avoids]

/-- A fault alone is no event. -/
theorem avoids_fault (e : Fault) : (fault e : Run α).Avoids bad := by simp [Avoids]

/-- An event is avoided if it is not of the kind. -/
theorem avoids_emit {event : Event} (h : ¬bad event) : (emit event).Avoids bad := by
  simpa [Avoids] using h

/-- No attempt is refused by calling a user's function. -/
theorem avoids_refusal_consult (call : Call) (result : Except Fault α) :
    (consult call result).Avoids Event.IsRefusal := by
  cases result <;> simp [Avoids, consult, Event.IsRefusal]

/-- Both parts of a run avoid what the whole run avoids. -/
theorem Avoids.of_bind {run : Run α} {next : α → Run β} (h : (run.bind next).Avoids bad) :
    run.Avoids bad ∧ ∀ a, run.answer = .ok a → (next a).Avoids bad := by
  cases hanswer : run.answer with
  | error e =>
    rw [bind_of_error hanswer] at h
    exact ⟨h, by simp⟩
  | ok a =>
    rw [bind_of_ok hanswer] at h
    constructor
    · intro event hevent
      exact h event (List.mem_append_left _ hevent)
    · intro b hb event hevent
      obtain rfl : a = b := Except.ok.inj hb
      exact h event (List.mem_append_right _ hevent)

/-- A run avoids what both of its parts avoid. -/
theorem Avoids.bind {run : Run α} {next : α → Run β} (h : run.Avoids bad)
    (hnext : ∀ a, run.answer = .ok a → (next a).Avoids bad) : (run.bind next).Avoids bad := by
  cases hanswer : run.answer with
  | error e =>
    rw [bind_of_error hanswer]
    exact h
  | ok a =>
    rw [bind_of_ok hanswer]
    intro event hevent
    rcases List.mem_append.mp hevent with hfirst | hsecond
    · exact h event hfirst
    · exact hnext a hanswer event hsecond

/-- Going on with a match avoids what the attempt and what follows avoid. -/
theorem Avoids.ifMatched {run : Run (Outcome α)} {next : Match α → Run (Outcome β)}
    (h : run.Avoids bad) (hnext : ∀ m, run.answer = .ok (.matched m) → (next m).Avoids bad) :
    (run.ifMatched next).Avoids bad := by
  apply h.bind
  intro outcome houtcome
  cases outcome with
  | matched m => exact hnext m houtcome
  | failed f => exact avoids_pure _

/-- A run in which no fault is raised and no attempt is refused is not interrupted. -/
theorem avoids_interruption {run : Run α} (hraised : ∀ e, .raised e ∉ run.events)
    (hrefused : ∀ pos, .refused pos ∉ run.events) : run.Avoids Event.IsInterruption := by
  rintro event hevent (hraise | hrefusal)
  · cases event with
    | raised e => exact hraised e hevent
    | _ => exact hraise
  · cases event with
    | refused pos => exact hrefused pos hevent
    | _ => exact hrefusal

/-! ### Answers of runs that avoid events -/

/-- A run without events says what holds of its answer. -/
theorem says_pure {a : α} (h : P a) : (Run.pure a).Says bad P := by
  intro _ b hb
  exact Except.ok.inj hb ▸ h

/-- An event says what holds of nothing. -/
theorem says_emit {event : Event} {P : Unit → Prop} (h : P ()) : (emit event).Says bad P :=
  fun _ _ _ => h

/-- A fault says nothing. -/
theorem says_of_error {run : Run α} {e : Fault} (h : run.answer = .error e) : run.Says bad P := by
  intro _ a ha
  rw [h] at ha
  cases ha

/-- A user's function says what it answers. -/
theorem says_consult {call : Call} {result : Except Fault α} (h : ∀ a, result = .ok a → P a) :
    (consult call result).Says bad P := by
  intro _ a ha
  cases result with
  | ok b =>
    obtain rfl : b = a := Except.ok.inj ha
    exact h b rfl
  | error e => cases ha

/-- What a run says implies weaker things. -/
theorem Says.mono {P' : α → Prop} {run : Run α} (h : run.Says bad P) (himp : ∀ a, P a → P' a) :
    run.Says bad P' :=
  fun havoids a ha => himp a (h havoids a ha)

/-- A run behind another one says what follows from what the other one says. -/
theorem Says.bind {run : Run α} {next : α → Run β} (h : run.Says bad P)
    (hnext : ∀ a, P a → (next a).Says bad Q) : (run.bind next).Says bad Q := by
  intro havoids b hb
  obtain ⟨hfirst, hsecond⟩ := havoids.of_bind
  cases hanswer : run.answer with
  | error e =>
    rw [bind_of_error hanswer] at hb
    cases hb
  | ok a =>
    rw [bind_of_ok hanswer] at hb
    exact hnext a (h hfirst a hanswer) (hsecond a hanswer) b hb

/-- Going on with a match says what follows from the match; failures are passed on. -/
theorem Says.ifMatched {P : Outcome α → Prop} {Q : Outcome β → Prop} {run : Run (Outcome α)}
    {next : Match α → Run (Outcome β)} (h : run.Says bad P)
    (hmatched : ∀ m, P (.matched m) → (next m).Says bad Q)
    (hfailed : ∀ f, P (.failed f) → Q (.failed f)) : (run.ifMatched next).Says bad Q := by
  refine h.bind fun outcome houtcome => ?_
  cases outcome with
  | matched m => exact hmatched m houtcome
  | failed f => exact says_pure (hfailed f houtcome)

end Run

end TextGrammar
