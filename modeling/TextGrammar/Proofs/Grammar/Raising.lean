import TextGrammar.Proofs.Grammar.Contract
import TextGrammar.Proofs.Grammar.Relation
import TextGrammar.Proofs.Parser.Events
import TextGrammar.Proofs.Parser.Faults

/-!
# Who raises a fault

A reading ends with a fault only if it has come to a function of the user that raises the fault or
to an edge whose target is refused. Nothing else can go wrong, but for a repetition that never ends.
If the functions never raise a fault, then none is raised in a reading, as long as all the values
that it shows have a text.
-/

namespace TextGrammar

variable {defs : Definitions} {F : Fault → Prop}

/-- A user's function answers, whatever it is given. -/
def Product.Answers (p : Product (Except Fault) Grammar) : Prop :=
  (∀ fields, ∃ value, p.build fields = .ok value) ∧
    ∀ step ∈ p.steps, ∀ check, step.check = some check →
      ∀ value, ∃ accepted, check value = .ok accepted

/-- The functions that a grammar itself calls answer, whatever they are given. -/
def Grammar.Answers (defs : Definitions) : Grammar → Prop
  | .satisfy test _ => ∀ c, ∃ passed, test c = .ok passed
  | .map _ f => ∀ value, ∃ result, f value = .ok result
  | .product p => p.Answers
  | .variant v => v.product.Answers
  | .sum variants => ∀ v ∈ variants, v.product.Answers
  | .edge _ target => ∃ g, target.resolve defs = .ok g
  | .custom parser => ∀ s, ∃ outcome, parser s = .ok outcome
  | _ => True

/-- No function that is called behind a grammar raises a fault. -/
def Grammar.NeverRaises (defs : Definitions) (g : Grammar) : Prop :=
  ∀ h, g.Reaches defs h → h.Answers defs

/-- A value without a text is shown. -/
def Call.IsUnwritable : Call → Prop
  | .show value => value.isWritable = false
  | _ => False

/-- Where functions answer, only showing a rejected value can raise a fault. -/
theorem Product.Answers.isUnwritable {p : Product (Except Fault) Grammar} (h : p.Answers)
    {call : Call} {e : Fault} (hraises : p.CallRaises call e) : call.IsUnwritable := by
  cases hraises with
  | @build fields e herror =>
    obtain ⟨value, hvalue⟩ := h.1 fields
    cases hvalue.symm.trans herror
  | @check step check value e hstep hcheck herror =>
    obtain ⟨accepted, haccepted⟩ := h.2 step hstep check hcheck value
    cases haccepted.symm.trans herror
  | «show» hstep hcheck hrejected hwritable => exact hwritable

/-- Where the functions of a grammar answer, only showing a rejected value can raise a fault. -/
theorem Grammar.Answers.isUnwritable {g : Grammar} (h : g.Answers defs) {call : Call} {e : Fault}
    (hraises : g.CallRaises call e) : call.IsUnwritable := by
  cases hraises with
  | @satisfy test expected c e herror =>
    obtain ⟨passed, hpassed⟩ := h c
    cases hpassed.symm.trans herror
  | @map p f value e herror =>
    obtain ⟨result, hresult⟩ := h value
    cases hresult.symm.trans herror
  | product hraises => exact Product.Answers.isUnwritable h hraises
  | variant hraises => exact Product.Answers.isUnwritable h hraises
  | sum hv hraises => exact (h _ hv).isUnwritable hraises
  | @custom parser s e herror =>
    obtain ⟨outcome, houtcome⟩ := h s
    cases houtcome.symm.trans herror

/-- Nothing that is plain is raised. -/
theorem Event.IsPlain.not_isRaise {event : Event} (h : event.IsPlain) : ¬event.IsRaise := by
  cases event with
  | raised e => exact h.elim
  | _ => exact id

/-- Every value that is shown in a run has a text. -/
def Run.ShowsTexts {α : Type} (run : Run α) : Prop :=
  ∀ value, .called (.show value) ∈ run.events → value.isWritable = true

/-- If all values that are shown in two runs one behind the other have texts, so do those in each.
-/
theorem Run.ShowsTexts.of_bind {α β : Type} {run : Run α} {next : α → Run β}
    (h : (run.bind next).ShowsTexts) :
    run.ShowsTexts ∧ ∀ a, run.answer = .ok a → (next a).ShowsTexts := by
  cases hanswer : run.answer with
  | error e =>
    rw [Run.bind_of_error hanswer] at h
    exact ⟨h, by simp⟩
  | ok a =>
    rw [Run.bind_of_ok hanswer] at h
    constructor
    · exact fun value hvalue => h value (List.mem_append_left _ hvalue)
    · intro b hb value hvalue
      obtain rfl : a = b := Except.ok.inj hb
      exact h value (List.mem_append_right _ hvalue)

/-- No fault is raised in a run unless a value without a text is shown. This is kept when runs
follow one another, if calls raise no fault but for this reason. -/
def quiet : RunRelation where
  Holds run _ := run.ShowsTexts → run.Avoids Event.IsRaise
  pure a _ := Run.avoids_pure a
  emit h _ := Run.avoids_emit h.not_isRaise
  Admits call _ := call.IsUnwritable
  consult call result h hshows := by
    cases result with
    | ok a => simp [Run.Avoids, Run.consult, Event.IsRaise]
    | error e =>
      have hcall := h e rfl
      cases call with
      | «show» value => exact absurd (hshows value List.mem_cons_self) (Bool.eq_false_iff.mp hcall)
      | _ => exact hcall.elim
  endless _ _ := Run.avoids_fault _
  bind h hnext hshows := by
    obtain ⟨hfirst, hsecond⟩ := hshows.of_bind
    exact (h hfirst).bind fun a ha => hnext a ha (hsecond a ha)

/-- If no function behind a grammar raises a fault, none is raised in a run in which every value
that is shown has a text. -/
theorem Grammar.NeverRaises.avoids_raise {g : Grammar} (hraises : g.NeverRaises defs) (limit : Nat)
    (s : Cursor) (hshows : (g.parserWithin defs limit s).ShowsTexts) :
    (g.parserWithin defs limit s).Avoids Event.IsRaise := by
  refine Grammar.parserWithin_self quiet ?_ ?_ ?_ ?_ limit s hshows
  · exact fun _ _ => Run.avoids_emit id
  · intro parser hparser t hshows event hevent hraise
    have hinside : (parser t).ShowsTexts := fun value hvalue =>
      hshows value (Parser.events_subset_edge parser t hvalue)
    rcases Parser.mem_events_edge hevent with hevent | rfl | rfl | rfl
    · exact hparser t hinside event hevent hraise
    all_goals exact hraise
  · exact fun h call e hreach => (hraises h hreach).isUnwritable
  · intro label target e hreach herror
    obtain ⟨g', hg'⟩ := hraises _ hreach
    cases hg'.symm.trans herror

end TextGrammar
