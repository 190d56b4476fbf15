import TextGrammar.Proofs.Run.Relation

/-!
# What becomes of a raised fault

A fault that a user's function raises ends everything up to the attempt at an edge that turns
it into a failure, or the whole run. `Settles` describes the events of such runs: it says
which events follow one another, which of them are left if recovered attempts count for
nothing, and how the run ends. From it follows the fate of every single fault: it depends on
the kind of the fault and on the attempts that are active when it is raised.
-/

namespace TextGrammar

/-! ### Active attempts -/

/-- The positions of the attempts at edges that are active after one more event, the innermost
attempt first. -/
def Event.activate (active : List Nat) : Event → List Nat
  | .entered pos => pos :: active
  | .left _ | .recovered _ => active.tail
  | _ => active

/-- The positions of the attempts at edges that are active after some events, the innermost attempt
first. -/
def activeAttempts (events : List Event) : List Nat := events.foldl Event.activate []

/-- Some events begin as many attempts as they end. -/
def IsClosed (events : List Event) : Prop :=
  ∀ active, events.foldl Event.activate active = active

/-- Two closed pieces make a closed piece. -/
theorem IsClosed.append {first second : List Event} (hfirst : IsClosed first)
    (hsecond : IsClosed second) : IsClosed (first ++ second) := by
  intro active
  rw [List.foldl_append, hfirst, hsecond]

/-- A closed piece leaves the active attempts as they are. -/
theorem IsClosed.activeAttempts_append {first : List Event} (hfirst : IsClosed first)
    (second : List Event) : activeAttempts (first ++ second) = activeAttempts second := by
  rw [activeAttempts, List.foldl_append, hfirst]
  rfl

/-- A plain event is closed by itself. -/
theorem isClosed_of_isPlain {event : Event} (h : event.IsPlain) : IsClosed [event] := by
  intro active
  cases event with
  | raised | entered | left | recovered => exact h.elim
  | _ => rfl

/-- A raised fault begins and ends no attempt. -/
theorem isClosed_raised (e : Fault) : IsClosed [.raised e] := fun _ => rfl

/-- An attempt that has been ended leaves the attempts around it active. -/
theorem IsClosed.attempt {inner : List Event} (hinner : IsClosed inner) (pos : Nat) (mark : Event)
    (hmark : ∀ active, Event.activate active mark = active.tail) :
    IsClosed (.entered pos :: (inner ++ [mark])) := by
  intro active
  change (inner ++ [mark]).foldl Event.activate (pos :: active) = active
  rw [List.foldl_append, hinner, List.foldl_cons, hmark]
  rfl

/-! ### Runs that settle -/

/-- How a run ends: with an answer, or with a fault. -/
def Run.ending {α : Type} (run : Run α) : Option Fault :=
  match run.answer with
  | .ok _ => none
  | .error e => some e

/-- The events of a run, what is left of them without those of recovered attempts, and how the run
ends. Every recovered attempt has a run of its own among `Attempt`. -/
inductive Settles (Attempt : Cursor → Run (Outcome Value) → Prop) :
    List Event → List Event → Option Fault → Prop
  /-- A run may end with an answer. -/
  | done : Settles Attempt [] [] none
  /-- A run may end with a fault that nobody raised, as an endless repetition does. -/
  | broken {e : Fault} (hkind : e.kind ≠ .recursion) : Settles Attempt [] [] (some e)
  /-- A raised fault ends a run at once. -/
  | raised (e : Fault) : Settles Attempt [.raised e] [.raised e] (some e)
  | plain {event : Event} {later later' : List Event} {ending : Option Fault}
      (hplain : event.IsPlain) (hlater : Settles Attempt later later' ending) :
      Settles Attempt (event :: later) (event :: later') ending
  /-- An attempt that answers is left, and the run goes on. -/
  | left {pos : Nat} {inner inner' later later' : List Event} {ending : Option Fault}
      (hinner : Settles Attempt inner inner' none) (hlater : Settles Attempt later later' ending) :
      Settles Attempt (.entered pos :: (inner ++ .left pos :: later))
        (.entered pos :: (inner' ++ .left pos :: later')) ending
  /-- An attempt that ends with a used-up call stack fails where it was made, and the run goes on as
  if there had been nothing but this failure. -/
  | recovered {t : Cursor} {inner inner' later later' : List Event} {e : Fault}
      {ending : Option Fault} (hinner : Settles Attempt inner inner' (some e))
      (hkind : e.kind = .recursion)
      (hattempt : Attempt t ⟨.entered t.pos :: (inner ++ [.recovered t.pos]),
        .ok (.failed (.tooDeep t))⟩)
      (hlater : Settles Attempt later later' ending) :
      Settles Attempt (.entered t.pos :: (inner ++ .recovered t.pos :: later)) later' ending
  /-- An attempt that ends with any other fault ends the run with it. -/
  | escaped {pos : Nat} {inner inner' : List Event} {e : Fault}
      (hinner : Settles Attempt inner inner' (some e)) (hkind : e.kind ≠ .recursion) :
      Settles Attempt (.entered pos :: inner) (.entered pos :: inner') (some e)

namespace Settles

variable {Attempt : Cursor → Run (Outcome Value) → Prop} {events events' later later' : List Event}
  {ending : Option Fault}

/-- A run that answers may go on with another one. -/
theorem append (h : Settles Attempt events events' none)
    (hlater : Settles Attempt later later' ending) :
    Settles Attempt (events ++ later) (events' ++ later') ending := by
  generalize hnone : (none : Option Fault) = first at h
  induction h with
  | done => exact hlater
  | broken | raised | escaped => cases hnone
  | plain hplain _ ih => exact .plain hplain (ih hnone)
  | left hinner _ _ ih =>
    simp only [List.cons_append, List.append_assoc]
    exact .left hinner (ih hnone)
  | recovered hinner hkind hattempt _ _ ih =>
    simp only [List.cons_append, List.append_assoc]
    exact .recovered hinner hkind hattempt (ih hnone)

/-- The attempts of a run are over when it answers or when the call stack is used up. -/
theorem isClosed (h : Settles Attempt events events' ending)
    (hending : ∀ e, ending = some e → e.kind = .recursion) : IsClosed events := by
  induction h with
  | done | broken => exact fun _ => rfl
  | raised e => exact isClosed_raised e
  | plain hplain _ ih => exact (isClosed_of_isPlain hplain).append (ih hending)
  | @left pos inner _ later _ _ _ _ ihinner ih =>
    have hattempt := (ihinner (by simp)).attempt pos (.left pos) fun _ => rfl
    have hwhole := hattempt.append (ih hending)
    simpa only [List.cons_append, List.append_assoc, List.nil_append] using hwhole
  | @recovered t inner _ later _ e _ _ hkind _ _ ihinner ih =>
    have hinner := ihinner fun e' he' => Option.some.inj he' ▸ hkind
    have hattempt := hinner.attempt t.pos (.recovered t.pos) fun _ => rfl
    have hwhole := hattempt.append (ih hending)
    simpa only [List.cons_append, List.append_assoc, List.nil_append] using hwhole
  | escaped _ hkind => exact absurd (hending _ rfl) hkind

end Settles

/-! ### Without recovered attempts -/

/-- The pieces of some events, cut where the active attempts begin and the innermost piece first,
after one more event. The piece of a recovered attempt is given up. -/
def settle : List (List Event) → Event → List (List Event)
  | pieces, .entered pos => [.entered pos] :: pieces
  | piece :: outer :: pieces, .left pos => (outer ++ piece ++ [.left pos]) :: pieces
  | _ :: pieces, .recovered _ => pieces
  | piece :: pieces, event => (piece ++ [event]) :: pieces
  | [], event => [[event]]

/-- What is left of some events without those of recovered attempts. -/
def unrecovered (events : List Event) : List Event := (events.foldl settle [[]]).reverse.flatten

/-- A plain event joins the piece that is under way. -/
theorem settle_plain {event : Event} (h : event.IsPlain) (piece : List Event)
    (pieces : List (List Event)) :
    settle (piece :: pieces) event = (piece ++ [event]) :: pieces := by
  cases event with
  | raised | entered | left | recovered => exact h.elim
  | _ => rfl

namespace Settles

variable {Attempt : Cursor → Run (Outcome Value) → Prop} {events events' : List Event}
  {ending : Option Fault}

/-- A run whose attempts are over adds what is left of it to the innermost piece. -/
theorem foldl_settle (h : Settles Attempt events events' ending)
    (hending : ∀ e, ending = some e → e.kind = .recursion) (piece : List Event)
    (pieces : List (List Event)) :
    events.foldl settle (piece :: pieces) = (piece ++ events') :: pieces := by
  induction h generalizing piece pieces with
  | done | broken => simp
  | raised e => rfl
  | plain hplain _ ih =>
    rw [List.foldl_cons, settle_plain hplain, ih hending, List.append_assoc, List.singleton_append]
  | left _ _ ihinner ih =>
    rw [List.foldl_cons, settle, List.foldl_append, ihinner (by simp), List.foldl_cons, settle,
      ih hending]
    simp
  | recovered _ hkind _ _ ihinner ih =>
    have hinner := ihinner fun e' he' => Option.some.inj he' ▸ hkind
    rw [List.foldl_cons, settle, List.foldl_append, hinner, List.foldl_cons, settle, ih hending]
  | escaped _ hkind => exact absurd (hending _ rfl) hkind

/-- However a run ends, what is left of it comes behind what was there before. -/
theorem flatten_foldl_settle (h : Settles Attempt events events' ending) (piece : List Event)
    (pieces : List (List Event)) :
    (events.foldl settle (piece :: pieces)).reverse.flatten =
      (piece :: pieces).reverse.flatten ++ events' := by
  induction h generalizing piece pieces with
  | done | broken => simp
  | raised e => simp [settle]
  | plain hplain _ ih =>
    rw [List.foldl_cons, settle_plain hplain, ih]
    simp
  | left hinner _ _ ih =>
    rw [List.foldl_cons, settle, List.foldl_append, hinner.foldl_settle (by simp), List.foldl_cons,
      settle, ih]
    simp
  | recovered hinner hkind _ _ _ ih =>
    have hinner := hinner.foldl_settle (fun e' he' => Option.some.inj he' ▸ hkind)
    rw [List.foldl_cons, settle, List.foldl_append, hinner, List.foldl_cons, settle, ih]
  | escaped _ _ ih =>
    rw [List.foldl_cons, settle, ih]
    simp

/-- What is left of the events of a run is what is left without those of recovered attempts. -/
theorem unrecovered_eq (h : Settles Attempt events events' ending) :
    unrecovered events = events' := by
  simpa [unrecovered] using h.flatten_foldl_settle [] []

end Settles

/-! ### The fate of a fault -/

/-- What becomes of a fault raised after some events. A used-up call stack inside an attempt is
recovered at once by the innermost active attempt, which fails where it was made; the attempts
around it stay active. Any other fault ends the run, and nothing follows. -/
inductive Fate (Attempt : Cursor → Run (Outcome Value) → Prop) (before : List Event) (e : Fault)
    (after : List Event) (ending : Option Fault) : Prop
  | ends (hescapes : e.kind ≠ .recursion ∨ activeAttempts before = []) (hafter : after = [])
      (hending : ending = some e)
  | recovers (t : Cursor) (earlier inner later : List Event) (hkind : e.kind = .recursion)
      (hbefore : before = earlier ++ .entered t.pos :: inner) (hinner : IsClosed inner)
      (hafter : after = .recovered t.pos :: later)
      (hattempt : Attempt t ⟨.entered t.pos :: (inner ++ [.raised e, .recovered t.pos]),
        .ok (.failed (.tooDeep t))⟩)

namespace Fate

variable {Attempt : Cursor → Run (Outcome Value) → Prop} {before after : List Event} {e : Fault}
  {ending : Option Fault}

/-- Closed events before it do not change the fate of a fault. -/
theorem behind {block : List Event} (hblock : IsClosed block)
    (h : Fate Attempt before e after ending) : Fate Attempt (block ++ before) e after ending := by
  cases h with
  | ends hescapes hafter hending =>
    rw [← hblock.activeAttempts_append before] at hescapes
    exact .ends hescapes hafter hending
  | recovers t earlier inner later hkind hbefore hinner hafter hattempt =>
    refine .recovers t (block ++ earlier) inner later hkind ?_ hinner hafter hattempt
    rw [hbefore, List.append_assoc]

/-- A fault that is recovered inside an attempt meets the same fate if another attempt is around it
and other events follow. -/
theorem inside (h : Fate Attempt before e after ending) (pos : Nat) (rest : List Event)
    (whole : Option Fault)
    (hends : e.kind ≠ .recursion ∨ activeAttempts before = [] → after = [] → ending = some e →
      Fate Attempt (.entered pos :: before) e (after ++ rest) whole) :
    Fate Attempt (.entered pos :: before) e (after ++ rest) whole := by
  cases h with
  | ends hescapes hafter hending => exact hends hescapes hafter hending
  | recovers t earlier inner later hkind hbefore hinner hafter hattempt =>
    refine .recovers t (.entered pos :: earlier) inner (later ++ rest) hkind ?_ hinner ?_ hattempt
    · rw [hbefore, List.cons_append]
    · rw [hafter, List.cons_append]

end Fate

/-- The last of some events is a raised fault that uses up the call stack. -/
def IsUsedUp (events : List Event) : Prop :=
  ∃ earlier e, events = earlier ++ [.raised e] ∧ e.kind = .recursion

/-- More in front does not change that a call stack was used up last. -/
theorem IsUsedUp.behind {events : List Event} (h : IsUsedUp events) (front : List Event) :
    IsUsedUp (front ++ events) := by
  obtain ⟨earlier, e, rfl, hkind⟩ := h
  exact ⟨front ++ earlier, e, (List.append_assoc _ _ _).symm, hkind⟩

/-! ### Where an event may stand -/

/-- An event that is not the first one stands behind it. -/
theorem split_first {first event : Event} {later before after : List Event}
    (h : first :: later = before ++ event :: after) (hne : event ≠ first) :
    ∃ between, before = first :: between ∧ later = between ++ event :: after := by
  cases before with
  | nil => exact absurd (List.cons.inj h).1.symm hne
  | cons head between =>
    obtain ⟨rfl, hlater⟩ := List.cons.inj h
    exact ⟨between, rfl, hlater⟩

/-- An event stands inside an attempt that comes first, is the mark at its end, or stands behind
it. -/
theorem split_attempt {pos : Nat} {inner later before after : List Event} {mark event : Event}
    (h : .entered pos :: (inner ++ mark :: later) = before ++ event :: after)
    (hne : event ≠ .entered pos) :
    (∃ between rest, before = .entered pos :: between ∧ inner = between ++ event :: rest ∧
        after = rest ++ mark :: later) ∨
      (before = .entered pos :: inner ∧ event = mark ∧ after = later) ∨
      ∃ between, before = .entered pos :: (inner ++ [mark]) ++ between ∧
        later = between ++ event :: after := by
  obtain ⟨between, rfl, hinside⟩ := split_first h hne
  rcases List.append_eq_append_iff.mp hinside with ⟨rest, rfl, hmark⟩ | ⟨rest, hinner, hevent⟩
  · cases rest with
    | nil =>
      obtain ⟨rfl, rfl⟩ := List.cons.inj hmark
      exact .inr (.inl ⟨by rw [List.append_nil], rfl, rfl⟩)
    | cons head rest =>
      obtain ⟨rfl, hlater⟩ := List.cons.inj hmark
      exact .inr (.inr ⟨rest, by simp, hlater⟩)
  · cases rest with
    | nil =>
      obtain ⟨rfl, rfl⟩ := List.cons.inj hevent
      exact .inr (.inl ⟨by rw [hinner, List.append_nil], rfl, rfl⟩)
    | cons head rest =>
      obtain ⟨rfl, hafter⟩ := List.cons.inj hevent
      exact .inl ⟨between, rest, rfl, hinner, hafter⟩

namespace Settles

variable {Attempt : Cursor → Run (Outcome Value) → Prop} {events events' : List Event}
  {ending : Option Fault}

/-- Every fault that is raised in a run meets its fate. -/
theorem fate (h : Settles Attempt events events' ending) {before after : List Event} {e : Fault}
    (hevents : events = before ++ .raised e :: after) : Fate Attempt before e after ending := by
  induction h generalizing before after with
  | done | broken => simp at hevents
  | raised e' =>
    cases before with
    | nil =>
      obtain ⟨hraised, rfl⟩ := List.cons.inj hevents
      cases hraised
      exact .ends (.inr rfl) rfl rfl
    | cons head before => simp at hevents
  | @plain event later _ _ hplain _ ih =>
    obtain ⟨between, rfl, hlater⟩ := split_first hevents fun hsame => by
      rwa [← hsame] at hplain
    exact (ih hlater).behind (isClosed_of_isPlain hplain)
  | @left pos inner _ later _ ending hinner hlater ihinner ih =>
    rcases split_attempt hevents (by simp) with
      ⟨between, rest, rfl, hinside, rfl⟩ | ⟨-, hmark, -⟩ | ⟨between, rfl, hbehind⟩
    · exact (ihinner hinside).inside pos _ ending fun _ _ hends => by cases hends
    · cases hmark
    · have hclosed := hinner.isClosed (by simp)
      exact (ih hbehind).behind (hclosed.attempt pos (.left pos) fun _ => rfl)
  | @recovered t inner _ later _ e' ending hinner hkind hattempt hlater ihinner ih =>
    have hclosed := hinner.isClosed fun _ he' => Option.some.inj he' ▸ hkind
    rcases split_attempt hevents (by simp) with
      ⟨between, rest, rfl, hinside, rfl⟩ | ⟨-, hmark, -⟩ | ⟨between, rfl, hbehind⟩
    · refine (ihinner hinside).inside t.pos _ ending fun _ hrest hends => ?_
      -- the fault that uses up the call stack is the last event of the attempt
      obtain rfl := hrest
      obtain rfl := Option.some.inj hends
      have hbefore : IsClosed between := by
        intro active
        have hall := hclosed active
        rwa [hinside, List.foldl_append, isClosed_raised] at hall
      refine .recovers t [] between later hkind rfl hbefore rfl ?_
      simpa [hinside] using hattempt
    · cases hmark
    · exact (ih hbehind).behind (hclosed.attempt t.pos (.recovered t.pos) fun _ => rfl)
  | @escaped pos inner _ e' hinner hkind ih =>
    obtain ⟨between, rfl, hinside⟩ := split_first hevents (by simp)
    have hfate := (ih hinside).inside pos [] (some e') fun _ hafter hends => by
      rw [hafter]
      exact .ends (.inl (Option.some.inj hends ▸ hkind)) rfl hends
    rwa [List.append_nil] at hfate

/-- The fault that uses up the call stack is the last event of a run that ends with it. -/
theorem isUsedUp (h : Settles Attempt events events' ending) {e : Fault}
    (hending : ending = some e) (hkind : e.kind = .recursion) : IsUsedUp events := by
  induction h with
  | done => cases hending
  | broken hother =>
    obtain rfl := Option.some.inj hending
    exact absurd hkind hother
  | escaped _ hother =>
    obtain rfl := Option.some.inj hending
    exact absurd hkind hother
  | raised e' =>
    obtain rfl := Option.some.inj hending
    exact ⟨[], _, rfl, hkind⟩
  | @plain event _ _ _ _ _ ih => exact (ih hending).behind [event]
  | @left pos inner _ _ _ _ _ _ _ ih =>
    have hwhole := (ih hending).behind (.entered pos :: (inner ++ [.left pos]))
    simpa only [List.cons_append, List.append_assoc, List.nil_append] using hwhole
  | @recovered t inner _ _ _ _ _ _ _ _ _ _ ih =>
    have hwhole := (ih hending).behind (.entered t.pos :: (inner ++ [.recovered t.pos]))
    simpa only [List.cons_append, List.append_assoc, List.nil_append] using hwhole

/-- An attempt is recovered only from a used-up call stack, and right after it. -/
theorem isUsedUp_of_recovered (h : Settles Attempt events events' ending)
    {before after : List Event} {pos : Nat}
    (hevents : events = before ++ .recovered pos :: after) : IsUsedUp before := by
  induction h generalizing before after with
  | done | broken => simp at hevents
  | raised e' => cases before <;> simp at hevents
  | plain hplain _ ih =>
    obtain ⟨between, rfl, hlater⟩ := split_first hevents fun hsame => by
      rwa [← hsame] at hplain
    exact (ih hlater).behind [_]
  | left _ _ ihinner ih =>
    rcases split_attempt hevents (by simp) with
      ⟨between, rest, rfl, hinside, -⟩ | ⟨-, hmark, -⟩ | ⟨between, rfl, hbehind⟩
    · exact (ihinner hinside).behind [_]
    · cases hmark
    · exact (ih hbehind).behind _
  | recovered hinner hkind _ _ ihinner ih =>
    rcases split_attempt hevents (by simp) with
      ⟨between, rest, rfl, hinside, -⟩ | ⟨rfl, -, -⟩ | ⟨between, rfl, hbehind⟩
    · exact (ihinner hinside).behind [_]
    · exact (hinner.isUsedUp rfl hkind).behind [_]
    · exact (ih hbehind).behind _
  | escaped _ _ ih =>
    obtain ⟨between, rfl, hinside⟩ := split_first hevents (by simp)
    exact (ih hinside).behind [_]

end Settles

end TextGrammar
