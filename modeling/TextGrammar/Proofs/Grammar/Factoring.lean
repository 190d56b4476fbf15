import TextGrammar.Proofs.Grammar.Building

/-!
# Factoring choices

A part with which all alternatives of a choice begin may be read once, in front of a choice of what
comes behind it, and alternatives that stand side by side may be put into a choice of their own.
Every attempt is made at the same cursor as before, so the first attempt that does not fail is the
same one, and only failures and what happens on the way to them can tell the difference.
-/

namespace TextGrammar

variable {α : Type}

/-- Two answers agree on success: they are one match or one fault, or both of them are failures. -/
inductive AgreeOnSuccess : Except Fault (Outcome α) → Except Fault (Outcome α) → Prop
  | matched (m : Match α) : AgreeOnSuccess (.ok (.matched m)) (.ok (.matched m))
  | raised (e : Fault) : AgreeOnSuccess (.error e) (.error e)
  | failed (f f' : Failure) : AgreeOnSuccess (.ok (.failed f)) (.ok (.failed f'))

namespace AgreeOnSuccess

variable {answer answer' answer'' : Except Fault (Outcome α)}

/-- Every answer agrees with itself. -/
theorem refl (answer : Except Fault (Outcome α)) : AgreeOnSuccess answer answer := by
  rcases answer with e | m | f
  · exact .raised e
  · exact .matched m
  · exact .failed f f

/-- Agreement on success goes both ways. -/
theorem symm (h : AgreeOnSuccess answer answer') : AgreeOnSuccess answer' answer := by
  cases h with
  | matched m => exact .matched m
  | raised e => exact .raised e
  | failed f f' => exact .failed f' f

/-- Agreement on success carries over. -/
theorem trans (h : AgreeOnSuccess answer answer') (h' : AgreeOnSuccess answer' answer'') :
    AgreeOnSuccess answer answer'' := by
  cases h with
  | matched m => exact h'
  | raised e => exact h'
  | failed f f' =>
    cases h' with
    | failed _ f'' => exact .failed f f''

/-- A match is the same on both sides. -/
theorem eq_of_matched {m : Match α} (h : AgreeOnSuccess answer answer')
    (hm : answer = .ok (.matched m)) : answer' = .ok (.matched m) := by
  cases h with
  | matched => exact hm
  | raised | failed => cases hm

end AgreeOnSuccess

namespace Parser

variable {exhausted exhausted' : Nat → Nat → Event} {s : Cursor} {failures : List Failure}

/-! ### Alternatives side by side -/

/-- Alternatives that fail may as well be left out. -/
theorem agree_of_failAt (exhausted : Nat → Nat → Event) {before : List (Parser α)}
    (h : FailAt s before failures) (later : List (Parser α)) :
    AgreeOnSuccess (choice exhausted (before ++ later) s).answer
      (choice exhausted later s).answer := by
  rcases failAt_or_exists later s with
    ⟨failures', hlater⟩ | ⟨skipped, first, after, failures', rfl, hskipped, hfirst⟩
  · have hall : FailAt s (before ++ later) (failures ++ failures') := List.rel_append h hlater
    rw [choice_of_failAt exhausted hlater, choice_of_failAt exhausted hall]
    exact .failed _ _
  · have hbefore : FailAt s (before ++ skipped) (failures ++ failures') :=
      List.rel_append h hskipped
    rw [← List.append_assoc, choice_of_first exhausted hbefore hfirst,
      choice_of_first exhausted hskipped hfirst]
    exact .refl _

/-- Alternatives at the front may be put into a choice of their own. -/
theorem agree_block_append (block after : List (Parser α)) (s : Cursor) :
    AgreeOnSuccess (choice exhausted (block ++ after) s).answer
      (choice exhausted (choice exhausted' block :: after) s).answer := by
  rcases failAt_or_exists block s with
    ⟨failures, hblock⟩ | ⟨skipped, first, others, failures, rfl, hskipped, hfirst⟩
  · -- a choice that fails is left out like its alternatives
    have hinner : FailAt s [choice exhausted' block] [.noneMatched s failures] :=
      .cons (choice_of_failAt exhausted' hblock) .nil
    exact (agree_of_failAt exhausted hblock after).trans
      (agree_of_failAt exhausted hinner after).symm
  · have hinner := choice_of_first exhausted' hskipped hfirst others
    have houter : ∀ f, (choice exhausted' (skipped ++ first :: others) s).answer ≠
        .ok (.failed f) := by
      rw [hinner]
      exact hfirst
    have hnested := choice_of_first exhausted .nil houter after
    rw [List.nil_append] at hnested
    rw [hnested, hinner, List.append_assoc, List.cons_append,
      choice_of_first exhausted hskipped hfirst]
    exact .refl _

/-- So may a block of alternatives behind others. -/
theorem agree_block (before block after : List (Parser α)) (s : Cursor) :
    AgreeOnSuccess (choice exhausted (before ++ block ++ after) s).answer
      (choice exhausted (before ++ choice exhausted' block :: after) s).answer := by
  rcases failAt_or_exists before s with
    ⟨failures, hbefore⟩ | ⟨skipped, first, others, failures, rfl, hskipped, hfirst⟩
  · rw [List.append_assoc]
    have hflat := agree_of_failAt exhausted hbefore (block ++ after)
    have hnested := agree_of_failAt exhausted hbefore (choice exhausted' block :: after)
    exact (hflat.trans (agree_block_append block after s)).trans hnested.symm
  · simp only [List.append_assoc, List.cons_append]
    rw [choice_of_first exhausted hskipped hfirst, choice_of_first exhausted hskipped hfirst]
    exact .refl _

/-! ### A common first part -/

/-- Reads two parts one behind the other. -/
def pair (first second : Parser Value) : Parser Value := map .tuple (sequence [first, second])

/-- The pair of a value and what has been read behind it. -/
def pairBehind (s : Cursor) (value : Value) : Outcome Value → Outcome Value
  | .matched m => .matched (s.matchTo (.tuple [value, m.value]) m.rest)
  | .failed f => .failed f

/-- A pair is read one part behind the other. -/
theorem pair_eq (first second : Parser Value) (s : Cursor) :
    pair first second s = (first s).ifMatched fun m => (second m.rest).ifMatched fun m' =>
      .matched (s.matchTo (.tuple [m.value, m'.value]) m'.rest) := by
  simp only [pair, map, sequence, Run.ifMatched_assoc, Run.matched_ifMatched, Cursor.matchTo_value,
    Cursor.matchTo_rest]
  rfl

/-- Behind a first part that matches, the second one decides. -/
theorem pair_answer {first : Parser Value} {m : Match Value}
    (h : (first s).answer = .ok (.matched m)) (second : Parser Value) :
    (pair first second s).answer = (second m.rest).answer.map (pairBehind s m.value) := by
  rw [pair_eq, Run.ifMatched_of_matched h]
  cases hsecond : (second m.rest).answer with
  | error e =>
    rw [Run.ifMatched_of_error hsecond]
    rfl
  | ok outcome =>
    cases outcome with
    | matched m' =>
      rw [Run.ifMatched_of_matched hsecond]
      rfl
    | failed f =>
      rw [Run.ifMatched_of_failed hsecond]
      rfl

/-- A pair whose first part matches fails only if the second part does. -/
theorem pair_ne_failed {first second : Parser Value} {m : Match Value}
    (hfirst : (first s).answer = .ok (.matched m))
    (h : ∀ f, (second m.rest).answer ≠ .ok (.failed f)) (f : Failure) :
    (pair first second s).answer ≠ .ok (.failed f) := by
  rw [pair_answer hfirst]
  rcases hsecond : (second m.rest).answer with e | m' | f'
  · simp [Except.map]
  · simp [Except.map, pairBehind]
  · exact absurd hsecond (h f')

/-- Alternatives that fail behind a match fail as well if they read it themselves. -/
theorem FailAt.pair {first : Parser Value} {m : Match Value} {parsers : List (Parser Value)}
    (h : FailAt m.rest parsers failures) (hfirst : (first s).answer = .ok (.matched m)) :
    FailAt s (parsers.map (Parser.pair first)) failures := by
  rw [FailAt, List.forall₂_map_left_iff]
  apply h.imp
  intro second f hfailed
  rw [pair_answer hfirst, hfailed]
  rfl

/-- What all alternatives begin with may be read once, in front of the choice. -/
theorem agree_factored (first parser : Parser Value) (parsers : List (Parser Value)) (s : Cursor) :
    AgreeOnSuccess (pair first (choice exhausted (parser :: parsers)) s).answer
      (choice exhausted' ((parser :: parsers).map (pair first)) s).answer := by
  cases hfirst : (first s).answer with
  | error e =>
    have hpair (second : Parser Value) : (pair first second s).answer = .error e := by
      rw [pair_eq, Run.ifMatched_of_error hfirst]
    have hraised : ∀ f, (pair first parser s).answer ≠ .ok (.failed f) := by
      simp [hpair]
    have hchoice := choice_of_first exhausted' .nil hraised (parsers.map (pair first))
    rw [List.nil_append, hpair] at hchoice
    rw [hpair, List.map_cons, hchoice]
    exact .raised e
  | ok outcome =>
    cases outcome with
    | failed f =>
      have hpair (second : Parser Value) : (pair first second s).answer = .ok (.failed f) := by
        rw [pair_eq, Run.ifMatched_of_failed hfirst]
      have hall : FailAt s ((parser :: parsers).map (pair first))
          ((parser :: parsers).map fun _ => f) := by
        rw [FailAt, List.forall₂_map_left_iff, List.forall₂_map_right_iff, List.forall₂_same]
        exact fun second _ => hpair second
      rw [hpair, choice_of_failAt exhausted' hall]
      exact .failed _ _
    | matched m =>
      rw [pair_answer hfirst]
      rcases failAt_or_exists (parser :: parsers) m.rest with
        ⟨failures, hall⟩ | ⟨skipped, next, after, failures, hparsers, hskipped, hnext⟩
      · rw [choice_of_failAt exhausted hall, choice_of_failAt exhausted' (hall.pair hfirst)]
        exact .failed _ _
      · -- the first alternative that does not fail is the same one on both sides
        have hpair := pair_ne_failed hfirst hnext
        rw [hparsers, choice_of_first exhausted hskipped hnext, List.map_append, List.map_cons,
          choice_of_first exhausted' (hskipped.pair hfirst) hpair, pair_answer hfirst]
        exact .refl _

end Parser

variable {defs : Definitions}

/-- A pair of descriptions that are built is built. -/
theorem Description.builds_pair {a b : Description} (ha : a.Builds defs) (hb : b.Builds defs) :
    (Description.sequence [a, b]).Builds defs :=
  builds_sequence (by simp [ha, hb]) (by simp [minSequenceLength]) (by simp [maxSequenceLength])

/-- A pair of descriptions is read one behind the other. -/
theorem Description.read_pair {a b : Description} (ha : a.Builds defs) (hb : b.Builds defs)
    (limit : Nat) :
    (Description.sequence [a, b]).read defs limit =
      Parser.pair (a.read defs limit) (b.read defs limit) :=
  read_sequence (by simp [ha, hb]) (by simp [minSequenceLength]) (by simp [maxSequenceLength])

/-- Choices may be factored. A part with which all alternatives begin may be read once, in front of
a choice of what comes behind it, and a block of alternatives may be put into a choice of its own.
Neither changes whether the whole succeeds, nor its match with the value, start, end and tag, nor
the fault with which a function of the user ends it. -/
theorem Description.read_factored {a : Description} {bs : List Description}
    (ha : a.Builds defs) (hbs : ∀ b ∈ bs, b.Builds defs) (hlength : 2 ≤ bs.length) (limit : Nat)
    (s : Cursor) :
    AgreeOnSuccess ((Description.sequence [a, .oneOf bs]).read defs limit s).answer
        ((Description.oneOf (bs.map fun b => .sequence [a, b])).read defs limit s).answer ∧
      ∀ before block after, bs = before ++ block ++ after → 2 ≤ block.length →
        block.length < bs.length →
          AgreeOnSuccess ((Description.oneOf bs).read defs limit s).answer
            ((Description.oneOf (before ++ .oneOf block :: after)).read defs limit s).answer := by
  constructor
  · have hpairs : ∀ d ∈ bs.map fun b => Description.sequence [a, b], d.Builds defs :=
      List.forall_mem_map.mpr fun b hb => builds_pair ha (hbs b hb)
    have hreads : (bs.map fun b => Description.sequence [a, b]).map (·.read defs limit) =
        (bs.map (·.read defs limit)).map (Parser.pair (a.read defs limit)) := by
      rw [List.map_map, List.map_map]
      exact List.map_congr_left fun b hb => read_pair ha (hbs b hb) limit
    rw [read_pair ha (builds_oneOf hbs hlength) limit, read_oneOf hbs hlength,
      read_oneOf hpairs (by rwa [List.length_map]), hreads]
    cases bs with
    | nil => cases hlength
    | cons b bs => exact Parser.agree_factored _ _ _ s
  · rintro before block after rfl hmin hless
    obtain ⟨⟨hbefore, hblock⟩, hafter⟩ :
        ((∀ b ∈ before, b.Builds defs) ∧ ∀ b ∈ block, b.Builds defs) ∧
          ∀ b ∈ after, b.Builds defs := by
      simpa only [List.forall_mem_append] using hbs
    have hnested : ∀ b ∈ before ++ .oneOf block :: after, b.Builds defs := by
      rw [List.forall_mem_append, List.forall_mem_cons]
      exact ⟨hbefore, builds_oneOf hblock hmin, hafter⟩
    have hlength' : 2 ≤ (before ++ Description.oneOf block :: after).length := by
      simp only [List.length_append, List.length_cons] at hless ⊢
      omega
    rw [read_oneOf hbs hlength, read_oneOf hnested hlength', List.map_append, List.map_append,
      List.map_append, List.map_cons, read_oneOf hblock hmin]
    exact Parser.agree_block _ _ _ s

/-- What may stand behind a digit. -/
def unitsOfTime : List Description := [.value (.text "h"), .value (.text "m"), .value (.text "s")]

/-- The units of time are built. -/
theorem unitsOfTime_build : ∀ d ∈ unitsOfTime, d.Builds ⟨[]⟩ := by
  simp only [unitsOfTime, List.forall_mem_cons, List.not_mem_nil, false_implies, implies_true,
    and_true]
  exact ⟨⟨_, by cbv⟩, ⟨_, by cbv⟩, ⟨_, by cbv⟩⟩

/-- Five seconds. -/
def fiveSeconds : Match Value :=
  (Cursor.ofText "5s").matchTo (.tuple [.int 5, .text "s"]) ((Cursor.ofText "5s").skip 2)

set_option maxRecDepth 4000 in
/-- A digit with a unit of time is read. -/
theorem digit_unitsOfTime_matched :
    ((Description.sequence [.leaf .digit, .oneOf unitsOfTime]).read ⟨[]⟩ 1 (.ofText "5s")).answer =
      .ok (.matched fiveSeconds) := by
  cbv

/-- A digit with a unit is read by the choice between a digit with an hour, with a minute and with a
second, and the last two units may be a choice in the choice. -/
theorem digit_unitsOfTime_factored :
    (Description.leaf .digit).Builds ⟨[]⟩ ∧ (∀ d ∈ unitsOfTime, d.Builds ⟨[]⟩) ∧
      2 ≤ unitsOfTime.length ∧
      ((Description.oneOf (unitsOfTime.map fun b => .sequence [.leaf .digit, b])).read ⟨[]⟩ 1
        (.ofText "5s")).answer = .ok (.matched fiveSeconds) ∧
      AgreeOnSuccess ((Description.oneOf unitsOfTime).read ⟨[]⟩ 1 (.ofText "s")).answer
        ((Description.oneOf [.value (.text "h"),
          .oneOf [.value (.text "m"), .value (.text "s")]]).read ⟨[]⟩ 1 (.ofText "s")).answer := by
  have hdigit : (Description.leaf .digit).Builds ⟨[]⟩ := ⟨_, by cbv⟩
  have hlength : 2 ≤ unitsOfTime.length := by decide
  have hfactored := Description.read_factored hdigit unitsOfTime_build hlength 1 (.ofText "5s")
  have hgrouped := Description.read_factored hdigit unitsOfTime_build hlength 1 (.ofText "s")
  exact ⟨hdigit, unitsOfTime_build, hlength, hfactored.1.eq_of_matched digit_unitsOfTime_matched,
    hgrouped.2 [.value (.text "h")] [.value (.text "m"), .value (.text "s")] [] rfl (by decide)
      (by decide)⟩

end TextGrammar
