import TextGrammar.Proofs.Failure.Furthest
import TextGrammar.Proofs.Grammar.Building

/-!
# Exclusive alternatives

A choice takes the first alternative that does not fail, so in general its alternatives cannot be
put into another order. They can where at most one of them matches and none ends with a fault. The
failures in front of the one that matches are other ones then, but they leave no mark on its match.
If there is none, every alternative fails as it did before, and the failures stand in the new order.
-/

namespace TextGrammar

open Equiv (Perm)

/-! ### Failures in another order -/

namespace Failure

variable {s : Cursor} {failures failures' : List Failure} {f f' g g' : Failure}

/-- In every order of some failures the furthest one lies at the same position. It need not be the
same failure, since of several the earliest one is taken. -/
theorem furthest_pos_eq_of_perm (h : failures.Perm failures') (hg : furthest? failures = some g)
    (hg' : furthest? failures' = some g') : g.pos = g'.pos := by
  have hle : g.pos ≤ g'.pos := pos_le_furthest hg' g (h.mem_iff.mp (furthest?_mem hg))
  have hge : g'.pos ≤ g.pos := pos_le_furthest hg g' (h.mem_iff.mpr (furthest?_mem hg'))
  omega

/-- Two failures of choices whose alternatives failed at one cursor in two orders. They have the
same failures and remarks, each in its order, and the furthest ones lie at one position. -/
structure Permuted {n : Nat} (s : Cursor) (σ : Perm (Fin n)) (failures : Fin n → Failure)
    (f f' : Failure) : Prop where
  collects : f.Collects s (List.ofFn failures)
  collects_permuted : f'.Collects s (List.ofFn (failures ∘ σ))
  notes_eq : f.notes = List.ofFn (note ∘ failures)
  notes_permuted_eq : f'.notes = List.ofFn (note ∘ failures ∘ σ)
  furthest_pos_eq : ∃ g g', furthest (List.ofFn failures) = .ok g ∧
    furthest (List.ofFn (failures ∘ σ)) = .ok g' ∧ g.pos = g'.pos

/-- The failures of a choice in another order are the failures of the choice in that order. -/
theorem permuted_noneMatched {n : Nat} (s : Cursor) (σ : Perm (Fin (n + 1)))
    (failures : Fin (n + 1) → Failure) :
    Permuted s σ failures (.noneMatched s (List.ofFn failures))
      (.noneMatched s (List.ofFn (failures ∘ σ))) where
  collects := collects_noneMatched s (by simp)
  collects_permuted := collects_noneMatched s (by simp)
  notes_eq := List.map_ofFn
  notes_permuted_eq := List.map_ofFn
  furthest_pos_eq := by
    obtain ⟨g, hg⟩ : ∃ g, furthest? (List.ofFn failures) = some g := exists_furthest? (by simp)
    obtain ⟨g', hg'⟩ : ∃ g, furthest? (List.ofFn (failures ∘ σ)) = some g :=
      exists_furthest? (by simp)
    refine ⟨g, g', by rw [furthest, hg], by rw [furthest, hg'], ?_⟩
    exact furthest_pos_eq_of_perm (σ.ofFn_comp_perm failures).symm hg hg'

end Failure

/-! ### Attempts in another order -/

namespace Parser

variable {α : Type} {n : Nat} {exhausted exhausted' : Nat → Nat → Event} {s : Cursor}

/-- Two answers of a choice with its alternatives in two orders. Either they are the match of one of
the alternatives, or all of these fail and the failures stand in the two orders. -/
inductive ChooseAlike (s : Cursor) (σ : Perm (Fin n)) (alternatives : Fin n → Parser α) :
    Except Fault (Outcome α) → Except Fault (Outcome α) → Prop
  | matched {i : Fin n} {m : Match α} (hmatched : (alternatives i s).answer = .ok (.matched m)) :
      ChooseAlike s σ alternatives (.ok (.matched m)) (.ok (.matched m))
  | noneMatched {failures : Fin n → Failure} {f f' : Failure}
      (hfailures : ∀ i, (alternatives i s).answer = .ok (.failed (failures i)))
      (hpermuted : Failure.Permuted s σ failures f f') :
      ChooseAlike s σ alternatives (.ok (.failed f)) (.ok (.failed f'))

namespace ChooseAlike

variable {σ : Perm (Fin n)} {alternatives : Fin n → Parser α}
  {answer answer' : Except Fault (Outcome α)}

/-- What matches in one order matches in the other one, and alike. -/
theorem eq_of_matched {m : Match α} (h : ChooseAlike s σ alternatives answer answer')
    (hm : answer = .ok (.matched m)) : answer' = .ok (.matched m) := by
  cases h with
  | matched => exact hm
  | noneMatched => cases hm

/-- What fails in one order fails in the other one, with the same failures in that order. -/
theorem exists_permuted {f : Failure} (h : ChooseAlike s σ alternatives answer answer')
    (hf : answer = .ok (.failed f)) :
    ∃ failures f', answer' = .ok (.failed f') ∧ Failure.Permuted s σ failures f f' := by
  cases h with
  | matched => cases hf
  | noneMatched _ hpermuted =>
    cases hf
    exact ⟨_, _, rfl, hpermuted⟩

end ChooseAlike

/-- Parsers exclude each other at a cursor if none ends with a fault there and at most one of them
matches. -/
structure AreExclusive (s : Cursor) (alternatives : Fin n → Parser α) : Prop where
  not_raised : ∀ i e, (alternatives i s).answer ≠ .error e
  unique : ∀ i j m m', (alternatives i s).answer = .ok (.matched m) →
    (alternatives j s).answer = .ok (.matched m') → i = j

/-- Alternatives that exclude each other do so in every order. -/
theorem AreExclusive.permuted {alternatives : Fin n → Parser α} (h : AreExclusive s alternatives)
    (σ : Perm (Fin n)) : AreExclusive s (alternatives ∘ σ) where
  not_raised i := h.not_raised (σ i)
  unique i j m m' hi hj := σ.injective (h.unique (σ i) (σ j) m m' hi hj)

/-- It is enough that all of them fail but one. -/
theorem areExclusive_of_failed {alternatives : Fin n → Parser α} (k : Fin n)
    (hk : ∀ e, (alternatives k s).answer ≠ .error e)
    (hothers : ∀ i, i ≠ k → ∃ f, (alternatives i s).answer = .ok (.failed f)) :
    AreExclusive s alternatives where
  not_raised i e hraised := by
    by_cases hi : i = k
    · exact hk e (hi ▸ hraised)
    · obtain ⟨f, hf⟩ := hothers i hi
      rw [hf] at hraised
      cases hraised
  unique := by
    have heq : ∀ i m, (alternatives i s).answer = .ok (.matched m) → i = k := by
      intro i m hmatched
      by_contra hi
      obtain ⟨f, hf⟩ := hothers i hi
      rw [hf] at hmatched
      cases hmatched
    intro i j m m' hi hj
    rw [heq i m hi, heq j m' hj]

/-- Alternatives each of which fails fail together. -/
theorem failAt_ofFn {alternatives : Fin n → Parser α} {failures : Fin n → Failure}
    (h : ∀ i, (alternatives i s).answer = .ok (.failed (failures i))) :
    FailAt s (List.ofFn alternatives) (List.ofFn failures) := by
  rw [FailAt, List.forall₂_iff_get]
  refine ⟨by rw [List.length_ofFn, List.length_ofFn], ?_⟩
  intro i hi _
  simpa using h ⟨i, by simpa using hi⟩

/-- Each of several parsers that fail together fails. -/
theorem FailAt.failed_of_mem {parser : Parser α} {parsers : List (Parser α)}
    {failures : List Failure} (h : FailAt s parsers failures) (hmem : parser ∈ parsers) :
    ∃ f, (parser s).answer = .ok (.failed f) := by
  induction h with
  | nil => cases hmem
  | cons hfailed _ ih =>
    rcases List.mem_cons.mp hmem with rfl | hlater
    · exact ⟨_, hfailed⟩
    · exact ih hlater

/-- A choice between alternatives that exclude each other takes the one that matches, wherever it
stands. -/
theorem AreExclusive.choice_eq {alternatives : Fin n → Parser α} (h : AreExclusive s alternatives)
    (exhausted : Nat → Nat → Event) {i : Fin n} {m : Match α}
    (hmatched : (alternatives i s).answer = .ok (.matched m)) :
    (choice exhausted (List.ofFn alternatives) s).answer = .ok (.matched m) := by
  rcases failAt_or_exists (List.ofFn alternatives) s with
    ⟨failures, hall⟩ | ⟨before, first, after, failures, halternatives, hbefore, hfirst⟩
  · obtain ⟨f, hf⟩ := hall.failed_of_mem (List.mem_ofFn.mpr ⟨i, rfl⟩)
    rw [hmatched] at hf
    cases hf
  · have hmem : first ∈ List.ofFn alternatives := by simp [halternatives]
    obtain ⟨j, rfl⟩ := List.mem_ofFn.mp hmem
    rw [halternatives, choice_of_first exhausted hbefore hfirst]
    rcases hanswer : (alternatives j s).answer with e | m' | f
    · exact absurd hanswer (h.not_raised j e)
    · obtain rfl : i = j := h.unique i j m m' hmatched hanswer
      rw [← hanswer, hmatched]
    · exact absurd hanswer (hfirst f)

/-- Alternatives that exclude each other may be put into any order. -/
theorem AreExclusive.chooseAlike {alternatives : Fin (n + 1) → Parser α}
    (h : AreExclusive s alternatives) (σ : Perm (Fin (n + 1))) :
    ChooseAlike s σ alternatives (choice exhausted (List.ofFn alternatives) s).answer
      (choice exhausted' (List.ofFn (alternatives ∘ σ)) s).answer := by
  by_cases hmatched : ∃ i m, (alternatives i s).answer = .ok (.matched m)
  · obtain ⟨i, m, hi⟩ := hmatched
    have hpermuted : ((alternatives ∘ σ) (σ.symm i) s).answer = .ok (.matched m) := by
      rwa [Function.comp_apply, Equiv.apply_symm_apply]
    rw [h.choice_eq exhausted hi, (h.permuted σ).choice_eq exhausted' hpermuted]
    exact .matched hi
  · have hfailed : ∀ i, ∃ f, (alternatives i s).answer = .ok (.failed f) := by
      intro i
      rcases hanswer : (alternatives i s).answer with e | m | f
      · exact absurd hanswer (h.not_raised i e)
      · exact absurd ⟨i, m, hanswer⟩ hmatched
      · exact ⟨f, rfl⟩
    choose failures hfailures using hfailed
    have hall : FailAt s (List.ofFn alternatives) (List.ofFn failures) := failAt_ofFn hfailures
    have hpermuted : FailAt s (List.ofFn (alternatives ∘ σ)) (List.ofFn (failures ∘ σ)) :=
      failAt_ofFn fun i => hfailures (σ i)
    rw [choice_of_failAt exhausted hall, choice_of_failAt exhausted' hpermuted]
    exact .noneMatched hfailures (Failure.permuted_noneMatched s σ failures)

end Parser

/-! ### Choices between grammars and between variants -/

variable {defs : Definitions} {n : Nat}

/-- Alternatives that answer are read by a choice in the order in which they are listed. -/
theorem Description.read_oneOf_ofFn {alternatives : Fin (n + 2) → Description}
    (hbuilds : ∀ i, (alternatives i).Builds defs) (limit : Nat) :
    (Description.oneOf (List.ofFn alternatives)).read defs limit =
      Parser.oneOf (List.ofFn fun i => (alternatives i).read defs limit) := by
  rw [read_oneOf (List.forall_mem_ofFn_iff.mpr hbuilds) (by simp), List.map_ofFn]
  rfl

/-- A sum of variants that are built is read as a choice between them. -/
theorem Description.exists_read_sum_ofFn
    {variants : Fin (n + 1) → VariantDescription Description}
    (hbuilds : ∀ i, (Description.variant (variants i)).Builds defs) (limit : Nat) :
    ∃ names, (Description.sum (List.ofFn variants)).read defs limit =
      Parser.choice (fun _ pos => .variantsExhausted names pos)
        (List.ofFn fun i => (Description.variant (variants i)).read defs limit) := by
  obtain ⟨names, hread⟩ := read_sum (by simp) (List.forall_mem_ofFn_iff.mpr hbuilds) limit
  rw [List.map_ofFn] at hread
  exact ⟨names, hread⟩

/-- The order of alternatives that exclude each other does not matter, be they the grammars of a
choice or the variants of a sum. If one of them matches, every order has its match with the value,
start, end and tag. If none does, every order fails where the alternatives were attempted, with
their failures and remarks in that order and a furthest failure at the same position. -/
theorem Description.read_permuted (defs : Definitions) (limit : Nat) (s : Cursor) :
    (∀ n (σ : Perm (Fin (n + 2))) (alternatives : Fin (n + 2) → Description),
      Parser.AreExclusive s (fun i => (alternatives i).read defs limit) →
        Parser.ChooseAlike s σ (fun i => (alternatives i).read defs limit)
          ((Description.oneOf (List.ofFn alternatives)).read defs limit s).answer
          ((Description.oneOf (List.ofFn (alternatives ∘ σ))).read defs limit s).answer) ∧
      ∀ n (σ : Perm (Fin (n + 1))) (variants : Fin (n + 1) → VariantDescription Description),
        Parser.AreExclusive s (fun i => (Description.variant (variants i)).read defs limit) →
          Parser.ChooseAlike s σ (fun i => (Description.variant (variants i)).read defs limit)
            ((Description.sum (List.ofFn variants)).read defs limit s).answer
            ((Description.sum (List.ofFn (variants ∘ σ))).read defs limit s).answer := by
  constructor
  · intro n σ alternatives h
    have hbuilds : ∀ i, (alternatives i).Builds defs := fun i => builds_of_answers (h.not_raised i)
    have hpermuted : ∀ i, ((alternatives ∘ σ) i).Builds defs := fun i => hbuilds (σ i)
    rw [read_oneOf_ofFn hbuilds, read_oneOf_ofFn hpermuted]
    exact h.chooseAlike σ
  · intro n σ variants h
    have hbuilds : ∀ i, (Description.variant (variants i)).Builds defs :=
      fun i => builds_of_answers (h.not_raised i)
    have hpermuted : ∀ i, (Description.variant ((variants ∘ σ) i)).Builds defs :=
      fun i => hbuilds (σ i)
    obtain ⟨names, hread⟩ := exists_read_sum_ofFn hbuilds limit
    obtain ⟨names', hread'⟩ := exists_read_sum_ofFn hpermuted limit
    rw [hread, hread']
    exact h.chooseAlike σ

/-- A dash, a digit or a letter. -/
def marks : Fin 3 → Description := ![.value (.text "-"), .leaf .digit, .value (.text "x")]

/-- An object with a dash or with a digit in it. -/
def markVariants : Fin 2 → VariantDescription Description :=
  ![⟨none, objectBuilder "Dash", [.bare (.value (.text "-"))], false, false⟩,
    ⟨none, objectBuilder "Digit", [.capture "value" (.leaf .digit) none], false, false⟩]

/-- The digit seven as it is read by the marks. -/
def sevenMatch : Match Value :=
  (Cursor.ofText "7").matchTo (.int 7) ((Cursor.ofText "7").skip 1)

/-- Why no variant is read where there is no mark. -/
def unmarkedFailure : Failure :=
  .noneMatched (.ofText "?")
    [.mismatch (.ofText "?") "'-'" '?', .mismatch (.ofText "?") "a digit" '?']

set_option maxRecDepth 4000 in
/-- At a digit the marks exclude each other. -/
theorem marks_areExclusive :
    Parser.AreExclusive (.ofText "7") fun i => (marks i).read ⟨[]⟩ 1 := by
  have hdigit : ((marks 1).read ⟨[]⟩ 1 (.ofText "7")).answer = .ok (.matched sevenMatch) := by
    cbv
  apply Parser.areExclusive_of_failed 1
  · simp [hdigit]
  · intro i hi
    fin_cases i
    · exact ⟨_, by cbv⟩
    · exact absurd rfl hi
    · exact ⟨_, by cbv⟩

set_option maxRecDepth 4000 in
/-- At a mark that none of them knows the variants exclude each other. -/
theorem markVariants_areExclusive :
    Parser.AreExclusive (.ofText "?") fun i =>
      (Description.variant (markVariants i)).read ⟨[]⟩ 1 := by
  have hfailed : ∀ i, ∃ f, ((Description.variant (markVariants i)).read ⟨[]⟩ 1
      (.ofText "?")).answer = .ok (.failed f) := by
    intro i
    fin_cases i
    · exact ⟨_, by cbv⟩
    · exact ⟨_, by cbv⟩
  obtain ⟨f, hf⟩ := hfailed 0
  exact Parser.areExclusive_of_failed 0 (by simp [hf]) fun i _ => hfailed i

set_option maxRecDepth 4000 in
/-- One of the marks matches a digit. -/
theorem marks_matched :
    ((Description.oneOf (List.ofFn marks)).read ⟨[]⟩ 1 (.ofText "7")).answer =
      .ok (.matched sevenMatch) := by
  cbv

set_option maxRecDepth 4000 in
/-- None of the variants matches a mark that they do not know. -/
theorem markVariants_failed :
    ((Description.sum (List.ofFn markVariants)).read ⟨[]⟩ 1 (.ofText "?")).answer =
      .ok (.failed unmarkedFailure) := by
  cbv

/-- A digit is read wherever it stands among the marks, and a question mark is refused by the
variants in either order. -/
theorem marks_read_permuted :
    Parser.AreExclusive (.ofText "7") (fun i => (marks i).read ⟨[]⟩ 1) ∧
      Parser.AreExclusive (.ofText "?")
        (fun i => (Description.variant (markVariants i)).read ⟨[]⟩ 1) ∧
      ((Description.oneOf (List.ofFn (marks ∘ finRotate 3))).read ⟨[]⟩ 1 (.ofText "7")).answer =
        .ok (.matched sevenMatch) ∧
      ∃ failures f, ((Description.sum (List.ofFn (markVariants ∘ Equiv.swap 0 1))).read ⟨[]⟩ 1
          (.ofText "?")).answer = .ok (.failed f) ∧
        Failure.Permuted (.ofText "?") (Equiv.swap (0 : Fin 2) 1) failures unmarkedFailure f := by
  have hchoice := (Description.read_permuted ⟨[]⟩ 1 (.ofText "7")).1 1 (finRotate 3) marks
    marks_areExclusive
  have hsum := (Description.read_permuted ⟨[]⟩ 1 (.ofText "?")).2 1 (Equiv.swap 0 1) markVariants
    markVariants_areExclusive
  exact ⟨marks_areExclusive, markVariants_areExclusive, hchoice.eq_of_matched marks_matched,
    hsum.exists_permuted markVariants_failed⟩

end TextGrammar
