import TextGrammar.Proofs.Grammar.Events
import TextGrammar.Proofs.Grammar.Exits
import TextGrammar.Proofs.Grammar.Limit

/-!
# How deep readings nest

For a grammar that is not left recursive there is a nesting limit for every text. Between
two attempts at one and the same edge, one inside the other, a character is read; so at
each position of the text no more attempts are nested than there are edges. The measure
that falls with every attempt at an edge counts, for every character that remains, all
edges, and at the current position those edges with which the grammar can still open.
-/

namespace TextGrammar

open Relation

variable {defs : Definitions}

/-- Whether a grammar is an edge. -/
def Grammar.isEdge : Grammar → Bool
  | .edge _ _ => true
  | _ => false

/-- How many edges are written down in a grammar and in the definitions. -/
def Grammar.edgeCount (defs : Definitions) (g : Grammar) : Nat :=
  (g.exits ++ defs.exits).countP isEdge

section Count

open Classical

/-- How many of some exits are edges that a grammar can attempt before a character has been read. -/
noncomputable def openingEdges (defs : Definitions) (E : List Grammar) (g : Grammar) : Nat :=
  E.countP fun e => decide (e.isEdge = true ∧ ReflTransGen (Grammar.Opens defs) g e)

variable {E : List Grammar} {g h : Grammar}

/-- No more edges can be attempted where a grammar begins than there are. -/
theorem openingEdges_le (defs : Definitions) (E : List Grammar) (g : Grammar) :
    openingEdges defs E g ≤ E.countP Grammar.isEdge := by
  apply List.countP_mono_left
  intro e _ hopens
  exact (of_decide_eq_true hopens).1

/-- What a grammar opens with can attempt no more edges at the same position. -/
theorem openingEdges_mono (hopens : ReflTransGen (Grammar.Opens defs) g h) :
    openingEdges defs E h ≤ openingEdges defs E g := by
  apply List.countP_mono_left
  intro e _ he
  obtain ⟨hedge, hlater⟩ := of_decide_eq_true he
  exact decide_eq_true ⟨hedge, hopens.trans hlater⟩

/-- Behind an edge that cannot come back to itself, the edge is no longer among them. -/
theorem openingEdges_lt {label : Option String} {target : Target Description}
    (he : .edge label target ∈ E) (hresolve : target.resolve defs = .ok g)
    (hleft : ¬TransGen (Grammar.Opens defs) (.edge label target) (.edge label target)) :
    openingEdges defs E g < openingEdges defs E (.edge label target) := by
  obtain ⟨before, after, rfl⟩ := List.append_of_mem he
  have hopens : Grammar.Opens defs (.edge label target) g := .edge hresolve
  have hbefore : openingEdges defs before g ≤ openingEdges defs before (.edge label target) :=
    openingEdges_mono (.single hopens)
  have hafter : openingEdges defs after g ≤ openingEdges defs after (.edge label target) :=
    openingEdges_mono (.single hopens)
  have hgone : ¬ReflTransGen (Grammar.Opens defs) g (.edge label target) :=
    fun hback => hleft (.head' hopens hback)
  have hbehind : openingEdges defs (before ++ .edge label target :: after) g =
      openingEdges defs before g + openingEdges defs after g := by
    rw [openingEdges, List.countP_append, List.countP_cons_of_neg]
    · rfl
    · exact fun hcounted => hgone (of_decide_eq_true hcounted).2
  have hat : openingEdges defs (before ++ .edge label target :: after) (.edge label target) =
      openingEdges defs before (.edge label target) +
        (openingEdges defs after (.edge label target) + 1) := by
    rw [openingEdges, List.countP_append, List.countP_cons_of_pos]
    · rfl
    · exact decide_eq_true ⟨rfl, .refl⟩
  omega

/-- An edge counts itself among those that it opens with. -/
theorem openingEdges_pos (defs : Definitions) {label : Option String} {target : Target Description}
    (he : .edge label target ∈ E) : 0 < openingEdges defs E (.edge label target) :=
  List.countP_pos_iff.mpr ⟨_, he, decide_eq_true ⟨rfl, .refl⟩⟩

end Count

/-- The measure of an edge is no larger than that of a grammar that may attempt it. -/
theorem openingEdges_attempt {E : List Grammar} {g e : Grammar} {s t : Cursor} (ht : s.LeadsTo t)
    (hopens : t.pos = s.pos → ReflTransGen (Grammar.Opens defs) g e) :
    t.remaining * E.countP Grammar.isEdge + openingEdges defs E e ≤
      s.remaining * E.countP Grammar.isEdge + openingEdges defs E g := by
  by_cases hpos : t.pos = s.pos
  · have hsame : t = s := ht.eq_of_pos_eq hpos
    have hmono := openingEdges_mono (E := E) (hopens hpos)
    rw [hsame]
    omega
  · have hless := ht.remaining_lt hpos
    have hmul := Nat.mul_le_mul_right (E.countP Grammar.isEdge) (Nat.succ_le_of_lt hless)
    have hle := openingEdges_le defs E e
    rw [Nat.succ_mul] at hmul
    omega

/-- As long as the measure stays within the limit, no attempt is refused. -/
theorem Grammar.avoids_refusal {E : List Grammar} {g : Grammar} {s : Cursor} {limit : Nat}
    (hg : g.IsStandard defs) (hleft : ¬g.IsLeftRecursive defs)
    (hE : ∀ label target, g.Reaches defs (.edge label target) → .edge label target ∈ E)
    (hlimit : s.remaining * E.countP isEdge + openingEdges defs E g ≤ limit) :
    (g.parserWithin defs limit s).Avoids Event.IsRefusal := by
  induction limit generalizing g s with
  | zero =>
    rw [Grammar.parserWithin_eq]
    refine Grammar.parser_avoids (fun _ _ hedge => edgeWithin_advances hedge 0) hg ?_
    intro label target hreach t ht hopens
    have hattempt := openingEdges_attempt (E := E) ht hopens
    -- an edge that could be attempted would count itself
    have hpos := openingEdges_pos defs (hE label target hreach)
    omega
  | succ limit ih =>
    rw [Grammar.parserWithin_eq]
    refine Grammar.parser_avoids (fun _ _ hedge => edgeWithin_advances hedge (limit + 1)) hg ?_
    intro label target hreach t ht hopens
    apply avoids_edgeWithin
    intro g' hresolve
    have hreach' : g.Reaches defs g' := hreach.trans (.target hresolve (.refl g'))
    have hattempt := openingEdges_attempt (E := E) ht hopens
    -- behind the edge the measure is smaller, so it fits the limit that is left
    have hless := openingEdges_lt (hE label target hreach) hresolve fun hback =>
      hleft ⟨label, target, hreach, hback⟩
    have hleft' : ¬g'.IsLeftRecursive defs := fun h => hleft (h.of_reaches hreach')
    exact ih (hg.of_reaches hreach') hleft' (fun _ _ h => hE _ _ (hreach'.trans h)) (by omega)

/-- Within a limit of as many attempts for each position of the text as there are edges, a reading
by a grammar that is not left recursive is never refused; more attempts change nothing. -/
theorem Grammar.parserWithin_unrefused {g : Grammar} (hg : g.IsStandard defs)
    (hleft : ¬g.IsLeftRecursive defs) {s : Cursor} {limit : Nat}
    (hlimit : g.edgeCount defs * (s.text.size + 1) ≤ limit) :
    (∀ pos, .refused pos ∉ (g.parserWithin defs limit s).events) ∧
      g.parserWithin defs limit s =
        g.parserWithin defs (g.edgeCount defs * (s.text.size + 1)) s := by
  have henough : s.remaining * g.edgeCount defs + openingEdges defs (g.exits ++ defs.exits) g ≤
      g.edgeCount defs * (s.text.size + 1) := by
    have hremaining : s.remaining ≤ s.text.size := Nat.sub_le _ _
    have hmul := Nat.mul_le_mul_right (g.edgeCount defs) hremaining
    have hle := openingEdges_le defs (g.exits ++ defs.exits) g
    rw [Nat.mul_succ, Nat.mul_comm (g.edgeCount defs)]
    exact Nat.add_le_add hmul hle
  have hE : ∀ label target, g.Reaches defs (.edge label target) →
      .edge label target ∈ g.exits ++ defs.exits :=
    fun _ _ hreach => hreach.exits_subset List.mem_cons_self
  have hbound := Grammar.avoids_refusal hg hleft hE henough
  have hsame := Grammar.parserWithin_persists g hlimit s hbound
  constructor
  · intro pos hevent
    rw [hsame] at hevent
    exact hbound _ hevent trivial
  · exact hsame

/-- Before a bracket has been read, nested brackets are not attempted again. -/
theorem brackets_opens {h : Grammar} (hopens : TransGen (Grammar.Opens nestedBrackets) brackets h) :
    h = .oneOf [bracketed brackets, .leaf .digit] ∨ h = bracketed brackets ∨ ∃ l, h = .leaf l := by
  induction hopens with
  | single hstep =>
    cases hstep with
    | edge hresolve =>
      rw [resolve_brackets] at hresolve
      exact .inl (Except.ok.inj hresolve).symm
  | tail _ hstep ih =>
    rcases ih with rfl | rfl | ⟨l, rfl⟩
    · cases hstep with
      | oneOf hg =>
        simp only [List.mem_cons, List.not_mem_nil, or_false] at hg
        rcases hg with rfl | rfl
        · exact .inr (.inl rfl)
        · exact .inr (.inr ⟨_, rfl⟩)
    · cases hstep with
      | @sequence _ before _ _ hparts hempty =>
        cases before with
        | nil =>
          cases hparts
          exact .inr (.inr ⟨_, rfl⟩)
        | cons first before =>
          obtain ⟨hfirst, -⟩ := List.cons.inj hparts
          have hbracket := hempty first List.mem_cons_self
          rw [← hfirst] at hbracket
          cases hbracket with
          | leaf hnullable => simp [Leaf.isNullable] at hnullable
    · cases hstep

/-- Brackets do not open with themselves. -/
theorem brackets_not_leftRecursive : ¬brackets.IsLeftRecursive nestedBrackets := by
  rintro ⟨label, target, hreach, hback⟩
  rcases brackets_reaches hreach with hedge | hedge | hedge | ⟨l, hedge⟩
  · rw [hedge] at hback
    rcases brackets_opens hback with h | h | ⟨l, h⟩ <;> cases h
  all_goals cases hedge

/-- Nested brackets of five characters are never nested more than twelve deep. -/
theorem brackets_settled :
    (∀ pos, .refused pos ∉
      (brackets.parserWithin nestedBrackets 1000 (.ofText "[[7]]")).events) ∧
    brackets.parserWithin nestedBrackets 1000 (.ofText "[[7]]") =
      brackets.parserWithin nestedBrackets 12 (.ofText "[[7]]") := by
  have hcount : brackets.edgeCount nestedBrackets = 2 := by
    simp [Grammar.edgeCount, brackets, nestedBrackets, bracketed, Definitions.exits, Grammar.exits,
      exitsOfParts, exitsOfTarget]
    rfl
  have hsize : (Cursor.ofText "[[7]]").text.size = 5 := by simp [Cursor.ofText]
  have hlimit :
      brackets.edgeCount nestedBrackets * ((Cursor.ofText "[[7]]").text.size + 1) ≤ 1000 := by
    rw [hcount, hsize]
    decide
  have h := Grammar.parserWithin_unrefused brackets_isStandard brackets_not_leftRecursive hlimit
  rw [hcount, hsize] at h
  exact h

end TextGrammar
