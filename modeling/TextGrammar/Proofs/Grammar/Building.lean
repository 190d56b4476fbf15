import TextGrammar.Proofs.Grammar.Choice
import TextGrammar.Proofs.Grammar.Steps

/-!
# Building from parts

Sequences, choices and sums are built when their parts are built and there are neither too few nor
too many of them. Then they are read by the parsers of their parts.
-/

namespace TextGrammar

variable {defs : Definitions} {limit : Nat} {d : Description} {ds : List Description}
  {gs : List Grammar}

/-- A description describes a grammar. -/
def Description.Builds (defs : Definitions) (d : Description) : Prop :=
  ∃ g, d.build defs = .ok g

/-- Descriptions are built one by one. -/
abbrev BuildAll (defs : Definitions) (ds : List Description) (gs : List Grammar) : Prop :=
  List.Forall₂ (fun d g => d.build defs = .ok g) ds gs

/-! ### Reading what has been built -/

/-- Reading by a description is reading by the grammar that it builds. -/
theorem Description.read_eq (d : Description) (s : Cursor) :
    d.read defs limit s = (Run.ofExcept (d.build defs)).bind fun g =>
      g.parserWithin defs limit s := by
  rw [Description.read, build]
  cases d.evaluate defs <;> rfl

/-- A description that builds a grammar is read like this grammar. -/
theorem Description.read_of_build {g : Grammar} (h : d.build defs = .ok g) :
    d.read defs limit = g.parserWithin defs limit := by
  funext s
  rw [d.read_eq, h, Run.ofExcept, Run.pure_bind]

/-- What is not built is a fault, whatever the text. -/
theorem Description.builds_of_answers {s : Cursor}
    (h : ∀ e, (d.read defs limit s).answer ≠ .error e) : d.Builds defs := by
  cases hbuild : d.build defs with
  | ok g => exact ⟨g, hbuild⟩
  | error e =>
    refine absurd ?_ (h e)
    rw [d.read_eq, hbuild]
    rfl

/-- Descriptions each of which builds a grammar build a list of them. -/
theorem exists_buildAll (h : ∀ d ∈ ds, d.Builds defs) : ∃ gs, BuildAll defs ds gs := by
  induction ds with
  | nil => exact ⟨[], .nil⟩
  | cons d ds ih =>
    rw [List.forall_mem_cons] at h
    obtain ⟨⟨g, hg⟩, hlater⟩ := h
    obtain ⟨gs, hgs⟩ := ih hlater
    exact ⟨g :: gs, .cons hg hgs⟩

/-- Grammars that are built are read like their descriptions. -/
theorem BuildAll.map_read (h : BuildAll defs ds gs) (limit : Nat) :
    gs.map (·.parserWithin defs limit) = ds.map (·.read defs limit) := by
  induction h with
  | nil => rfl
  | cons hg _ ih => rw [List.map_cons, List.map_cons, ih, Description.read_of_build hg]

/-! ### Sequences and choices -/

/-- Parts that are built one by one are also evaluated and then resolved. -/
theorem BuildAll.exists_operands (h : BuildAll defs ds gs) :
    ∃ operands, evaluateAll defs ds = .ok operands ∧ operands.length = ds.length ∧
      resolveAll defs operands = .ok gs := by
  induction h with
  | nil => exact ⟨[], by rw [evaluateAll], rfl, rfl⟩
  | @cons d g ds gs hg _ ih =>
    obtain ⟨operands, hevaluate, hlength, hresolve⟩ := ih
    rw [Description.build] at hg
    split at hg
    · cases hg
    · next operand hoperand =>
      refine ⟨operand :: operands, ?_, congrArg (· + 1) hlength, ?_⟩
      · rw [evaluateAll, hoperand, hevaluate]
      · rw [resolveAll, hg, hresolve]

/-- A sequence of parts that are built is built of them, if there are neither too few nor too many.
-/
theorem BuildAll.build_sequence (h : BuildAll defs ds gs) (hmin : minSequenceLength ≤ ds.length)
    (hmax : ds.length ≤ maxSequenceLength) :
    (Description.sequence ds).build defs = .ok (.sequence gs) := by
  obtain ⟨operands, hevaluate, hlength, hresolve⟩ := h.exists_operands
  have hsize : minSequenceLength ≤ operands.length ∧ operands.length ≤ maxSequenceLength := by
    omega
  rw [Description.build, Description.evaluate, hevaluate]
  simp only [sequenceOf, if_pos hsize, hresolve]
  rfl

/-- A choice between parts that are built is built of them, if there are at least two. -/
theorem BuildAll.build_oneOf (h : BuildAll defs ds gs) (hmin : 2 ≤ ds.length) :
    (Description.oneOf ds).build defs = .ok (.oneOf gs) := by
  obtain ⟨operands, hevaluate, hlength, hresolve⟩ := h.exists_operands
  have hsize : ¬operands.length < 2 := by omega
  rw [Description.build, Description.evaluate, hevaluate]
  simp only [oneOfOf, if_neg hsize, hresolve]
  rfl

/-- A sequence is built if its parts are and if there are neither too few nor too many. -/
theorem Description.builds_sequence (h : ∀ d ∈ ds, d.Builds defs)
    (hmin : minSequenceLength ≤ ds.length) (hmax : ds.length ≤ maxSequenceLength) :
    (Description.sequence ds).Builds defs := by
  obtain ⟨gs, hgs⟩ := exists_buildAll h
  exact ⟨_, hgs.build_sequence hmin hmax⟩

/-- A choice is built if its parts are and if there are at least two. -/
theorem Description.builds_oneOf (h : ∀ d ∈ ds, d.Builds defs) (hmin : 2 ≤ ds.length) :
    (Description.oneOf ds).Builds defs := by
  obtain ⟨gs, hgs⟩ := exists_buildAll h
  exact ⟨_, hgs.build_oneOf hmin⟩

/-- A sequence is read by its parts, one behind the other. -/
theorem Description.read_sequence (h : ∀ d ∈ ds, d.Builds defs)
    (hmin : minSequenceLength ≤ ds.length) (hmax : ds.length ≤ maxSequenceLength) :
    (Description.sequence ds).read defs limit =
      Parser.map .tuple (Parser.sequence (ds.map (·.read defs limit))) := by
  obtain ⟨gs, hgs⟩ := exists_buildAll h
  rw [Description.read_of_build (hgs.build_sequence hmin hmax), ← hgs.map_read, map_parserWithin,
    Grammar.parserWithin_eq, Grammar.parser]

/-- A choice is read by its alternatives. -/
theorem Description.read_oneOf (h : ∀ d ∈ ds, d.Builds defs) (hmin : 2 ≤ ds.length) :
    (Description.oneOf ds).read defs limit = Parser.oneOf (ds.map (·.read defs limit)) := by
  obtain ⟨gs, hgs⟩ := exists_buildAll h
  rw [Description.read_of_build (hgs.build_oneOf hmin), ← hgs.map_read, map_parserWithin,
    Grammar.parserWithin_eq, Grammar.parser]

/-! ### Sums -/

/-- Variants each of which is built are built together, into the same grammars. -/
theorem exists_evaluateVariants {vs : List (VariantDescription Description)}
    (h : ∀ v ∈ vs, (Description.variant v).Builds defs) :
    ∃ built, evaluateVariants defs vs = .ok built ∧
      BuildAll defs (vs.map .variant) (built.map .variant) := by
  induction vs with
  | nil => exact ⟨[], by rw [evaluateVariants], .nil⟩
  | cons v vs ih =>
    rw [List.forall_mem_cons] at h
    obtain ⟨⟨g, hg⟩, hlater⟩ := h
    obtain ⟨others, hothers, hall⟩ := ih hlater
    have hbuild := hg
    rw [Description.build, Description.evaluate] at hbuild
    cases hv : evaluateVariant defs v with
    | error e =>
      rw [hv] at hbuild
      cases hbuild
    | ok built =>
      rw [hv] at hbuild
      cases hbuild
      refine ⟨built :: others, ?_, .cons hg hall⟩
      rw [evaluateVariants, hv, hothers]

/-- A sum is read by its variants. -/
theorem Description.read_sum {vs : List (VariantDescription Description)} (hsome : vs ≠ [])
    (h : ∀ v ∈ vs, (Description.variant v).Builds defs) (limit : Nat) :
    ∃ names, (Description.sum vs).read defs limit =
      Parser.choice (fun _ pos => .variantsExhausted names pos)
        (vs.map fun v => (Description.variant v).read defs limit) := by
  obtain ⟨built, hevaluate, hall⟩ := exists_evaluateVariants h
  have hbuild : (Description.sum vs).build defs = .ok (.sum built) := by
    rw [Description.build, Description.evaluate, hevaluate]
    cases built with
    | nil =>
      have hlength := hall.length_eq
      simp only [List.length_map, List.length_nil] at hlength
      exact absurd (List.length_eq_zero_iff.mp hlength) hsome
    | cons v vs => rfl
  have hread := hall.map_read limit
  rw [List.map_map, List.map_map] at hread
  refine ⟨built.map (·.name), ?_⟩
  rw [Description.read_of_build hbuild, Grammar.parserWithin_sum]
  exact congrArg _ hread

end TextGrammar
