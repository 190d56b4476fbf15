import TextGrammar.Proofs.Grammar.Guarantees
import TextGrammar.Proofs.Grammar.Recognition

/-!
# Prefix expressions

Sums and products of constants in prefix form: an operator stands before its two operands,
and there are blanks between them. However an expression is written in this form, the
grammar reads it back, as deep as the nesting limit allows, and leaves what follows.
-/

namespace TextGrammar

open Text

/-! ### Expressions and their texts -/

/-- The operators of prefix expressions. -/
inductive Operator where
  | times
  | plus

namespace Operator

def symbol : Operator → Char
  | times => '*'
  | plus => '+'

/-- The name of the objects for applications of an operator. -/
def name : Operator → String
  | times => "Times"
  | plus => "Plus"

end Operator

/-- Expressions over 32-bit constants. -/
inductive PrefixExpression where
  | apply (op : Operator) (left right : PrefixExpression)
  | constant (n : UInt32)

namespace PrefixExpression

/-- The value that an expression is read as; operands are in boxes. -/
def value : PrefixExpression → Value
  | apply op left right => .object op.name [("left", .box left.value), ("right", .box right.value)]
  | constant n => .object "Constant" [("value", .int n.toNat)]

/-- How many operators are around the deepest constant. -/
def height : PrefixExpression → Nat
  | apply _ left right => max left.height right.height + 1
  | constant _ => 0

/-- The texts of an expression in prefix form. Between the parts there are one or more blanks, and
constants are in decimal. -/
inductive Renders : PrefixExpression → List Char → Prop
  | apply {op : Operator} {left right : PrefixExpression} {gap gap' ls rs : List Char}
      (hgap : IsGap gap) (hgap' : IsGap gap') (hleft : Renders left ls)
      (hright : Renders right rs) :
      Renders (apply op left right) (op.symbol :: (gap ++ (ls ++ (gap' ++ rs))))
  | constant {n : UInt32} {digits : List Char} (hdigits : IsDigits digits)
      (hn : readDigits digits = n.toNat) : Renders (constant n) digits

/-- An expression in prefix form, with single spaces and without leading zeros. -/
def write : PrefixExpression → List Char
  | apply op left right => op.symbol :: ' ' :: (left.write ++ ' ' :: right.write)
  | constant n => (writeNat n.toNat).toList

/-- An expression is rendered by the text that it is written as. -/
theorem renders_write (e : PrefixExpression) : e.Renders e.write := by
  have hspace : IsGap [' '] := ⟨List.cons_ne_nil _ _, List.forall_mem_singleton.mpr (by decide)⟩
  induction e with
  | apply op left right ihleft ihright => exact .apply hspace hspace ihleft ihright
  | constant n => exact .constant (isDigits_writeNat _) (readDigits_writeNat _)

/-- No text of an expression starts with a blank. -/
theorem Renders.takeWhile_isBlank {e : PrefixExpression} {cs : List Char} (h : e.Renders cs)
    (tail : List Char) : (cs ++ tail).takeWhile isBlank = [] := by
  have hfirst : ∃ c cs', cs = c :: cs' ∧ isBlank c = false := by
    cases h with
    | @apply op =>
      refine ⟨_, _, rfl, ?_⟩
      cases op <;> decide
    | constant hdigits =>
      obtain ⟨c, cs', rfl, hc⟩ := hdigits.exists_cons
      exact ⟨c, cs', rfl, isBlank_eq_false hc⟩
  obtain ⟨c, cs', rfl, hc⟩ := hfirst
  rw [List.cons_append, List.takeWhile_cons_of_neg (Bool.eq_false_iff.mp hc)]

/-! ### The grammar -/

/-- The edge back to expressions. -/
def operand : Grammar := .edge none (.named "Expression")

/-- An operator in front of its operands, with blanks between them. -/
def application (op : Operator) : Variant (Except Fault) Grammar where
  name := op.name
  product := {
    build := (objectBuilder op.name).build
    steps := [
      ⟨none, .leaf (.literal (String.singleton op.symbol)), none⟩,
      ⟨none, .leaf .someBlanks, none⟩,
      ⟨some "left", operand, none⟩,
      ⟨none, .leaf .someBlanks, none⟩,
      ⟨some "right", operand, none⟩]
    skipsBetween := false
    skipsAround := false }

/-- A constant of 32 bits. -/
def numeral : Variant (Except Fault) Grammar where
  name := "Constant"
  product := {
    build := (objectBuilder "Constant").build
    steps := [⟨some "value", .leaf (.unsigned (some 32)), none⟩]
    skipsBetween := false
    skipsAround := false }

/-- The grammar of expressions. -/
def grammar : Grammar := .sum [application .times, application .plus, numeral]

/-- How an application is written down. -/
def applicationDescription (op : Operator) : VariantDescription Description where
  name := none
  product := {
    builder := objectBuilder op.name
    steps := [
      .bare (.value (.text (String.singleton op.symbol))),
      .bare (.leaf .someBlanks),
      .capture "left" (.edge none (.named "Expression")) none,
      .bare (.leaf .someBlanks),
      .capture "right" (.edge none (.named "Expression")) none]
    skipsBetween := false
    skipsAround := false }

/-- How a constant is written down. -/
def numeralDescription : VariantDescription Description where
  name := none
  product := {
    builder := objectBuilder "Constant"
    steps := [.capture "value" (.leaf (.unsigned (some 32))) none]
    skipsBetween := false
    skipsAround := false }

/-- The declarations of expressions and of what extends them. -/
def declarations : List Declaration := [
  ⟨"Times", some "Expression", .undefined⟩,
  ⟨"Plus", some "Expression", .undefined⟩,
  ⟨"Constant", some "Expression", .undefined⟩,
  ⟨"Expression", none, .grammar (.sum [applicationDescription .times,
    applicationDescription .plus, numeralDescription])⟩]

/-- What the declarations define. -/
def definitions : Definitions := ⟨[
  ⟨"Times", some "Expression", none⟩,
  ⟨"Plus", some "Expression", none⟩,
  ⟨"Constant", some "Expression", none⟩,
  ⟨"Expression", none, some grammar⟩]⟩

/-- The declarations of expressions are well formed. -/
theorem ofDeclarations_declarations :
    Definitions.ofDeclarations declarations = .ok definitions := rfl

/-- The class of expressions stands for its grammar. -/
theorem resolve_expression :
    (Operand.named "Expression").resolve definitions = .ok grammar := rfl

/-- An operand is an expression again. -/
theorem resolve_operand :
    (Target.named "Expression").resolve definitions = .ok grammar := rfl

/-! ### Reading back -/

section Variants

variable {edge : Option String → Target Description → Parser Value} {op : Operator}

/-- An application is recognized if its operands are. -/
theorem recognizes_application {gap gap' ls rs : List Char} {left right : Value} (hgap : IsGap gap)
    (hgap' : IsGap gap') (hls : ∀ tail, (ls ++ tail).takeWhile isBlank = [])
    (hrs : ∀ tail, (rs ++ tail).takeWhile isBlank = [])
    (hleft : (edge none (.named "Expression")).Recognizes ls left fun tail =>
      leadingDigits tail = [])
    (hright : (edge none (.named "Expression")).Recognizes rs right fun tail =>
      leadingDigits tail = []) :
    (Parser.variant (variantParser edge (application op))).Recognizes
      (op.symbol :: (gap ++ (ls ++ (gap' ++ rs))))
      (.object op.name [("left", left), ("right", right)]) fun tail => leadingDigits tail = [] := by
  have hfields : (Parser.laterFields false
      (stepParsers edge (application op).product.steps)).Recognizes
      ((String.singleton op.symbol).toList ++ (gap ++ (ls ++ (gap' ++ (rs ++ [])))))
      [("left", left), ("right", right)] fun tail => leadingDigits tail = [] := by
    -- each goal that is left says that a part is followed by what ends the part before it
    refine recognizes_steps none (Leaf.recognizes_literal _) ?_ fun _ _ => trivial
    refine recognizes_steps none (Leaf.recognizes_someBlanks hgap) ?_ ?_
    · refine recognizes_steps (some "left") hleft ?_ ?_
      · refine recognizes_steps none (Leaf.recognizes_someBlanks hgap') ?_ ?_
        · exact recognizes_steps (some "right") hright recognizes_no_steps fun _ htail => htail
        · intro tail _
          rw [List.append_assoc]
          exact hrs _
      · intro tail _
        rw [List.append_assoc]
        exact hgap'.leadingDigits_append _
    · intro tail _
      rw [List.append_assoc]
      exact hls _
  rw [String.toList_singleton, List.append_nil, List.singleton_append] at hfields
  exact recognizes_variant rfl rfl hfields rfl

/-- An application fails on a text that starts with something else than its operator. -/
theorem fails_application {s : Cursor} {c : Char} {cs : List Char} (h : s.rest = c :: cs)
    (hc : c ≠ op.symbol) : (Parser.variant (variantParser edge (application op))).Fails s := by
  have hoperator : (Leaf.literal (String.singleton op.symbol)).parser.Fails s := by
    apply Leaf.fails_literal
    rw [h, String.toList_singleton, List.cons_prefix_cons]
    exact fun hprefix => hc hprefix.1.symm
  exact fails_variant rfl rfl rfl hoperator

/-- A constant is recognized by its digits. -/
theorem recognizes_numeral {n : UInt32} {digits : List Char} (hdigits : IsDigits digits)
    (hn : readDigits digits = n.toNat) :
    (Parser.variant (variantParser edge numeral)).Recognizes digits
      (.object "Constant" [("value", .int n.toNat)]) fun tail => leadingDigits tail = [] := by
  have hfits : Parser.fitsUnsigned (some 32) (readDigits digits) = true := by
    rw [hn]
    simpa [Parser.fitsUnsigned] using n.toNat_lt
  have hfields : (Parser.laterFields false (stepParsers edge numeral.product.steps)).Recognizes
      (digits ++ []) [("value", .int (readDigits digits))] fun tail => leadingDigits tail = [] :=
    recognizes_steps (some "value") (Leaf.recognizes_unsigned hdigits hfits) recognizes_no_steps
      fun _ htail => htail
  rw [List.append_nil, hn] at hfields
  exact recognizes_variant rfl rfl hfields rfl

/-- An expression that is an application is recognized as one. -/
theorem recognizes_grammar_apply {cs : List Char} {value : Value} {before : List Char → Prop}
    (h : (Parser.variant (variantParser edge (application op))).Recognizes (op.symbol :: cs) value
      before) : (grammar.parser edge).Recognizes (op.symbol :: cs) value before := by
  cases op with
  | times => exact recognizes_sum [] [application .plus, numeral] (by simp) h
  | plus =>
    refine recognizes_sum [application .times] [numeral] ?_ h
    intro v hv s tail hrest
    obtain rfl := List.mem_singleton.mp hv
    exact fails_application hrest (by decide)

/-- An expression that is a constant is recognized as one. -/
theorem recognizes_grammar_constant {digits : List Char} {value : Value}
    {before : List Char → Prop} (hdigits : IsDigits digits)
    (h : (Parser.variant (variantParser edge numeral)).Recognizes digits value before) :
    (grammar.parser edge).Recognizes digits value before := by
  refine recognizes_sum [application .times, application .plus] [] ?_ h
  intro v hv s tail hrest
  obtain ⟨c, cs, rfl, hc⟩ := hdigits.exists_cons
  have hsymbol : ∀ op : Operator, c ≠ op.symbol := by
    rintro op rfl
    cases op <;> revert hc <;> decide
  simp only [List.mem_cons, List.not_mem_nil, or_false] at hv
  rcases hv with rfl | rfl
  · exact fails_application hrest (hsymbol _)
  · exact fails_application hrest (hsymbol _)

end Variants

/-- However an expression is written, it is read back within every limit that its height does not
exceed. -/
theorem Renders.recognizes {e : PrefixExpression} {cs : List Char}
    (h : e.Renders cs) {limit : Nat} (hheight : e.height ≤ limit) :
    (grammar.parserWithin definitions limit).Recognizes cs e.value fun tail =>
      leadingDigits tail = [] := by
  -- the operands are read within a smaller limit and in front of other texts
  induction h generalizing limit with
  | @apply op left right gap gap' ls rs hgap hgap' hleft hright ihleft ihright =>
    obtain ⟨inner, rfl⟩ := Nat.exists_eq_add_one_of_ne_zero (Nat.ne_zero_of_lt hheight)
    have hless := Nat.le_of_succ_le_succ hheight
    have hl := ihleft (Nat.le_trans (Nat.le_max_left _ _) hless)
    have hr := ihright (Nat.le_trans (Nat.le_max_right _ _) hless)
    rw [Grammar.parserWithin_eq]
    apply recognizes_grammar_apply
    exact recognizes_application hgap hgap' hleft.takeWhile_isBlank hright.takeWhile_isBlank
      (recognizes_edgeWithin resolve_operand hl none)
      (recognizes_edgeWithin resolve_operand hr none)
  | constant hdigits hn =>
    rw [Grammar.parserWithin_eq]
    exact recognizes_grammar_constant hdigits (recognizes_numeral hdigits hn)

/-- A prefix expression round-trips. However it is written down, the whole text is read as exactly
the expression, and in front of a text that does not go on with a digit it is read as well and that
text is left. -/
theorem read_rendering {e : PrefixExpression} {cs : List Char} {limit : Nat}
    (hrenders : e.Renders cs) (hheight : e.height ≤ limit) :
    ∃ defs, Definitions.ofDeclarations declarations = .ok defs ∧
      (∀ s : Cursor, s.rest = cs →
        (readOrReport defs limit (.named "Expression") true s).answer = .ok (.ok e.value)) ∧
      ∀ (s : Cursor) (tail : List Char), s.rest = cs ++ tail → leadingDigits tail = [] →
        ∃ m, (read defs limit (.named "Expression") s).answer = .ok (.matched m) ∧
          m.value = e.value ∧ m.rest = s.skip cs.length ∧ m.rest.rest = tail := by
  have hrecognizes := hrenders.recognizes hheight
  refine ⟨_, ofDeclarations_declarations, ?_, ?_⟩
  · intro s hrest
    have htakes := hrecognizes s [] (hrest.trans (List.append_nil cs).symm) rfl
    have hend : (s.skip cs.length).rest = [] := by rw [Cursor.rest_skip, hrest, List.drop_length]
    rw [readOrReport, resolve_expression, Run.ofExcept, Run.pure_bind]
    exact htakes.orReport hend true
  · intro s tail hrest htail
    obtain ⟨m, hanswer, hvalue, hm⟩ := hrecognizes s tail hrest htail
    refine ⟨m, ?_, hvalue, hm, ?_⟩
    · rw [read_of_built resolve_expression]
      exact hanswer
    · rw [hm]
      exact Cursor.rest_skip_length hrest

/-- Three times the sum of one and two. -/
def threeTimesSum : PrefixExpression :=
  apply .times (apply .plus (constant 1) (constant 2)) (constant 3)

/-- The expression is read from its text, also if something follows that is no digit. -/
theorem threeTimesSum_read :
    threeTimesSum.Renders "* + 1 2 3".toList ∧ threeTimesSum.height ≤ 2 ∧
      ∃ defs, Definitions.ofDeclarations declarations = .ok defs ∧
        (readOrReport defs 2 (.named "Expression") true (.ofText "* + 1 2 3")).answer =
          .ok (.ok threeTimesSum.value) ∧
        ∃ m, (read defs 2 (.named "Expression") (.ofText "* + 1 2 3)")).answer =
            .ok (.matched m) ∧
          m.value = threeTimesSum.value ∧ m.rest.rest = [')'] := by
  have hrenders : threeTimesSum.Renders "* + 1 2 3".toList := threeTimesSum.renders_write
  have hheight : threeTimesSum.height ≤ 2 := by decide
  obtain ⟨defs, hdefs, hwhole, hprefix⟩ := read_rendering hrenders hheight
  obtain ⟨m, hanswer, hvalue, -, hrest⟩ := hprefix (.ofText "* + 1 2 3)") [')'] rfl rfl
  have hread := hwhole (.ofText "* + 1 2 3") rfl
  exact ⟨hrenders, hheight, defs, hdefs, hread, m, hanswer, hvalue, hrest⟩

end PrefixExpression

end TextGrammar
