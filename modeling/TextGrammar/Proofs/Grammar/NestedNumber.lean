import TextGrammar.Callback
import TextGrammar.Proofs.Failure.Furthest
import TextGrammar.Proofs.Grammar.Guarantees
import TextGrammar.Proofs.Grammar.Recognition
import TextGrammar.Proofs.Leaf.Literals

/-!
# Nested brackets

A number in brackets, nested to any depth. The grammar reads a number with as many closing brackets
as opening ones, up to the nesting limit. Where a closing bracket is missing, or where the limit is
exceeded, every level fails, and its second variant fails as well since no level starts with a
digit. Following the furthest failure through all the levels leads to the reason.
-/

namespace TextGrammar

/-- A parser fails with the failure of a choice, and following the furthest failure from there ends
at a failure. -/
def Parser.FailsDeeply {α : Type} (parser : Parser α) (s : Cursor) (f : Failure) : Prop :=
  ∃ failures, parser.FailsWith s (.noneMatched s failures) ∧
    (Failure.noneMatched s failures).deepest = .ok f

namespace NestedNumber

open Text

variable {m : UInt32} {n opened closed limit : Nat} {s t : Cursor} {tail cs : List Char}
  {f g : Failure}

/-! ### Texts -/

/-- A number behind some opening brackets and in front of some closing ones. -/
def write (m : UInt32) (opened closed : Nat) : List Char :=
  List.replicate opened '[' ++ ((writeNat m.toNat).toList ++ List.replicate closed ']')

/-- Without brackets there is nothing but the number. -/
theorem write_zero (m : UInt32) : write m 0 0 = (writeNat m.toNat).toList := List.append_nil _

/-- An opening bracket stands in front of everything else. -/
theorem write_succ (m : UInt32) (opened closed : Nat) :
    write m (opened + 1) closed = '[' :: write m opened closed := rfl

/-- A pair of brackets is around everything else. -/
theorem write_succ_succ (m : UInt32) (opened closed : Nat) :
    write m (opened + 1) (closed + 1) = '[' :: (write m opened closed ++ [']']) := by
  rw [write_succ, write, write, List.replicate_succ', List.append_assoc, List.append_assoc]

/-- Every bracket is one character, and so is every digit. -/
theorem length_write (m : UInt32) (opened closed : Nat) :
    (write m opened closed).length = opened + (writeNat m.toNat).length + closed := by
  simp only [write, List.length_append, List.length_replicate, String.length_toList]
  omega

/-! ### The grammar -/

/-- The edge back to nested brackets. -/
def inner : Grammar := .edge none (.named "Nest")

/-- Anything nested in brackets. -/
def nested : Variant (Except Fault) Grammar where
  name := "Nested"
  product := {
    build := Callback.onlyBuilder.build
    steps := [
      ⟨none, .leaf (.literal "["), none⟩,
      ⟨some "inner", inner, none⟩,
      ⟨none, .leaf (.literal "]"), none⟩]
    skipsBetween := false
    skipsAround := false }

/-- A number of 32 bits. -/
def number : Variant (Except Fault) Grammar where
  name := "Number"
  product := {
    build := Callback.onlyBuilder.build
    steps := [⟨some "value", .leaf (.unsigned (some 32)), none⟩]
    skipsBetween := false
    skipsAround := false }

/-- The grammar of nested brackets. -/
def grammar : Grammar := .sum [nested, number]

/-- The declaration of nested brackets. -/
def declarations : List Declaration := [
  ⟨"Nest", none, .grammar (.sum [
    ⟨some "Nested", ⟨Callback.onlyBuilder, [.bare (.value (.text "[")),
      .capture "inner" (.edge none (.named "Nest")) none, .bare (.value (.text "]"))],
      false, false⟩⟩,
    ⟨some "Number", ⟨Callback.onlyBuilder, [.capture "value" (.leaf (.unsigned (some 32))) none],
      false, false⟩⟩])⟩]

/-- What the declaration defines. -/
def definitions : Definitions := ⟨[⟨"Nest", none, some grammar⟩]⟩

/-- The declarations of the example are well formed. -/
theorem ofDeclarations_declarations :
    Definitions.ofDeclarations declarations = .ok definitions := rfl

/-- The class of the example stands for its grammar. -/
theorem resolve_nest : (Operand.named "Nest").resolve definitions = .ok grammar := rfl

/-- What is in the brackets is the whole grammar again. -/
theorem resolve_inner : (Target.named "Nest").resolve definitions = .ok grammar := rfl

/-! ### Reading back -/

section Variants

variable {edge : Option String → Target Description → Parser Value}

/-- A number is recognized from its digits, in front of what is no digit. -/
theorem recognizes_number (m : UInt32) :
    (Parser.variant (variantParser edge number)).Recognizes (write m 0 0) (.int m.toNat)
      fun tail => leadingDigits tail = [] := by
  have hfits : Parser.fitsUnsigned (some 32) (readDigits (writeNat m.toNat).toList) = true := by
    rw [readDigits_writeNat]
    simpa [Parser.fitsUnsigned] using m.toNat_lt
  have hdigits := Leaf.recognizes_unsigned (isDigits_writeNat m.toNat) hfits
  rw [readDigits_writeNat] at hdigits
  have hfields : (Parser.laterFields false (stepParsers edge number.product.steps)).Recognizes
      ((writeNat m.toNat).toList ++ []) [("value", .int m.toNat)]
      fun tail => leadingDigits tail = [] :=
    recognizes_steps (some "value") hdigits recognizes_no_steps fun _ htail => htail
  exact recognizes_variant rfl rfl hfields rfl

/-- No number begins with a bracket. -/
theorem failsWith_number (h : s.rest = '[' :: cs) :
    (Parser.variant (variantParser edge number)).FailsWith s
      (.noNumber s (s.unexpected "a digit")) := by
  have hnone : leadingDigits s.rest = [] := by
    rw [h]
    rfl
  have hleaf : (Leaf.unsigned (some 32)).parser.FailsWith s
      (.noNumber s (s.unexpected "a digit")) :=
    congrArg Run.answer (Parser.map_of_failed _ (Parser.unsigned_of_nil _ hnone))
  refine failsWith_variant rfl rfl (failsWith_steps ?_ _)
  exact hleaf

/-- Brackets around something are recognized if it is recognized. -/
theorem recognizes_nested {value : Value} {before : List Char → Prop}
    (h : (edge none (.named "Nest")).Recognizes cs value fun tail => leadingDigits tail = []) :
    (Parser.variant (variantParser edge nested)).Recognizes ('[' :: (cs ++ [']'])) value
      before := by
  have hfields : (Parser.laterFields false (stepParsers edge nested.product.steps)).Recognizes
      ("[".toList ++ (cs ++ ("]".toList ++ []))) [("inner", value)] before := by
    refine recognizes_steps none (Leaf.recognizes_literal _) ?_ fun _ _ => trivial
    refine recognizes_steps (some "inner") h ?_ fun _ _ => rfl
    exact recognizes_steps none (Leaf.recognizes_literal _) recognizes_no_steps fun _ _ => trivial
  exact recognizes_variant rfl rfl hfields rfl

/-- An opening bracket is taken where it stands. -/
theorem takes_bracket (h : s.rest = '[' :: cs) :
    (Leaf.literal "[").parser.Takes s (.text "[") (s.skip 1) :=
  Leaf.recognizes_literal "[" s cs h trivial

/-- Behind an opening bracket the brackets fail like what is in them. -/
theorem failsWith_nested (h : s.rest = '[' :: cs)
    (hinner : (edge none (.named "Nest")).FailsWith (s.skip 1) f) :
    (Parser.variant (variantParser edge nested)).FailsWith s f := by
  apply failsWith_variant rfl rfl
  refine failsWith_steps_cons none (takes_bracket h) ?_
  refine failsWith_steps ?_ _
  exact hinner

/-- Behind what is in them they fail if no closing bracket follows. -/
theorem failsWith_nested_of_takes {value : Value} (h : s.rest = '[' :: cs)
    (hinner : (edge none (.named "Nest")).Takes (s.skip 1) value t) (hclosing : ¬[']'] <+: t.rest) :
    (Parser.variant (variantParser edge nested)).FailsWith s (t.unexpected (quoteOne ']')) := by
  have hliteral : (Leaf.literal "]").parser.FailsWith t (t.unexpected (quoteOne ']')) := by
    have htext : "]".toList = [] ++ ']' :: [] := rfl
    have hfailed := Leaf.literal_of_difference htext List.nil_prefix hclosing
    rw [List.length_nil, Cursor.skip_zero] at hfailed
    exact congrArg Run.answer hfailed
  apply failsWith_variant rfl rfl
  refine failsWith_steps_cons none (takes_bracket h) ?_
  refine failsWith_steps_cons (some "inner") hinner ?_
  refine failsWith_steps ?_ _
  exact hliteral

/-- Since the second variant fails at the opening bracket, the first one got furthest. -/
theorem failsDeeply_of_nested (h : s.rest = '[' :: cs)
    (hnested : (Parser.variant (variantParser edge nested)).FailsWith s f) (hpos : s.pos ≤ f.pos)
    (hdeepest : f.deepest = .ok g) : (grammar.parser edge).FailsDeeply s g := by
  refine ⟨_, failsWith_sum (.cons hnested (.cons (failsWith_number h) .nil)), ?_⟩
  rw [Failure.deepest_pair, hdeepest]
  exact hpos

end Variants

/-! ### Levels -/

/-- A number in as many closing brackets as opening ones is read within every limit that the
brackets do not exceed. -/
theorem recognizes_write (m : UInt32) (h : n ≤ limit) :
    (grammar.parserWithin definitions limit).Recognizes (write m n n)
      ((Value.int m.toNat).boxes n) fun tail => leadingDigits tail = [] := by
  induction n generalizing limit with
  | zero =>
    rw [Grammar.parserWithin_eq]
    refine recognizes_sum [nested] [] ?_ (recognizes_number m)
    intro v hv s tail hrest
    obtain rfl := List.mem_singleton.mp hv
    obtain ⟨c, digits, hdigits, hc⟩ := (isDigits_writeNat m.toNat).exists_cons
    have hbracket : (Leaf.literal "[").parser.Fails s := by
      apply Leaf.fails_literal
      rw [hrest, write_zero, hdigits]
      rintro ⟨later, hlater⟩
      cases hlater
      exact absurd hc (by decide)
    exact fails_variant rfl rfl rfl hbracket
  | succ n ih =>
    obtain ⟨inside, rfl⟩ := Nat.exists_eq_add_one_of_ne_zero (Nat.ne_zero_of_lt h)
    have hinner := ih (Nat.le_of_succ_le_succ h)
    rw [Grammar.parserWithin_eq, write_succ_succ]
    refine recognizes_sum [] [number] (by simp) ?_
    exact recognizes_nested (recognizes_edgeWithin resolve_inner hinner none)

/-- What fails deeply inside a bracket fails deeply outside as well, for the same reason. -/
theorem failsDeeply_outside (h : s.rest = '[' :: cs)
    (hinner : (grammar.parserWithin definitions limit).FailsDeeply (s.skip 1) f) :
    (grammar.parserWithin definitions (limit + 1)).FailsDeeply s f := by
  obtain ⟨failures, hfailed, hdeepest⟩ := hinner
  have hedge := failsWith_edgeWithin resolve_inner hfailed none
  rw [Grammar.parserWithin_eq]
  exact failsDeeply_of_nested h (failsWith_nested h hedge) (s.leadsTo_skip 1).pos_le hdeepest

/-- Where closing brackets are missing, the reason is the first one that is. -/
theorem failsDeeply_of_missing (hless : closed < opened) (hlimit : opened ≤ limit)
    (hrest : s.rest = write m opened closed ++ tail) (hdigit : leadingDigits tail = [])
    (hclosing : ¬[']'] <+: tail) :
    (grammar.parserWithin definitions limit).FailsDeeply s
      ((s.skip (write m opened closed).length).unexpected (quoteOne ']')) := by
  -- all levels outside of the first incomplete one fail for its reason
  induction opened generalizing limit s with
  | zero => omega
  | succ opened ih =>
    obtain ⟨inside, rfl⟩ := Nat.exists_eq_add_one_of_ne_zero (Nat.ne_zero_of_lt hlimit)
    have hinside : opened ≤ inside := Nat.le_of_succ_le_succ hlimit
    have hinner : (s.skip 1).rest = write m opened closed ++ tail := Cursor.rest_skip_one hrest
    have hplace : s.skip (write m (opened + 1) closed).length =
        (s.skip 1).skip (write m opened closed).length := by
      rw [Cursor.skip_skip, write_succ, List.length_cons, Nat.add_comm 1]
    rw [hplace]
    rcases Nat.lt_or_eq_of_le (Nat.le_of_lt_succ hless) with hmore | rfl
    · exact failsDeeply_outside hrest (ih hmore hinside hinner)
    · have htakes := recognizes_edgeWithin resolve_inner (recognizes_write m hinside) none _ _
        hinner hdigit
      rw [← Cursor.rest_skip_length hinner] at hclosing
      have hnested := failsWith_nested_of_takes hrest htakes hclosing
      rw [Grammar.parserWithin_eq]
      refine failsDeeply_of_nested hrest hnested ?_ ?_
      · rw [Failure.pos, Cursor.cursor_unexpected]
        exact ((s.leadsTo_skip 1).trans (Cursor.leadsTo_skip _ _)).pos_le
      · exact Failure.deepest_of_not_isChoice (Failure.isSimple_unexpected _ _).not_isChoice

/-- Where there are more opening brackets than the limit allows, the reason is the first one of
them that is too much. -/
theorem failsDeeply_of_tooDeep (hrest : s.rest = List.replicate (limit + 1) '[' ++ cs) :
    (grammar.parserWithin definitions limit).FailsDeeply s (.tooDeep (s.skip (limit + 1))) := by
  rw [List.replicate_succ, List.cons_append] at hrest
  induction limit generalizing s with
  | zero =>
    have hrefused : (edgeWithin definitions 0 none (.named "Nest")).FailsWith (s.skip 1)
        (.tooDeep (s.skip 1)) := rfl
    rw [Grammar.parserWithin_eq]
    exact failsDeeply_of_nested hrest (failsWith_nested hrest hrefused)
      (s.leadsTo_skip 1).pos_le (Failure.deepest_of_not_isChoice not_false)
  | succ limit ih =>
    have hinner := ih (Cursor.rest_skip_one hrest)
    rw [Cursor.skip_skip, Nat.add_comm 1] at hinner
    exact failsDeeply_outside hrest hinner

/-- What reading a number in brackets comes to, for all numbers of brackets and every nesting limit.
Within the limit the number is read if there are as many closing brackets as opening ones, and the
value has a box for each of them. If there are fewer, all levels fail for the first one that is
missing. If the opening brackets exceed the limit, all levels fail for the first one that is too
much, however many closing brackets there are. -/
theorem nested_number_reads (limit : Nat) (hless : closed ≤ opened)
    (htail : ∀ c ∈ tail.head?, isDecimal c = false ∧ c ≠ ']')
    (hrest : s.rest = write m opened closed ++ tail) :
    ∃ defs, Definitions.ofDeclarations declarations = .ok defs ∧
      let nest := read defs limit (.named "Nest")
      let t := s.skip (write m opened closed).length
      t.pos = s.pos + (opened + (writeNat m.toNat).length + closed) ∧ t.rest = tail ∧
      (opened ≤ limit → closed = opened →
        Parser.Takes nest s ((Value.int m.toNat).boxes opened) t) ∧
      (opened ≤ limit → closed < opened →
        ∃ f, Parser.FailsDeeply nest s f ∧ f = t.unexpected (quoteOne ']') ∧
          (f.kindName = "EndOfInput" ↔ tail = [])) ∧
      (limit < opened →
        ∃ f, Parser.FailsDeeply nest s f ∧ f.kindName = "RecursionLimit" ∧
          f.message = some "Nested too deeply." ∧ f.pos = s.pos + (limit + 1)) := by
  have hdigit : leadingDigits tail = [] := by
    cases tail with
    | nil => rfl
    | cons c cs => exact List.takeWhile_cons_of_neg (by simp [(htail c rfl).1])
  have hclosing : ¬[']'] <+: tail := by
    rintro ⟨cs, rfl⟩
    exact (htail ']' rfl).2 rfl
  have hplace : (s.skip (write m opened closed).length).rest = tail :=
    Cursor.rest_skip_length hrest
  refine ⟨_, ofDeclarations_declarations, ?_⟩
  have hread : read definitions limit (.named "Nest") = grammar.parserWithin definitions limit :=
    funext fun s => read_of_built resolve_nest limit s
  rw [hread]
  refine ⟨?_, hplace, ?_, ?_, ?_⟩
  · rw [← length_write]
    exact Cursor.pos_skip_of_prefix ⟨tail, hrest.symm⟩
  · rintro hlimit rfl
    exact recognizes_write m hlimit s tail hrest hdigit
  · intro hlimit hmissing
    refine ⟨_, failsDeeply_of_missing hmissing hlimit hrest hdigit hclosing, rfl, ?_⟩
    cases tail with
    | nil => simp [Cursor.unexpected_of_nil hplace, Failure.kindName]
    | cons c cs => simp [Cursor.unexpected_of_cons hplace, Failure.kindName]
  · intro hlimit
    obtain ⟨more, rfl⟩ := Nat.exists_eq_add_of_le (Nat.succ_le_of_lt hlimit)
    rw [write, List.append_assoc, ← List.replicate_append_replicate, List.append_assoc] at hrest
    refine ⟨_, failsDeeply_of_tooDeep hrest, rfl, rfl, ?_⟩
    have hlength := Cursor.pos_skip_of_prefix ⟨_, hrest.symm⟩
    rwa [List.length_replicate] at hlength

/-- Two brackets around a seven are read within two nested attempts. If one is not closed, the
failure leads to the place where the text goes on without it; within one attempt it leads to the
second opening bracket. -/
theorem seven_in_brackets_reads :
    (∃ defs, Definitions.ofDeclarations declarations = .ok defs ∧
      Parser.Takes (read defs 2 (.named "Nest")) (.ofText "[[7]]x") ((Value.int 7).boxes 2)
        ((Cursor.ofText "[[7]]x").skip 5)) ∧
    (∃ defs, Definitions.ofDeclarations declarations = .ok defs ∧
      Parser.FailsDeeply (read defs 2 (.named "Nest")) (.ofText "[[7]x")
        (((Cursor.ofText "[[7]x").skip 4).unexpected (quoteOne ']'))) ∧
    ∃ defs, Definitions.ofDeclarations declarations = .ok defs ∧
      ∃ f, Parser.FailsDeeply (read defs 1 (.named "Nest")) (.ofText "[[7]x") f ∧
        f.kindName = "RecursionLimit" ∧ f.pos = 2 := by
  have hclosed : (Cursor.ofText "[[7]]x").rest = write 7 2 2 ++ ['x'] := by decide
  have hmissing : (Cursor.ofText "[[7]x").rest = write 7 2 1 ++ ['x'] := by decide
  have htail : ∀ c ∈ ['x'].head?, isDecimal c = false ∧ c ≠ ']' := by simp; decide
  refine ⟨?_, ?_, ?_⟩
  · obtain ⟨defs, hdefs, -, -, hread, -⟩ :=
      nested_number_reads 2 (Nat.le_refl 2) htail hclosed
    exact ⟨defs, hdefs, hread (Nat.le_refl 2) rfl⟩
  · obtain ⟨defs, hdefs, -, -, -, hfails, -⟩ :=
      nested_number_reads 2 (Nat.le_succ 1) htail hmissing
    obtain ⟨f, hfailed, rfl, -⟩ := hfails (Nat.le_refl 2) (Nat.lt_succ_self 1)
    exact ⟨defs, hdefs, hfailed⟩
  · obtain ⟨defs, hdefs, -, -, -, -, hfails⟩ :=
      nested_number_reads 1 (Nat.le_succ 1) htail hmissing
    obtain ⟨f, hfailed, hkind, -, hpos⟩ := hfails (Nat.lt_succ_self 1)
    exact ⟨defs, hdefs, f, hfailed, hkind, hpos⟩

end NestedNumber

end TextGrammar
