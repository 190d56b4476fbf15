import TextGrammar.Proofs.Grammar.Iteration
import TextGrammar.Proofs.Grammar.Recognition
import TextGrammar.Proofs.Leaf.Integers
import TextGrammar.Proofs.Parser.Concatenation

/-!
# Lists that are written one item behind the other

If a grammar reads back each item from its text, whatever follows, a repetition of the grammar reads
back a list of items from their texts one behind the other. So do values that are read one by one.
Integers in brackets are such items.
-/

namespace TextGrammar

open Text

/-- Some values are what is read in order from a cursor to another one, by a repetition as well as
one by one. A repetition that must have a match reads them if there are any. -/
structure ReadsInOrder (defs : Definitions) (limit : Nat) (operand : Operand) (g : Grammar)
    (s : Cursor) (values : List Value) (t : Cursor) : Prop where
  many : (read defs limit (.grammar (.many g)) s).answer =
    .ok (.matched (s.matchTo (.list values) t))
  many1 : values ≠ [] → (read defs limit (.grammar (.many1 g)) s).answer =
    .ok (.matched (s.matchTo (.list values) t))
  values_eq : (iterate defs limit operand s).toList.1 = values
  ends : (iterate defs limit operand s).toList.2.answer = .ok ()

section Items

variable {ι : Type} {print : ι → List Char} {value : ι → Value} {items : List ι}
  {defs : Definitions} {limit : Nat} {operand : Operand} {g : Grammar} {s : Cursor}
  {tail : List Char}

/-- What a grammar reads back item by item, it reads back in order. -/
theorem Parser.ReadsEach.readsInOrder (hbuilt : operand.resolve defs = .ok g)
    (h : (g.parserWithin defs limit).ReadsEach print value items)
    (hrest : s.rest = items.flatMap print ++ tail)
    (hends : (g.parserWithin defs limit).EndsAt (s.skip (items.flatMap print).length)) :
    ReadsInOrder defs limit operand g s (items.map value)
      (s.skip (items.flatMap print).length) where
  many := by
    rw [read_grammar, Grammar.parserWithin_many]
    exact Parser.map_answer_of_matched Value.list (h.many hrest hends)
  many1 hsome := by
    have hitems : items ≠ [] := fun hnil => hsome (hnil ▸ List.map_nil)
    rw [read_grammar, Grammar.parserWithin_many1]
    exact Parser.map_answer_of_matched Value.list (h.many1 hitems hrest hends)
  values_eq := by
    obtain ⟨ms, hrepeats, hvalues⟩ := h.exists_repeats hrest hends.stopsAt
    rw [iterate_toList hbuilt hrepeats, hvalues]
  ends := by
    obtain ⟨ms, hrepeats, -⟩ := h.exists_repeats hrest hends.stopsAt
    obtain ⟨outcome, hlast, -⟩ := hends
    rw [iterate_toList hbuilt hrepeats, hlast]
    rfl

end Items

/-! ### Integers in brackets -/

namespace Encased

/-- How an integer in brackets is written. -/
def write (n : Int32) : List Char := '[' :: ((writeInt n.toInt).toList ++ [']'])

/-- The object that is read from an integer in brackets. -/
def value (n : Int32) : Value := .object "Encased" [("value", .int n.toInt)]

/-- An integer of 32 bits in brackets. -/
def grammar : Grammar := .product {
  build := (objectBuilder "Encased").build
  steps := [
    ⟨none, .leaf (.literal "["), none⟩,
    ⟨some "value", .leaf (.signed (some 32)), none⟩,
    ⟨none, .leaf (.literal "]"), none⟩]
  skipsBetween := false
  skipsAround := false }

/-- The declaration of integers in brackets. -/
def declarations : List Declaration := [
  ⟨"Encased", none, .object [.bare (.value (.text "[")),
    .capture "value" (.leaf (.signed (some 32))) none, .bare (.value (.text "]"))] false false⟩]

/-- What the declaration defines. -/
def definitions : Definitions := ⟨[⟨"Encased", none, some grammar⟩]⟩

/-- The example of nested brackets around integers is well declared. -/
theorem ofDeclarations_declarations :
    Definitions.ofDeclarations declarations = .ok definitions := rfl

/-- The class of the example stands for its grammar. -/
theorem resolve_encased : (Operand.named "Encased").resolve definitions = .ok grammar := rfl

/-- Every integer of thirty-two bits is one of that width. -/
theorem inSignedRange_int32 (n : Int32) : InSignedRange 32 n.toInt := by
  have hlower := n.le_toInt
  have hupper := n.toInt_lt
  rw [inSignedRange_iff]
  exact ⟨by decide, hlower, hupper⟩

/-- An integer in brackets is read back, whatever follows. -/
theorem recognizes_write (limit : Nat) (n : Int32) :
    (grammar.parserWithin definitions limit).Recognizes (write n) (value n) fun _ => True := by
  have hrange : ∀ w ∈ some 32, InSignedRange w n.toInt := by
    rintro w ⟨⟩
    exact inSignedRange_int32 n
  rw [← integerValue_writeInt n.toInt] at hrange
  have hinteger := Leaf.recognizes_integer (isInteger_writeInt n.toInt) hrange
  rw [integerValue_writeInt] at hinteger
  rw [Grammar.parserWithin_eq]
  -- no digit follows the integer, since a bracket does
  have hfields : (Parser.laterFields false (stepParsers (edgeWithin definitions limit) [
      ⟨none, .leaf (.literal "["), none⟩, ⟨some "value", .leaf (.signed (some 32)), none⟩,
      ⟨none, .leaf (.literal "]"), none⟩])).Recognizes
      ("[".toList ++ ((writeInt n.toInt).toList ++ ("]".toList ++ [])))
      [("value", .int n.toInt)] fun _ => True := by
    refine recognizes_steps none (Leaf.recognizes_literal _) ?_ fun _ _ => trivial
    refine recognizes_steps (some "value") hinteger ?_ fun _ _ => rfl
    exact recognizes_steps none (Leaf.recognizes_literal _) recognizes_no_steps fun _ _ => trivial
  exact recognizes_product rfl rfl hfields rfl

/-- Where no bracket opens there is no integer in brackets. -/
theorem fails_grammar {limit : Nat} {s : Cursor} (h : ¬['['] <+: s.rest) :
    (grammar.parserWithin definitions limit).Fails s := by
  have hbracket : (Leaf.literal "[").parser.Fails s := Leaf.fails_literal h
  rw [Grammar.parserWithin_eq]
  exact Parser.fails_product hbracket _

end Encased

/-- Repetition undoes writing one item behind the other. If a grammar reads back every item from a
text of its own, which is not empty, whatever follows, then it reads back all lists of items in
front of what it does not read. Integers in brackets are read back that way, so every list of them
is. -/
theorem concatenation_read :
    (∀ {ι : Type} {print : ι → List Char} {value : ι → Value} {defs : Definitions} {limit : Nat}
      {operand : Operand} {g : Grammar}, operand.resolve defs = .ok g →
      (∀ item, print item ≠ []) →
      (∀ item, (g.parserWithin defs limit).Recognizes (print item) (value item) fun _ => True) →
      ∀ (items : List ι) (s : Cursor) (tail : List Char), s.rest = items.flatMap print ++ tail →
        let t := s.skip (items.flatMap print).length
        (g.parserWithin defs limit).EndsAt t →
          ReadsInOrder defs limit operand g s (items.map value) t ∧ t.rest = tail) ∧
    ∃ defs, Definitions.ofDeclarations Encased.declarations = .ok defs ∧
      ∃ g, (Operand.named "Encased").resolve defs = .ok g ∧
        ∀ limit,
          (∀ n, Encased.write n ≠ [] ∧
            (g.parserWithin defs limit).Recognizes (Encased.write n) (Encased.value n)
              fun _ => True) ∧
          ∀ (ns : List Int32) (s : Cursor) (tail : List Char),
            s.rest = ns.flatMap Encased.write ++ tail → ¬['['] <+: tail →
            let t := s.skip (ns.flatMap Encased.write).length
            ReadsInOrder defs limit (.named "Encased") g s (ns.map Encased.value) t ∧
              t.rest = tail := by
  refine ⟨?_, _, Encased.ofDeclarations_declarations, _, Encased.resolve_encased, fun limit => ?_⟩
  · intro ι print value defs limit operand g hbuilt hsome hrecognizes items s tail hrest t hends
    have heach : (g.parserWithin defs limit).ReadsEach print value items :=
      fun item _ => ⟨hsome item, hrecognizes item⟩
    exact ⟨heach.readsInOrder hbuilt hrest hends, Cursor.rest_skip_length hrest⟩
  · refine ⟨fun n => ⟨List.cons_ne_nil _ _, Encased.recognizes_write limit n⟩, ?_⟩
    intro ns s tail hrest htail t
    have heach : (Encased.grammar.parserWithin Encased.definitions limit).ReadsEach
        Encased.write Encased.value ns :=
      fun n _ => ⟨List.cons_ne_nil _ _, Encased.recognizes_write limit n⟩
    have hbehind : t.rest = tail := Cursor.rest_skip_length hrest
    have hfails : (Encased.grammar.parserWithin Encased.definitions limit).Fails t :=
      Encased.fails_grammar (hbehind.symm ▸ htail)
    exact ⟨heach.readsInOrder Encased.resolve_encased hrest (.of_fails hfails), hbehind⟩

/-- Three integers in brackets are read in order, and the mark behind them is left. -/
theorem three_encased_read :
    (∀ n, Encased.write n ≠ []) ∧
      (∀ n, (Encased.grammar.parserWithin Encased.definitions 1).Recognizes (Encased.write n)
        (Encased.value n) fun _ => True) ∧
      let s := Cursor.ofText "[3][-4][5]!"
      (Encased.grammar.parserWithin Encased.definitions 1).EndsAt (s.skip 10) ∧
        ReadsInOrder Encased.definitions 1 (.named "Encased") Encased.grammar s
          ([3, -4, 5].map Encased.value) (s.skip 10) ∧
        (s.skip 10).rest = ['!'] := by
  have hsome : ∀ n, Encased.write n ≠ [] := fun n => List.cons_ne_nil _ _
  have hrecognizes := Encased.recognizes_write 1
  have hrest : (Cursor.ofText "[3][-4][5]!").rest =
      [3, -4, 5].flatMap Encased.write ++ ['!'] := by cbv
  have hends : (Encased.grammar.parserWithin Encased.definitions 1).EndsAt
      ((Cursor.ofText "[3][-4][5]!").skip 10) :=
    .of_fails (Encased.fails_grammar (by decide))
  have hread := concatenation_read.1 Encased.resolve_encased hsome hrecognizes [3, -4, 5] _ ['!']
    hrest hends
  exact ⟨hsome, hrecognizes, hends, hread⟩

end TextGrammar
