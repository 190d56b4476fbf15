import TextGrammar.Grammar.Description
import TextGrammar.Proofs.Leaf.Numbers

/-!
# What leaves read

The reading of every leaf. The parser of a leaf does what its reading says, so it keeps the
contract of parsers; only a few leaves may match nothing.
-/

namespace TextGrammar

/-- What a leaf reads. -/
def Leaf.reading : Leaf → Reading Value
  | .blank => .map .ofChar (.ofClass Text.isBlank)
  | .alphanumeric => .map .ofChar (.ofClass Text.isAlphanumeric)
  | .anyChar => .map .ofChar (.ofClass fun _ => true)
  | .finish => .map (fun _ => .null) .finish
  | .nothing => .map (fun _ => .null) .nothing
  | .blanks => .map .text .blanks
  | .someBlanks => .map .text .someBlanks
  | .digit => .map (fun n : Nat => .int n) (.map Text.digitValue (.ofClass Text.isDecimal))
  | .sign => .map .int (.map (fun c => if c = '-' then -1 else 1) (.ofClass Parser.signs.contains))
  | .float => .map .float .float
  | .literal text => .map .text (.literal text)
  | .unsigned width => .map (fun n : Nat => .int n) (.unsigned width)
  | .signed width => .map .int (.signed width)

/-- Whether a leaf may match nothing. Only a literal without characters does; none is ever built. -/
def Leaf.isNullable : Leaf → Bool
  | .finish | .nothing | .blanks => true
  | .literal text => text.isEmpty
  | _ => false

/-- The parser of a leaf does what the leaf reads. -/
theorem Leaf.parser_reads (l : Leaf) : l.parser.Reads l.reading := by
  cases l with
  | blank => exact Parser.reads_map (Parser.reads_charOf _ _) _
  | alphanumeric => exact Parser.reads_map (Parser.reads_charOf _ _) _
  | anyChar => exact Parser.reads_map (Parser.reads_charOf _ _) _
  | finish => exact Parser.reads_map Parser.reads_finish fun _ => Value.null
  | nothing => exact Parser.reads_map Parser.reads_nothing fun _ => Value.null
  | blanks => exact Parser.reads_map Parser.reads_blanks _
  | someBlanks => exact Parser.reads_map Parser.reads_someBlanks _
  | digit =>
    exact Parser.reads_map (Parser.reads_map (Parser.reads_charOf _ _) _) fun n : Nat => Value.int n
  | sign => exact Parser.reads_map (Parser.reads_map (Parser.reads_charOf _ _) _) _
  | float => exact Parser.reads_map Parser.reads_float _
  | literal text => exact Parser.reads_map (Parser.reads_literal text) _
  | unsigned width =>
    exact Parser.reads_map (Parser.reads_unsigned width) fun n : Nat => Value.int n
  | signed width => exact Parser.reads_map (Parser.reads_signed width) _

/-- A leaf that is not nullable reads at least one character. -/
theorem Leaf.reading_consumes {l : Leaf} (h : l.isNullable = false) : l.reading.Consumes := by
  cases l with
  | blank | alphanumeric | anyChar => exact (Reading.consumes_ofClass _).map _
  | digit => exact ((Reading.consumes_ofClass _).map _).map fun n : Nat => Value.int n
  | sign => exact ((Reading.consumes_ofClass _).map _).map _
  | finish | nothing | blanks => cases h
  | someBlanks => exact Reading.consumes_someBlanks.map _
  | float => exact Reading.consumes_float.map _
  | literal text => exact (Reading.consumes_literal h).map _
  | unsigned width => exact (Reading.consumes_unsigned width).map fun n : Nat => Value.int n
  | signed width => exact (Reading.consumes_signed width).map _

/-- A leaf keeps the contract, and may match nothing only if it is nullable. -/
theorem Leaf.parser_advances (l : Leaf) : l.parser.Advances (l.isNullable = true) := by
  refine l.parser_reads.advances fun {cs value} hzero => ?_
  cases hnullable : l.isNullable with
  | true => rfl
  | false => exact absurd (Leaf.reading_consumes hnullable _ _ _ hzero) (Nat.lt_irrefl 0)

end TextGrammar
