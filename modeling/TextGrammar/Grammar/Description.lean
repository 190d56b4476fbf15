import TextGrammar.Parser.Number
import TextGrammar.Parser.Product

/-!
# Descriptions of grammars

A description is a grammar as its author writes it down, before anything has been checked. The
parts of a description can be texts, names of definitions and other values in the place of a
grammar; building the grammar resolves the ones and refuses the others. Leaves are the grammars
without parts: each of them reads characters or numbers and gives a value.
-/

namespace TextGrammar

/-- A grammar without parts. -/
inductive Leaf where
  | blank
  | alphanumeric
  | anyChar
  | finish
  | nothing
  | blanks
  | someBlanks
  | digit
  | sign
  | float
  | literal (text : String)
  | unsigned (width : Option Int)
  | signed (width : Option Int)
  deriving DecidableEq

/-- The value of a character. -/
def Value.ofChar (c : Char) : Value := .text (String.singleton c)

/-- The parser of a leaf. -/
def Leaf.parser : Leaf → Parser Value
  | .blank => Parser.map .ofChar Parser.blank
  | .alphanumeric => Parser.map .ofChar Parser.alphanumeric
  | .anyChar => Parser.map .ofChar Parser.anyChar
  | .finish => Parser.map (fun _ => .null) Parser.finish
  | .nothing => Parser.map (fun _ => .null) Parser.nothing
  | .blanks => Parser.map .text Parser.blanks
  | .someBlanks => Parser.map .text Parser.someBlanks
  | .digit => Parser.map (fun n : Nat => .int n) Parser.digit
  | .sign => Parser.map .int Parser.sign
  | .float => Parser.map .float Parser.float
  | .literal text => Parser.map .text (Parser.literal text)
  | .unsigned width => Parser.map (fun n : Nat => .int n) (Parser.unsigned width)
  | .signed width => Parser.map .int (Parser.signed width)

/-- A function that makes the value of a product from its fields, under the name by which
variants are called after it. -/
structure Builder where
  name : String
  build : List (String × Value) → Except Fault Value

/-- A step as it is written down. -/
inductive StepDescription (π : Type) where
  /-- Captures a value under a name. -/
  | capture (name : String) (part : π) (check : Option (Value → Except Fault Bool))
  /-- Discards a value. -/
  | discard (part : π) (check : Option (Value → Except Fault Bool))
  /-- A part that stands among the steps is discarded; it is resolved after all other steps. -/
  | bare (part : π)

/-- A product as it is written down. -/
structure ProductDescription (π : Type) where
  builder : Builder
  steps : List (StepDescription π)
  skipsBetween : Bool
  skipsAround : Bool

/-- A variant as it is written down; without a name it is called after its builder. -/
structure VariantDescription (π : Type) where
  name : Option String
  product : ProductDescription π

/-- What an edge leads to. A function of the user tells it on each attempt, and can give up. -/
inductive Target (π : Type) where
  /-- A definition. -/
  | named (name : String)
  /-- A grammar that is built on each attempt. -/
  | described (part : π)
  /-- Nothing: the function gives up. -/
  | raising (fault : Fault)

/-- A grammar as it is written down. -/
inductive Description where
  /-- A value in the place of a grammar. A text is read as a literal. -/
  | value (v : Value)
  | named (name : String)
  | leaf (leaf : Leaf)
  | char (text : String)
  | literal (text : String)
  | satisfy (test : Char → Except Fault Bool) (expected : String)
  | sequence (parts : List Description)
  | oneOf (parts : List Description)
  | optional (parts : List Description) (default : Value)
  | many (parts : List Description)
  | many1 (parts : List Description)
  | map (part : Description) (f : Value → Except Fault Value)
  | product (p : ProductDescription Description)
  | variant (v : VariantDescription Description)
  | sum (variants : List (VariantDescription Description))
  | edge (label : Option String) (target : Target Description)
  | probed (label : String) (part : Description)
  | retagged (tag : Option String) (part : Description)
  | custom (parser : Cursor → Except Fault (Outcome Value))

end TextGrammar
