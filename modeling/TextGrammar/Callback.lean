import TextGrammar.Grammar.Description
import TextGrammar.Value.Equality

/-!
# Callbacks

A stock of functions that grammars call: tests of characters, changes and checks of
values, builders of products, and parsers that move where they are told to.
-/

namespace TextGrammar.Callback

/-- Gives up, whatever it is called with. -/
def giveUp {α β : Type} (kind : Fault.Kind) (message : String) (_ : α) : Except Fault β :=
  .error (.raised kind message)

/-- Answers always the same. -/
def const {α β : Type} (answer : β) (_ : α) : Except Fault β := .ok answer

/-! ### Tests of characters -/

/-- Whether a character is one of those in a text. -/
def isIn (chars : String) (c : Char) : Except Fault Bool := .ok (chars.toList.contains c)

/-- Whether a character is none of those in a text. -/
def isNotIn (chars : String) (c : Char) : Except Fault Bool := .ok (!chars.toList.contains c)

/-- Whether a character lies between two characters, both included. -/
def isBetween (low high : Char) (c : Char) : Except Fault Bool :=
  .ok (decide (low ≤ c) && decide (c ≤ high))

/-! ### Changes of values -/

/-- The items of a list or a tuple. -/
def items : Value → Except Fault (List Value)
  | .list items | .tuple items => .ok items
  | v => .error (.unsuitable v)

/-- The integer that a value counts as. -/
def integer (v : Value) : Except Fault Int :=
  match v.asInt? with
  | some n => .ok n
  | none => .error (.unsuitable v)

/-- The integers in a sequence. -/
def integers (v : Value) : Except Fault (List Int) := do (← items v).mapM integer

/-- A text. -/
def textOf : Value → Except Fault String
  | .text s => .ok s
  | v => .error (.unsuitable v)

/-- The negative of an integer. -/
def negate (v : Value) : Except Fault Value := (integer v).map fun n => .int (-n)

/-- Twice an integer. -/
def double (v : Value) : Except Fault Value := (integer v).map fun n => .int (2 * n)

/-- How many characters, items or entries a value has. -/
def length : Value → Except Fault Value
  | .text s => .ok (.int s.length)
  | .list items | .tuple items => .ok (.int items.length)
  | .dict entries => .ok (.int entries.length)
  | v => .error (.noLength v.typeName)

/-- The sum of a sequence of integers. -/
def total (v : Value) : Except Fault Value :=
  (integers v).map fun ns => .int (ns.foldl (· + ·) 0)

/-- The product of a sequence of integers. -/
def multiplied (v : Value) : Except Fault Value :=
  (integers v).map fun ns => .int (ns.foldl (· * ·) 1)

/-- The texts of a sequence, one behind the other. -/
def joined (v : Value) : Except Fault Value := do
  let texts ← (← items v).mapM textOf
  return .text (String.join texts)

/-- An item that must exist. -/
def existing (v : Value) : Option Value → Except Fault Value
  | some item => .ok item
  | none => .error (.noElement v)

/-- The first item of a sequence. -/
def first (v : Value) : Except Fault Value := do existing v (← items v).head?

/-- The last item of a sequence. -/
def last (v : Value) : Except Fault Value := do existing v (← items v).getLast?

/-- A value twice. -/
def pair (v : Value) : Except Fault Value := .ok (.tuple [v, v])

/-- A value as it is. -/
def same (v : Value) : Except Fault Value := .ok v

/-! ### Checks of values -/

/-- Whether a value counts as true. -/
def holds (v : Value) : Except Fault Bool := .ok v.isTruthy

/-- Whether an integer is even. -/
def isEven (v : Value) : Except Fault Bool := (integer v).map fun n => n % 2 == 0

/-- Whether a number is greater than an integer. -/
def isGreaterThan (bound : Int) : Value → Except Fault Bool
  | .float x =>
    .ok (!x.isNaN &&
      if x.isFinite then decide (bound * Int.pow 2 1074 < x.scaled) else !x.isNegative)
  | v =>
    match v.asInt? with
    | some n => .ok (decide (bound < n))
    | none => .error (.notComparable v.typeName (Value.int bound).typeName)

/-- Whether a value is equal to another one and of the same kind. -/
def isEqualTo (other : Value) (v : Value) : Except Fault Bool := .ok (v.sameAs other)

/-! ### Builders of products -/

/-- Builds a table of the fields. -/
def tableBuilder : Builder := ⟨"dict", fun fields => .ok (.dict fields)⟩

/-- Builds a list of names and values. -/
def itemsBuilder : Builder :=
  ⟨"items", fun fields => .ok (.list (fields.map fun field => .tuple [.text field.1, field.2]))⟩

/-- Builds the value of the first field. -/
def onlyBuilder : Builder :=
  ⟨"only", fun fields => .ok ((fields.head?.map (·.2)).getD .null)⟩

/-- Builds a list of the values. -/
def listBuilder : Builder := ⟨"<lambda>", fun fields => .ok (.list (fields.map (·.2)))⟩

/-- Builds a tuple of the values, and has no name of its own. -/
def tupleBuilder : Builder := ⟨"<Opaque 'build'>", fun fields => .ok (.tuple (fields.map (·.2)))⟩

/-- Builds always the same value. -/
def constBuilder (value : Value) : Builder := ⟨"<lambda>", const value⟩

/-- Builds nothing and gives up. -/
def failingBuilder (kind : Fault.Kind) (message : String) : Builder := ⟨"fail", giveUp kind message⟩

/-! ### Parsers -/

/-- Fails at the cursor. -/
def fail (message : Option String) (notes : List Note) (s : Cursor) :
    Except Fault (Outcome Value) :=
  .ok (.failed (.plain s message notes))

/-- Moves by a number of characters without reading them. -/
def move (amount : Int) (data : Value) (s : Cursor) : Except Fault (Outcome Value) :=
  (s.move amount).map fun rest => .matched (s.matchTo data rest)

end TextGrammar.Callback
