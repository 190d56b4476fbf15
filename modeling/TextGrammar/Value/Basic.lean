import TextGrammar.Binary64.Basic

/-!
# Values

What grammars produce and callbacks compute with: atoms, sequences, tables, boxes around
the recursive parts of a value, and objects with named fields.
-/

namespace TextGrammar

/-- The values that grammars produce. -/
inductive Value where
  | null
  | bool (b : Bool)
  | int (n : Int)
  | float (x : Binary64)
  | text (s : String)
  | list (items : List Value)
  | tuple (items : List Value)
  | dict (entries : List (String × Value))
  /-- Stands for an optional part that is not there; no grammar produces it by matching. -/
  | absent
  /-- A value at a recursive edge of a grammar. -/
  | box (content : Value)
  | object (name : String) (fields : List (String × Value))
  deriving Inhabited

/-- Whether a value counts as true. -/
def Value.isTruthy : Value → Bool
  | .null | .absent => false
  | .bool b => b
  | .int n => n != 0
  | .float x => !x.isZero
  | .text s => !s.isEmpty
  | .list items | .tuple items => !items.isEmpty
  | .dict entries => !entries.isEmpty
  | .box _ | .object _ _ => true

/-- A table with one more entry. An entry with a key that the table has replaces the value there. -/
def insertEntry (entries : List (String × Value)) (key : String) (value : Value) :
    List (String × Value) :=
  if entries.any (·.1 == key) then
    entries.map fun entry => if entry.1 == key then (key, value) else entry
  else entries ++ [(key, value)]

/-- The table of a sequence of entries, in the order in which their keys first occur. -/
def Value.ofEntries (entries : List (String × Value)) : Value :=
  .dict (entries.foldl (fun table entry => insertEntry table entry.1 entry.2) [])

/-- How many boxes surround a value directly. -/
def Value.boxDepth : Value → Nat
  | .box content => content.boxDepth + 1
  | _ => 0

/-- What is inside a box. -/
def Value.unboxed? : Value → Option Value
  | .box content => some content
  | _ => none

/-- A value inside a number of boxes. -/
def Value.boxes (content : Value) : Nat → Value
  | 0 => content
  | depth + 1 => .box (content.boxes depth)

/-- Boxes around a value add to the boxes that it has. -/
theorem Value.boxDepth_boxes (content : Value) (depth : Nat) :
    (content.boxes depth).boxDepth = content.boxDepth + depth := by
  induction depth with
  | zero => rfl
  | succ depth ih => rw [boxes, boxDepth, ih, Nat.add_assoc]

end TextGrammar
