import TextGrammar.Binary64.Notation
import TextGrammar.Text.Decimal
import TextGrammar.Text.Quoted
import TextGrammar.Value.Basic

/-!
# Showing values

The text of a value on one line: quoted strings, brackets around sequences, braces around
tables, and constructor calls for boxes and objects. Integers are shown up to a count of digits,
and a value with a longer one in it has no text.
-/

namespace TextGrammar

/-- The name of a value's type in messages; an object has that of its definition. -/
def Value.typeName : Value → String
  | .null => "NoneType"
  | .bool _ => "bool"
  | .int _ => "int"
  | .float _ => "float"
  | .text _ => "str"
  | .list _ => "list"
  | .tuple _ => "tuple"
  | .dict _ => "dict"
  | .absent => "_Absent"
  | .box _ => "Box"
  | .object name _ => name

/-- Items with a comma and a space between them. -/
def commaSeparated (items : List String) : String := ", ".intercalate items

mutual

/-- The text of a value. -/
def Value.render : Value → String
  | .null => "None"
  | .bool true => "True"
  | .bool false => "False"
  | .int n => Text.writeInt n
  | .float x => x.write
  | .text s => Text.quote s
  | .list items => "[" ++ commaSeparated (renderItems items) ++ "]"
  | .tuple [item] => "(" ++ item.render ++ ",)"
  | .tuple items => "(" ++ commaSeparated (renderItems items) ++ ")"
  | .dict entries => "\x7b" ++ commaSeparated (renderEntries entries) ++ "\x7d"
  | .absent => "ABSENT"
  | .box content => "Box(" ++ content.render ++ ")"
  | .object name fields => name ++ "(" ++ commaSeparated (renderFields fields) ++ ")"

/-- The texts of the items of a sequence. -/
def renderItems : List Value → List String
  | [] => []
  | item :: items => item.render :: renderItems items

/-- The texts of the entries of a table. -/
def renderEntries : List (String × Value) → List String
  | [] => []
  | (key, value) :: entries => (Text.quote key ++ ": " ++ value.render) :: renderEntries entries

/-- The texts of the fields of an object. -/
def renderFields : List (String × Value) → List String
  | [] => []
  | (name, value) :: fields => (name ++ "=" ++ value.render) :: renderFields fields

end

/-- The greatest count of digits of an integer that is shown. -/
def maxDigits : Nat := 4300

mutual

/-- Whether a value has a text: no integer in it has too many digits. -/
def Value.isWritable : Value → Bool
  | .null | .bool _ | .float _ | .text _ | .absent => true
  | .int n => decide (Text.digitCount n.natAbs ≤ maxDigits)
  | .list items | .tuple items => itemsWritable items
  | .dict entries | .object _ entries => entriesWritable entries
  | .box content => content.isWritable

/-- Whether all items of a sequence have texts. -/
def itemsWritable : List Value → Bool
  | [] => true
  | item :: items => item.isWritable && itemsWritable items

/-- Whether the values of all entries have texts. -/
def entriesWritable : List (String × Value) → Bool
  | [] => true
  | (_, value) :: entries => value.isWritable && entriesWritable entries

end

/-- An integer has a text just when it is small enough. -/
theorem Value.isWritable_int (n : Int) :
    (Value.int n).isWritable = true ↔ n.natAbs < Nat.pow 10 maxDigits := by
  rw [isWritable, decide_eq_true_iff, Text.digitCount_le_iff (by decide)]

/-- The items of a sequence are shown one by one. -/
theorem renderItems_eq_map (items : List Value) : renderItems items = items.map Value.render := by
  induction items with
  | nil => rfl
  | cons item items ih => rw [renderItems, ih, List.map_cons]

end TextGrammar
