import TextGrammar.Value.Basic

/-!
# Equality of values

Values are equal when they have the same shape and equal parts. Numbers are compared by
what they denote, whether they are truth values, integers or floating point numbers, and
tables without regard to the order of their entries.
-/

namespace TextGrammar

/-- The integer that a value counts as, truth values included. -/
def Value.asInt? : Value → Option Int
  | .bool b => some (if b then 1 else 0)
  | .int n => some n
  | _ => none

/-- Equality of values that have no parts. -/
def Value.atomEquals : Value → Value → Bool
  | .null, .null => true
  | .absent, .absent => true
  | .text s, .text t => s == t
  | .float x, .float y => x.equals y
  | .float x, b => b.asInt?.any x.equalsInt
  | a, .float y => a.asInt?.any y.equalsInt
  | a, b =>
    match a.asInt?, b.asInt? with
    | some m, some n => m == n
    | _, _ => false

mutual

/-- Equality of values. -/
def Value.equals : Value → Value → Bool
  | .list items, .list others => itemsEqual items others
  | .tuple items, .tuple others => itemsEqual items others
  | .dict entries, .dict others =>
    entries.length == others.length && entriesAmong entries others
  | .box content, .box other => content.equals other
  | .object name fields, .object other others => name == other && fieldsEqual fields others
  | a, b => a.atomEquals b

/-- Whether two sequences have equal items. -/
def itemsEqual : List Value → List Value → Bool
  | [], [] => true
  | item :: items, other :: others => item.equals other && itemsEqual items others
  | _, _ => false

/-- Whether every entry of one table has an equal entry in another one. -/
def entriesAmong : List (String × Value) → List (String × Value) → Bool
  | [], _ => true
  | (key, value) :: entries, others =>
    (match others.lookup key with
      | some other => value.equals other
      | none => false) && entriesAmong entries others

/-- Whether two objects have equal fields in the same order. -/
def fieldsEqual : List (String × Value) → List (String × Value) → Bool
  | [], [] => true
  | (name, value) :: fields, (other, otherValue) :: others =>
    name == other && value.equals otherValue && fieldsEqual fields others
  | _, _ => false

end

/-- The kind of a value, which a comparison by kind looks at first. -/
inductive Value.Kind where
  | null | bool | int | float | text | list | tuple | dict | absent | box
  | object (name : String)
  deriving DecidableEq

/-- The kind of a value. -/
def Value.kind : Value → Kind
  | .null => .null
  | .bool _ => .bool
  | .int _ => .int
  | .float _ => .float
  | .text _ => .text
  | .list _ => .list
  | .tuple _ => .tuple
  | .dict _ => .dict
  | .absent => .absent
  | .box _ => .box
  | .object name _ => .object name

/-- Equality of values of the same kind; values of different kinds differ. -/
def Value.sameAs (a b : Value) : Bool := a.kind == b.kind && a.equals b

end TextGrammar
