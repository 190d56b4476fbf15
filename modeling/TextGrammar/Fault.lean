import TextGrammar.Value.Render

/-!
# Faults

A fault ends a whole run: a malformed grammar, a position outside the text, a callback that
gives up, a value that is too long to be shown. Text that does not match is no fault but a
failure, which the parsers around it can recover from.
-/

namespace TextGrammar

/-- The least count of parts of a sequence. -/
def minSequenceLength : Nat := 2

/-- The greatest count of parts of a sequence; longer ones are nested. -/
def maxSequenceLength : Nat := 10

/-- The kinds of faults that callers tell apart. -/
inductive Fault.Kind where
  | value
  | type
  | index
  | runtime
  /-- The call stack is used up. Edges recover from this kind alone. -/
  | recursion
  /-- An iterator has no more values. Iterations end with this kind when all goes well, so they
  never end with a fault of this kind. -/
  | exhausted
  /-- A step was reached that the rules exclude. -/
  | unreachable
  /-- A kind of the user's own. -/
  | own (name : String)
  deriving DecidableEq, Inhabited

/-- The causes that end a run. -/
inductive Fault where
  /-- A position before the start or behind the end of the text. -/
  | positionOutside (pos : Int)
  /-- A character is asked for where the text has ended. -/
  | noCharacter
  /-- The last one of no failures is asked for. -/
  | noLastFailure
  /-- The furthest one of no failures is asked for. -/
  | noFurthestFailure
  /-- A text that must be a single character is not. -/
  | notOneCharacter
  | emptyLiteral
  /-- An option or a repetition of nothing. -/
  | noParser
  | sequenceLength
  | fewAlternatives
  | noStep
  | noVariant
  | duplicateFields (names : List String)
  /-- A definition without a grammar of its own is used as a grammar. -/
  | undefinedGrammar (name : String)
  /-- A value is used as a grammar. -/
  | notAGrammar (value : Value)
  /-- A definition was given a value for its grammar, and an attempt is made at it. -/
  | notAParser (typeName : String)
  /-- A definition was given another one for its grammar, and an attempt is made at it. The objects
  of a definition are built from named fields alone, never from a cursor. -/
  | namedFieldsOnly (name : String)
  /-- A value that is no sequence of characters or items is asked for its length. -/
  | noLength (typeName : String)
  /-- A sequence of items is shown as a text. -/
  | notText (typeName : String)
  /-- Values of two types have no order. -/
  | notComparable (left right : String)
  /-- A value of changing content is used as a key. -/
  | notHashable (typeName : String)
  /-- A text is read as a number and is none. -/
  | notANumber (text : String)
  /-- A text that differs from a literal has no first difference. -/
  | noDifference
  /-- A repetition came back to a position where it had been, so it never ends. -/
  | endless (pos : Nat)
  /-- An item of an empty sequence is asked for. -/
  | noElement (sequence : Value)
  /-- A value with an integer of too many digits is shown. -/
  | tooManyDigits
  /-- An iteration comes to a fault that says that there are no more values. -/
  | exhaustedInside
  /-- A callback gets a value that it is not made for. -/
  | unsuitable (value : Value)
  /-- A callback gives up. -/
  | raised (kind : Fault.Kind) (message : String)
  deriving Inhabited

/-- The kind of a fault. A value in the place of a grammar is shown in the message, and that can go
wrong by itself. -/
def Fault.kind : Fault → Fault.Kind
  | .positionOutside _ | .noFurthestFailure | .notOneCharacter | .emptyLiteral | .noParser
  | .sequenceLength | .fewAlternatives | .noStep | .noVariant | .duplicateFields _
  | .notANumber _ | .tooManyDigits => .value
  | .undefinedGrammar _ | .notAParser _ | .namedFieldsOnly _ | .noLength _ | .notText _
  | .notComparable _ _ | .notHashable _ | .unsuitable _ => .type
  | .notAGrammar value => if value.isWritable then .type else .value
  | .noCharacter | .noLastFailure | .noElement _ => .index
  | .noDifference => .unreachable
  | .endless _ | .exhaustedInside => .runtime
  | .raised kind _ => kind

/-- What is said of an integer with too many digits. -/
def digitsMessage : String :=
  "Exceeds the limit (" ++ Text.writeNat maxDigits ++ " digits) for integer string conversion; " ++
    "use sys.set_int_max_str_digits() to increase the limit"

/-- The message of a fault. -/
def Fault.message : Fault → String
  | .positionOutside pos => "Position " ++ Text.writeInt pos ++ " is outside of the source."
  | .noCharacter => "string index out of range"
  | .noLastFailure => "tuple index out of range"
  | .noFurthestFailure => "max() arg is an empty sequence"
  | .notOneCharacter => "Expected a single character."
  | .emptyLiteral => "Empty literals are not allowed."
  | .noParser => "At least one consumer required."
  | .sequenceLength =>
    "Between " ++ Text.writeNat minSequenceLength ++ " and " ++ Text.writeNat maxSequenceLength ++
      " consumers required."
  | .fewAlternatives => "At least two consumers required."
  | .noStep => "At least one step required."
  | .noVariant => "At least one variant required."
  | .duplicateFields names =>
    "Duplicate field names in " ++ (Value.list (names.map Value.text)).render ++ "."
  | .undefinedGrammar name =>
    "The class \x60" ++ name ++ "\x60 has no \x60consume\x60 attribute of its own."
  | .notAGrammar value =>
    if value.isWritable then "Can't consume using " ++ value.render ++ "." else digitsMessage
  | .notAParser typeName => "'" ++ typeName ++ "' object is not callable"
  | .namedFieldsOnly name =>
    name ++ ".__init__() takes 1 positional argument but 2 were given"
  | .noLength typeName => "object of type '" ++ typeName ++ "' has no len()"
  | .notText typeName => "__str__ returned non-string (type " ++ typeName ++ ")"
  | .notComparable left right =>
    "'>' not supported between instances of '" ++ left ++ "' and '" ++ right ++ "'"
  | .notHashable typeName => "unhashable type: '" ++ typeName ++ "'"
  | .notANumber text => "could not convert string to float: " ++ Text.quote text
  | .noDifference => "unreachable"
  | .endless pos => "The repetition never ends: it is back at position " ++ Text.writeNat pos ++ "."
  | .noElement (.tuple _) => "tuple index out of range"
  | .noElement _ => "list index out of range"
  | .tooManyDigits => digitsMessage
  | .exhaustedInside => "generator raised StopIteration"
  | .unsuitable value => "The value " ++ value.render ++ " is not suitable."
  | .raised _ message => message

/-- The text of a value, which must have one. -/
def Value.write (value : Value) : Except Fault String :=
  if value.isWritable then .ok value.render else .error .tooManyDigits

end TextGrammar
