import TextGrammar.Parser.Combinators

/-!
# Products and sums

A product reads its steps in order and builds a value from the fields that the steps
capture. A step may check the value it has read. A sum is an ordered choice between named
products, and a match carries the name.
-/

namespace TextGrammar

/-- A step of a product over parsers, or descriptions of parsers, of a type. The check and the
builder of a product answer in the monad `m`. -/
structure Step (m : Type → Type) (π : Type) where
  /-- The name under which the value is captured; without one it is discarded. -/
  field : Option String
  parser : π
  check : Option (Value → m Bool)

/-- Steps, and how a value is built from the fields that they capture. -/
structure Product (m : Type → Type) (π : Type) where
  build : List (String × Value) → m Value
  steps : List (Step m π)
  /-- Whether blanks between the steps are skipped. -/
  skipsBetween : Bool
  /-- Whether blanks before the first step and after the last one are skipped. -/
  skipsAround : Bool

/-- A product with a name. -/
structure Variant (m : Type → Type) (π : Type) where
  name : String
  product : Product m π

/-- The fields that steps capture, in their order. -/
def fieldNames {m : Type → Type} {π : Type} (steps : List (Step m π)) : List String :=
  steps.filterMap (·.field)

namespace Parser

/-- What a step captures of a value. -/
def captured (field : Option String) (value : Value) : List (String × Value) :=
  match field with
  | none => []
  | some name => [(name, value)]

/-- Whether a step accepts a value. -/
def accepts (step : Step Run (Parser Value)) (value : Value) : Run Bool :=
  match step.check with
  | none => .pure true
  | some check => check value

/-- Skips blanks if asked to. -/
def skipBlanksIf (skips : Bool) (s : Cursor) : Run Cursor :=
  if skips then skipBlanks s else .pure s

/-- Fails since a check rejects a value. The failure shows the value. -/
def reject {α : Type} (field : Option String) (value : Value) : Parser α := fun s =>
  (Run.consult (.show value) (Failure.rejected? s field value)).bind .failed

/-- A rejected value that has a text makes the parser fail where it began. -/
theorem reject_of_writable {α : Type} {value : Value} (h : value.isWritable = true)
    (field : Option String) (s : Cursor) :
    (reject field value : Parser α) s =
      ⟨[.called (.show value)], .ok (.failed (.rejected s field value h))⟩ := by
  rw [reject, Failure.rejected?_of_writable h]
  rfl

/-- A rejected value that has no text ends the run. -/
theorem reject_of_not_writable {α : Type} {value : Value} (h : value.isWritable = false)
    (field : Option String) (s : Cursor) :
    (reject field value : Parser α) s =
      ⟨[.called (.show value), .raised .tooManyDigits], .error .tooManyDigits⟩ := by
  rw [reject, Failure.rejected?_of_not_writable h]
  rfl

/-- Reads a step and checks its value. -/
def stepFields (step : Step Run (Parser Value)) : Parser (List (String × Value)) := fun s =>
  (step.parser s).ifMatched fun m =>
    (accepts step m.value).bind fun accepted =>
      if accepted then .matched (s.matchTo (captured step.field m.value) m.rest)
      else reject step.field m.value s

/-- Reads steps in order, with blanks before each of them if asked to, and collects what they
capture. -/
def laterFields (skips : Bool) : List (Step Run (Parser Value)) → Parser (List (String × Value))
  | [], s => .matched (s.matchTo [] s)
  | step :: steps, s =>
    (skipBlanksIf skips s).bind fun place =>
      (stepFields step place).ifMatched fun first =>
        (laterFields skips steps first.rest).ifMatched fun others =>
          .matched (s.matchTo (first.value ++ others.value) others.rest)

/-- Reads steps in order, with blanks between them if asked to, and collects what they capture. -/
def fields (skips : Bool) : List (Step Run (Parser Value)) → Parser (List (String × Value))
  | [], s => .matched (s.matchTo [] s)
  | step :: steps, s =>
    (stepFields step s).ifMatched fun first =>
      (laterFields skips steps first.rest).ifMatched fun others =>
        .matched (s.matchTo (first.value ++ others.value) others.rest)

/-- Reads the steps of a product and builds its value. -/
def product (p : Product Run (Parser Value)) : Parser Value := fun s =>
  (skipBlanksIf p.skipsAround s).bind fun place =>
    (fields p.skipsBetween p.steps place).ifMatched fun m =>
      (skipBlanksIf p.skipsAround m.rest).bind fun rest =>
        (p.build m.value).bind fun value => .matched (s.matchTo value rest)

/-- Gives a match a tag. -/
def retagged {α : Type} (tag : Option String) (parser : Parser α) : Parser α := fun s =>
  (parser s).ifMatched fun m => .matched (m.withTag tag)

/-- Reads a product; a match has the name of the variant as its tag. -/
def variant (v : Variant Run (Parser Value)) : Parser Value :=
  retagged (some v.name) (product v.product)

/-- Reads the first variant that matches. -/
def sum (variants : List (Variant Run (Parser Value))) : Parser Value :=
  choice (fun _ pos => .variantsExhausted (variants.map (·.name)) pos) (variants.map variant)

end Parser

end TextGrammar
