import TextGrammar.Cursor

/-!
# Failures

A failure says where and why a text does not match. It is an ordinary answer of a parser,
so the parsers around it can go on with another attempt. A choice collects the failures of
all its alternatives.
-/

namespace TextGrammar

/-- A remark about a position of the text. -/
structure Note where
  pos : Int
  message : Option String
  deriving DecidableEq

/-- The text of a remark. -/
def Note.render (n : Note) : String :=
  "<PosNote " ++ Text.writeInt n.pos ++ ": " ++ n.message.getD "None" ++ ">"

/-- Why a text does not match at a cursor. -/
inductive Failure where
  /-- A failure of a user's own parser. -/
  | plain (place : Cursor) (message : Option String) (notes : List Note)
  /-- The next character is not the expected one. -/
  | mismatch (place : Cursor) (expected : String) (actual : Char)
  /-- The text ends where a character was expected. -/
  | ended (place : Cursor) (expected : String)
  /-- None of the alternatives matched; their failures in the order of the attempts. -/
  | noneMatched (place : Cursor) (failures : List Failure)
  /-- A number was expected and there is no digit. -/
  | noNumber (place : Cursor) (cause : Failure)
  /-- A number does not fit the width of its integer. -/
  | tooWide (place : Cursor) (text : String) (width : Int)
  /-- An exponent marker is followed by no digit. -/
  | noExponent (place : Cursor)
  /-- A step matched and its check rejected the value. The failure shows the value, so the value
  has a text. -/
  | rejected (place : Cursor) (field : Option String) (value : Value)
    (writable : value.isWritable = true)
  /-- An edge was attempted inside too many other ones. -/
  | tooDeep (place : Cursor)

namespace Failure

/-- The cursor of a failure. -/
def cursor : Failure → Cursor
  | plain s _ _ | mismatch s _ _ | ended s _ | noneMatched s _ | noNumber s _ | tooWide s _ _
  | noExponent s | rejected s _ _ _ | tooDeep s => s

/-- The position of a failure. -/
def pos (f : Failure) : Nat := f.cursor.pos

/-- The reason for a failure. -/
def message : Failure → Option String
  | plain _ message _ => message
  | mismatch _ expected actual =>
    some ("Expected " ++ expected ++ ", found " ++ Text.quoteOne actual ++ ".")
  | ended _ expected => some ("Expected " ++ expected ++ ", reached the end of the input.")
  | noneMatched _ failures =>
    some ("None of the " ++ Text.writeNat failures.length ++ " alternatives matched.")
  | noNumber _ _ => some "Expected a number, found no digits."
  | tooWide _ text width =>
    some ("The number \x60" ++ text ++ "\x60 doesn't fit in " ++ Text.writeInt width ++ " bits.")
  | noExponent _ => some "Expected the digits of the exponent."
  | rejected _ none value _ => some ("The value " ++ value.render ++ " was rejected.")
  | rejected _ (some field) value _ =>
    some ("The value " ++ value.render ++ " was rejected for the field \x60" ++ field ++ "\x60.")
  | tooDeep _ => some "Nested too deeply."

/-- What a failure says about its position, as a remark. -/
def note (f : Failure) : Note := ⟨f.pos, f.message⟩

/-- The remarks that come with a failure; a choice has one for each alternative. -/
def notes : Failure → List Note
  | plain _ _ notes => notes
  | noneMatched _ failures => failures.map note
  | _ => []

/-- The name of the kind of a failure. -/
def kindName : Failure → String
  | plain .. => "ParseFailure"
  | mismatch .. => "CharMismatch"
  | ended .. => "EndOfInput"
  | noneMatched .. => "NoAlternative"
  | noNumber .. => "NoDigits"
  | tooWide .. => "MagnitudeOverflow"
  | noExponent .. => "MalformedExponent"
  | rejected .. => "ValueRejected"
  | tooDeep .. => "RecursionLimit"

/-- The failure of a character that is not the expected one. There must be a character. -/
def mismatch? (s : Cursor) (expected : String) : Except Fault Failure :=
  match s.next? with
  | some actual => .ok (.mismatch s expected actual)
  | none => .error .noCharacter

/-- The failure of a value that a check rejects. The value must have a text. -/
def rejected? (s : Cursor) (field : Option String) (value : Value) : Except Fault Failure :=
  if h : value.isWritable = true then .ok (.rejected s field value h) else .error .tooManyDigits

/-- A value that has a text is part of the failure. -/
theorem rejected?_of_writable {value : Value} (h : value.isWritable = true) (s : Cursor)
    (field : Option String) : rejected? s field value = .ok (.rejected s field value h) :=
  dif_pos h

/-- A value that has no text leaves nothing to fail with. -/
theorem rejected?_of_not_writable {value : Value} (h : value.isWritable = false) (s : Cursor)
    (field : Option String) : rejected? s field value = .error .tooManyDigits :=
  dif_neg (by simp [h])

/-- What a rejected value fails with is the failure that shows it. -/
theorem exists_of_rejected? {s : Cursor} {field : Option String} {value : Value} {f : Failure}
    (h : rejected? s field value = .ok f) :
    ∃ writable : value.isWritable = true, f = .rejected s field value writable := by
  rw [rejected?] at h
  split at h
  · next writable => exact ⟨writable, (Except.ok.inj h).symm⟩
  · cases h

/-- A rejected value leaves nothing to fail with only if it has no text. -/
theorem eq_of_rejected? {s : Cursor} {field : Option String} {value : Value} {e : Fault}
    (h : rejected? s field value = .error e) :
    value.isWritable = false ∧ e = .tooManyDigits := by
  rw [rejected?] at h
  split at h
  · cases h
  · next hwritable => exact ⟨Bool.eq_false_iff.mpr hwritable, (Except.error.inj h).symm⟩

/-- The last one of some failures. -/
def last (failures : List Failure) : Except Fault Failure :=
  match failures.getLast? with
  | some f => .ok f
  | none => .error .noLastFailure

/-- The failure that got furthest into the text; of several, the earliest one. -/
def furthest? : List Failure → Option Failure
  | [] => none
  | f :: fs =>
    match furthest? fs with
    | none => some f
    | some g => if f.pos < g.pos then some g else some f

/-- The failure that got furthest into the text, which must exist. -/
def furthest (failures : List Failure) : Except Fault Failure :=
  match furthest? failures with
  | some f => .ok f
  | none => .error .noFurthestFailure

/-- The place among some failures of the one that got furthest. -/
def furthestIndex (failures : List Failure) : Except Fault Nat :=
  match furthest? failures with
  | some f => .ok (failures.findIdx fun g => g.pos == f.pos)
  | none => .error .noFurthestFailure

/-- The furthest failure is one of the failures. -/
theorem furthest?_mem {failures : List Failure} {f : Failure} (h : furthest? failures = some f) :
    f ∈ failures := by
  induction failures generalizing f with
  | nil => simp [furthest?] at h
  | cons g gs ih =>
    cases hrest : furthest? gs with
    | none =>
      simp only [furthest?, hrest, Option.some.injEq] at h
      exact h ▸ List.mem_cons_self
    | some g' =>
      simp only [furthest?, hrest] at h
      split at h
      · rw [Option.some.injEq] at h
        exact List.mem_cons_of_mem _ (ih (h ▸ hrest))
      · rw [Option.some.injEq] at h
        exact h ▸ List.mem_cons_self

/-- There is a furthest failure unless there are no failures. -/
theorem furthest?_eq_none_iff {failures : List Failure} :
    furthest? failures = none ↔ failures = [] := by
  cases failures with
  | nil => simp [furthest?]
  | cons f fs =>
    simp only [furthest?, reduceCtorEq, iff_false]
    cases furthest? fs with
    | none => simp
    | some g => simp only; split <;> simp

/-- No failure lies behind the furthest one. -/
theorem pos_le_furthest {failures : List Failure} {f : Failure} (h : furthest? failures = some f) :
    ∀ g ∈ failures, g.pos ≤ f.pos := by
  induction failures generalizing f with
  | nil => simp
  | cons f₀ fs ih =>
    intro g hg
    cases hrest : furthest? fs with
    | none =>
      rw [furthest?_eq_none_iff.mp hrest] at hg h
      simp only [furthest?, Option.some.injEq] at h
      obtain rfl : g = f := (List.mem_singleton.mp hg).trans h
      exact Nat.le_refl _
    | some f₁ =>
      simp only [furthest?, hrest] at h
      have hbound := ih hrest
      rcases List.mem_cons.mp hg with rfl | hmem
      · split at h <;> rw [Option.some.injEq] at h <;> subst h <;> omega
      · have hle := hbound g hmem
        split at h <;> rw [Option.some.injEq] at h <;> subst h <;> omega

/-- The failure of a choice, followed into the alternative that got furthest, and into that one's,
until it is not the failure of a choice. -/
def deepest (f : Failure) : Except Fault Failure :=
  match f with
  | .noneMatched _ failures =>
    match h : furthest? failures with
    | some g =>
      have := List.sizeOf_lt_of_mem (furthest?_mem h)
      g.deepest
    | none => .error .noFurthestFailure
  | f => .ok f
termination_by sizeOf f

/-- The text of a failure. -/
def render (f : Failure) : String :=
  "<" ++ f.kindName ++ " " ++ Text.writeNat f.pos ++ ": " ++ f.message.getD "None" ++ ">"

end Failure

end TextGrammar
