import TextGrammar.Cursor
import TextGrammar.Value.Fingerprint

/-!
# Keys

Cursors and values as keys of a set. A cursor is equal to the text that it has left, and to
a cursor at the same position of the same text; so two cursors with the same text left can
both equal that text and differ from each other.
-/

namespace TextGrammar

/-- A key of a set. -/
inductive Key where
  | cursor (s : Cursor)
  | value (v : Value)

namespace Key

/-- The cursor that is read from: a text is read from its start, and other values are no texts. -/
def toCursor : Key → Except Fault Cursor
  | cursor s => .ok s
  | value (.text text) => .ok (Cursor.ofText text)
  | value (.list items) => .error (.notText (Value.list items).typeName)
  | value (.tuple items) => .error (.notText (Value.tuple items).typeName)
  | value (.dict _) => .error (.notHashable "slice")
  | value v => .error (.noLength v.typeName)

/-- Whether a cursor is equal to a value: only to the text that it has left. -/
def cursorEquals (s : Cursor) : Value → Bool
  | .text t => s.rest == t.toList
  | _ => false

/-- Equality of keys. -/
def equals : Key → Key → Bool
  | cursor s, cursor t => s.text == t.text && s.pos == t.pos
  | cursor s, value v => cursorEquals s v
  | value v, cursor s => cursorEquals s v
  | value v, value w => v.equals w

/-- The fingerprint of a key; a cursor has that of the text that it has left. -/
def fingerprint : Key → Except Fault Fingerprint
  | cursor s => .ok (textFingerprint (String.ofList s.rest))
  | value v => v.fingerprint

/-- Whether two keys have fingerprints that agree. -/
def fingerprintsAgree (a b : Key) : Except Fault Bool :=
  match a.fingerprint with
  | .error e => .error e
  | .ok first =>
    match b.fingerprint with
    | .error e => .error e
    | .ok second => .ok (first.agrees second)

/-- A key and its fingerprint. -/
structure Entry where
  print : Fingerprint
  key : Key

/-- Whether a set has a key that is equal to the given one. -/
def Entry.isIn (entry : Entry) (set : List Entry) : Bool :=
  set.any fun other => other.print.agrees entry.print && other.key.equals entry.key

/-- A key with its fingerprint. -/
def entry (key : Key) : Except Fault Entry := key.fingerprint.map fun print => ⟨print, key⟩

/-- The set of some keys. A key that is equal to an earlier one is left out. -/
def setOf (keys : List Key) : Except Fault (List Entry) :=
  keys.foldlM (fun set key => (entry key).map fun e => if e.isIn set then set else set ++ [e]) []

/-- Whether a key is in the set of some keys. -/
def isAmong (key : Key) (keys : List Key) : Except Fault Bool :=
  match setOf keys with
  | .error e => .error e
  | .ok set => (entry key).map fun e => e.isIn set

/-- Equality of cursors as keys does not depend on their order. -/
theorem equals_cursor_comm (s t : Cursor) :
    equals (cursor s) (cursor t) = equals (cursor t) (cursor s) := by
  rw [Bool.eq_iff_iff]
  simp only [equals, Bool.and_eq_true, beq_iff_eq]
  exact ⟨fun ⟨h₁, h₂⟩ => ⟨h₁.symm, h₂.symm⟩, fun ⟨h₁, h₂⟩ => ⟨h₁.symm, h₂.symm⟩⟩

end Key

end TextGrammar
