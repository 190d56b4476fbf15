import TextGrammar.Fault
import TextGrammar.Value.Equality

/-!
# Fingerprints

Keys of tables are looked up by a fingerprint, which equal values share. Numbers that are
equal have one fingerprint whatever their kind: their value modulo a Mersenne prime.
Sequences that can change and tables have none.
-/

namespace TextGrammar

/-- What a look-up compares before it compares the values. -/
inductive Fingerprint where
  | number (residue : Int)
  | text (s : String)
  | null
  | absent
  | tuple (items : List Fingerprint)
  /-- The fingerprint of what is no number agrees with no fingerprint. -/
  | unequal
  deriving Inhabited

/-- The prime that fingerprints of numbers are taken to. -/
def fingerprintPrime : Nat := Nat.pow 2 61 - 1

/-- The residue of a number with the sign of the number; `-1` is set aside. -/
def signedResidue (negative : Bool) (residue : Nat) : Int :=
  let signed : Int := if negative then -residue else residue
  if signed = -1 then -2 else signed

/-- The fingerprint of an integer. -/
def intFingerprint (n : Int) : Fingerprint :=
  .number (signedResidue (decide (n < 0)) (n.natAbs % fingerprintPrime))

/-- The fingerprint of a floating point number. Two to the power 61 is one modulo the prime, so
dividing by a power of two is multiplying by another one. -/
def floatFingerprint (x : Binary64) : Fingerprint :=
  if x.isNaN then .unequal
  else if !x.isFinite then .number (if x.isNegative then -314159 else 314159)
  else
    let turn := (x.scale + (61 - 1074 % 61)) % 61
    .number (signedResidue x.isNegative (x.significand * Nat.pow 2 turn % fingerprintPrime))

/-- The empty text shares the fingerprint of zero. -/
def textFingerprint (s : String) : Fingerprint := if s.isEmpty then .number 0 else .text s

mutual

/-- The fingerprint of a value; a box has that of its content. -/
def Value.fingerprint : Value → Except Fault Fingerprint
  | .null => .ok .null
  | .absent => .ok .absent
  | .bool b => .ok (intFingerprint (if b then 1 else 0))
  | .int n => .ok (intFingerprint n)
  | .float x => .ok (floatFingerprint x)
  | .text s => .ok (textFingerprint s)
  | .tuple items =>
    match fingerprints items with
    | .ok prints => .ok (.tuple prints)
    | .error fault => .error fault
  | .list _ => .error (.notHashable "list")
  | .dict _ => .error (.notHashable "dict")
  | .box content => content.fingerprint
  | .object name _ => .error (.notHashable name)

/-- The fingerprints of the items of a sequence, up to the first item that has none. -/
def fingerprints : List Value → Except Fault (List Fingerprint)
  | [] => .ok []
  | item :: items =>
    match item.fingerprint with
    | .error fault => .error fault
    | .ok print =>
      match fingerprints items with
      | .error fault => .error fault
      | .ok prints => .ok (print :: prints)

end

mutual

/-- Whether two fingerprints agree. -/
def Fingerprint.agrees : Fingerprint → Fingerprint → Bool
  | .number m, .number n => m == n
  | .text s, .text t => s == t
  | .null, .null => true
  | .absent, .absent => true
  | .tuple items, .tuple others => allAgree items others
  | _, _ => false

/-- Whether two sequences of fingerprints agree item by item. -/
def allAgree : List Fingerprint → List Fingerprint → Bool
  | [], [] => true
  | item :: items, other :: others => item.agrees other && allAgree items others
  | _, _ => false

end

/-- A box has the fingerprint of its content. -/
theorem Value.fingerprint_box (content : Value) :
    (Value.box content).fingerprint = content.fingerprint := rfl

end TextGrammar
