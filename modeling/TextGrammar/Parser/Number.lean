import TextGrammar.Binary64.Reading
import TextGrammar.Parser.Combinators
import TextGrammar.Text.Decimal

/-!
# Numbers

Digits, signs, integers of a given width and floating point numbers, all in decimal and
with ASCII digits. Integers are read as far as the digits go and then compared with their
width, so none is ever cut short or wrapped.
-/

namespace TextGrammar.Parser

open Text

/-- The two signs. -/
def signs : List Char := ['+', '-']

/-- The characters that begin an exponent. -/
def exponentMarkers : List Char := ['E', 'e']

/-- The character between the whole part and the fraction. -/
def decimalPoint : Char := '.'

/-- The width of an integer when none is given. -/
def defaultWidth : Int := 64

/-- Reads a digit. -/
def digit : Parser Nat := map digitValue (charOf isDecimal "a digit")

/-- Reads a sign, as the factor that it stands for. -/
def sign : Parser Int :=
  map (fun c => if c = '-' then -1 else 1) (charOf signs.contains "a sign")

/-- Reads one or more digits. -/
def digits : Parser (List Nat) := many1 digit

/-- Reads a sign if there is one; no sign is a positive one. -/
def optionalSign : Parser Int := optional sign 1

/-- Reads an exponent marker. -/
def exponentMarker : Parser Char := charOf exponentMarkers.contains "an exponent marker"

/-- Whether a number fits an unsigned integer of a width; every number fits without a width. Below
width zero nothing fits. -/
def fitsUnsigned (width : Option Int) (n : Nat) : Bool :=
  match width with
  | none => true
  | some width => decide (0 ≤ width) && decide (n < Nat.pow 2 width.toNat)

/-- Whether a number fits an integer of a width in two's complement; every number fits without a
width. At width zero and below nothing fits. -/
def fitsSigned (width : Option Int) (n : Int) : Bool :=
  match width with
  | none => true
  | some width =>
    decide (0 < width) && decide (-(Nat.pow 2 (width - 1).toNat : Int) ≤ n) &&
      decide (n < (Nat.pow 2 (width - 1).toNat : Int))

/-- Reads digits, or fails since there are none. -/
def someDigits : Parser (List Nat) := fun s =>
  (digits s).bind fun
    | .matched m => .matched m
    | .failed cause => .failed (.noNumber s cause)

/-- Reads an unsigned integer of a width. -/
def unsigned (width : Option Int) : Parser Nat := fun s =>
  (someDigits s).ifMatched fun m =>
    if fitsUnsigned width (fromDigits m.value) then .matched (m.withValue (fromDigits m.value))
    else .failed (.tooWide s (String.ofList m.text) (width.getD 0))

/-- Reads an integer of a width, with or without a sign. -/
def signed (width : Option Int) : Parser Int := fun s =>
  (optionalSign s).ifMatched fun sign =>
    (someDigits sign.rest).ifMatched fun m =>
      let value := sign.value * fromDigits m.value
      if fitsSigned width value then .matched (s.matchTo value m.rest)
      else .failed (.tooWide s (String.ofList (m.rest.textSince s.pos)) (width.getD 0))

/-- The cursor behind a decimal point and the digits after it; the same cursor if there are none. -/
def skipFraction (s : Cursor) : Run Cursor :=
  (char decimalPoint s).bind fun
    | .failed _ => .pure s
    | .matched point =>
      (digits point.rest).bind fun
        | .failed _ => .pure s
        | .matched m => .pure m.rest

/-- The cursor behind an exponent; the same cursor if there is no exponent marker. -/
def skipExponent (s : Cursor) : Run (Outcome Cursor) :=
  (exponentMarker s).bind fun
    | .failed _ => .matched (s.matchTo s s)
    | .matched marker =>
      (optionalSign marker.rest).ifMatched fun sign =>
        (digits sign.rest).bind fun
          | .failed _ => .failed (.noExponent sign.rest)
          | .matched m => .matched (s.matchTo m.rest m.rest)

/-- The number that a text denotes, which must denote one. -/
def readFloat (text : List Char) : Except Fault Binary64 :=
  match Binary64.read? text with
  | some x => .ok x
  | none => .error (.notANumber (String.ofList text))

/-- Reads a floating point number: a sign, digits, a point with digits behind it and an exponent.
Only the digits before the point are needed; a point without digits behind it is left. -/
def float : Parser Binary64 := fun s =>
  (optionalSign s).ifMatched fun sign =>
    (someDigits sign.rest).ifMatched fun whole =>
      (skipFraction whole.rest).bind fun fraction =>
        (skipExponent fraction).ifMatched fun last =>
          (Run.ofExcept (readFloat (last.value.textSince s.pos))).bind fun x =>
            .matched (s.matchTo x last.value)

end TextGrammar.Parser
