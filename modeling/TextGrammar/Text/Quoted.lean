import TextGrammar.Text.Printable

/-!
# Quoted text

A text is shown between quotes, on one line and with printable characters only. The quote
is a single one unless the text holds single quotes and no double quotes.
-/

namespace TextGrammar.Text

/-- The quote that surrounds a text. -/
def quoteFor (text : List Char) : Char :=
  if text.contains '\'' && !text.contains '"' then '"' else '\''

/-- A code point in lower-case hexadecimal, filled up with zeros to a width. -/
def hexadecimal (width code : Nat) : List Char :=
  let digits := Nat.toDigits 16 code
  List.replicate (width - digits.length) '0' ++ digits

/-- A character without a sign of its own, written by its code point in two, four or eight
digits. -/
def escapeCode (c : Char) : List Char :=
  if c.toNat < 0x100 then '\\' :: 'x' :: hexadecimal 2 c.toNat
  else if c.toNat < 0x10000 then '\\' :: 'u' :: hexadecimal 4 c.toNat
  else '\\' :: 'U' :: hexadecimal 8 c.toNat

/-- A character between quotes. -/
def quoteChar (quote c : Char) : List Char :=
  if c = quote ∨ c = '\\' then ['\\', c]
  else if c = '\n' then ['\\', 'n']
  else if c = '\r' then ['\\', 'r']
  else if c = '\t' then ['\\', 't']
  else if isPrintable c then [c]
  else escapeCode c

/-- A text between quotes. -/
def quoteChars (text : List Char) : List Char :=
  let quote := quoteFor text
  quote :: (text.flatMap (quoteChar quote) ++ [quote])

/-- A text between quotes. -/
def quote (text : String) : String := String.ofList (quoteChars text.toList)

/-- A single character between quotes. -/
def quoteOne (c : Char) : String := String.ofList (quoteChars [c])

end TextGrammar.Text
