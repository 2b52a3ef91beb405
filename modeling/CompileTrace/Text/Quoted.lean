import CompileTrace.Text.Printable

set_option autoImplicit false

/-! # Quoted texts

A message shows a text between quotes so that every character of it can be told: single quotes
unless the text holds a single quote and no double quote, a backslash before a backslash and
before the quote in use, short names for tab, line feed and carriage return, and the code point
in hexadecimal for what is not printable. -/

namespace CompileTrace

/-- The lower-case hexadecimal digits of a number, filled up to a width. -/
def hexDigits (width n : Nat) : Text := Text.padZeros width (Text.ofChars (Nat.toDigits 16 n))

namespace Text

/-- The escape of a code point: two digits after an `x`, four after a `u` or eight after a `U`,
    whichever is the shortest that fits. -/
def codePointEscape (n : Nat) : Text :=
  if n ≤ 0xFF then "\\x" ++ hexDigits 2 n
  else if n ≤ 0xFFFF then "\\u" ++ hexDigits 4 n
  else "\\U" ++ hexDigits 8 n

/-- How a character is shown between the given quotes. -/
def quotedChar (quote c : CodePoint) : Text :=
  if c = quote ∨ c = '\\' then ['\\', c]
  else if c = '\t' then "\\t"
  else if c = '\n' then "\\n"
  else if c = '\r' then "\\r"
  else if isPrintable c then [c]
  else codePointEscape c.toNat

/-- The quote that a text is shown in. -/
def quoteFor (s : Text) : CodePoint := if s.contains '\'' && !s.contains '"' then '"' else '\''

/-- The text between quotes. -/
def quoted (s : Text) : Text :=
  [quoteFor s] ++ s.flatMap (quotedChar (quoteFor s)) ++ [quoteFor s]

end Text

end CompileTrace
