import CompileTrace.Number.Double
import CompileTrace.Number.Whole

set_option autoImplicit false

/-! # Reading a double from text

A decimal with a point, an exponent, or both, in the digits of any script, with blanks around it;
an underscore may stand between two digits. The words for infinity and for what is no number are
read too. -/

namespace CompileTrace

/-- A sign at the start of a text: whether it is a minus, and the text after it. -/
def splitSign : Text → Bool × Text
  | char '-' :: rest => (true, rest)
  | char '+' :: rest => (false, rest)
  | s => (false, s)

/-- The number that ASCII digits write; zero if there are none. -/
def digitsNumber (digits : Text) : Nat :=
  digits.foldl (fun n c => 10 * n + (c.toNat - '0'.toNat)) 0

/-- The digits after a point, and the rest; no digits without a point. -/
def splitFraction (s : Text) : Text × Text :=
  match s with
  | char '.' :: rest => rest.span CodePoint.isDigit
  | _ => ([], s)

/-- The exponent that the rest of a decimal writes; zero if nothing is left. -/
def exponentOf? (s : Text) : Option Int :=
  match s with
  | [] => some 0
  | char 'e' :: rest =>
    let (negative, digits) := splitSign rest
    if digits.isEmpty || !digits.all CodePoint.isDigit then none
    else
      let n : Int := digitsNumber digits
      some (if negative then -n else n)
  | _ => none

/-- The double that a decimal without its sign writes. -/
def decimalValueOf? (negative : Bool) (s : Text) : Option Float :=
  let (whole, rest) := s.span CodePoint.isDigit
  let (fraction, rest) := splitFraction rest
  if whole.isEmpty && fraction.isEmpty then none
  else
    (exponentOf? rest).map (fun e =>
      doubleOfDecimal negative (digitsNumber (whole ++ fraction)) (e - fraction.length))

/-- The double that a number in its ASCII form writes, in small letters. -/
def doubleOfAscii? (s : Text) : Option Float :=
  let (negative, body) := splitSign s
  let infinite : Float := 1.0 / 0.0
  if body = "inf" ∨ body = "infinity" then some (if negative then -infinite else infinite)
  else if body = "nan" then some (0.0 / 0.0)
  else (dropUnderscores? CodePoint.isDigit body).bind (decimalValueOf? negative)

/-- The double that a text writes, whatever the case of its letters. -/
def Text.toFloat? (s : Text) : Option Float :=
  (bareNumber? s).bind (fun t => doubleOfAscii? (t.map CodePoint.toLower))

end CompileTrace
