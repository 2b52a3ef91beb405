import CompileTrace.Text.Digit
import CompileTrace.Text.Quoted

set_option autoImplicit false

/-! # Whole numbers as text

A whole number is read from the decimal digits of any script, or from hexadecimal digits, where a
sign, a mark of the base, underscores and blanks may stand too. It is neither read from nor written
in more decimal digits than the limit allows. -/

namespace CompileTrace

/-! ## Faults -/

/-- The most decimal digits that a number is read from or written in. -/
def digitLimit : Nat := 4300

/-- Why a text is not read as a whole number: it begins with too many digits, or it writes none. -/
inductive WholeFault
  | tooLong (digits : Nat)
  | notANumber (base : Nat) (text : Text)
  deriving DecidableEq, Repr

/-- The most characters of a quoted text that a fault shows. -/
def shownLimit : Nat := 200

/-- The fault in words. -/
def WholeFault.message : WholeFault → Text
  | .tooLong digits =>
    "Exceeds the limit (" ++ Text.ofNat digitLimit
      ++ " digits) for integer string conversion: value has " ++ Text.ofNat digits
      ++ " digits; use sys.set_int_max_str_digits() to increase the limit"
  | .notANumber base text =>
    "invalid literal for int() with base " ++ Text.ofNat base ++ ": "
      ++ text.quoted.take shownLimit

/-- A number has too many digits to be written. -/
structure TooManyDigits where
  deriving DecidableEq, Repr

/-- The fault in words. -/
def TooManyDigits.message (_ : TooManyDigits) : Text :=
  "Exceeds the limit (" ++ Text.ofNat digitLimit
    ++ " digits) for integer string conversion; "
    ++ "use sys.set_int_max_str_digits() to increase the limit"

/-! ## ASCII forms -/

/-- The form in ASCII of a character in a number: a digit of any script as the one of its value,
    and a blank of another script as a space. No other character outside of ASCII has one. -/
def asciiForm? (c : CodePoint) : Option CodePoint :=
  if c.toNat < 0x7F then some c
  else if isBlank c then some (char ' ')
  else (decimalValue? c).map (fun d => CodePoint.ofNat ('0'.toNat + d))

/-- Whether a character may stand around a number in its ASCII form. -/
def isAsciiSpace (c : CodePoint) : Bool := c == ' ' || ('\t' ≤ c && c ≤ '\r')

/-- A number in its ASCII form, without what stands around it. -/
def bareNumber? (s : Text) : Option Text :=
  (s.mapM asciiForm?).map (fun t => Text.dropEndWhile isAsciiSpace (t.dropWhile isAsciiSpace))

/-- The text without the underscores in it, if each stands between two digits. -/
def dropUnderscores? (digit : CodePoint → Bool) : Text → Option Text
  | [] => some []
  | char '_' :: _ => none
  | c :: char '_' :: d :: rest =>
    if digit c && digit d then (dropUnderscores? digit (d :: rest)).map (c :: ·) else none
  | c :: rest => (dropUnderscores? digit rest).map (c :: ·)

/-! ## Decimal and hexadecimal numbers -/

namespace Text

/-- The number that a text of decimal digits writes, if they are not too many. -/
def toWhole (s : Text) : Except WholeFault Nat :=
  let leading := (s.takeWhile isDecimalDigit).length
  if digitLimit < leading then .error (.tooLong leading)
  else
    match s.toNat? with
    | some n => .ok n
    | none => .error (.notANumber 10 s)

/-- An integer in decimal digits, if they are not too many. -/
def ofWhole (n : Int) : Except TooManyDigits Text :=
  if digitLimit < (ofNat n.natAbs).length then .error ⟨⟩ else .ok (ofInt n)

/-- A hexadecimal number without its sign and the mark of its base, which an underscore may
    follow. -/
def dropBase (s : Text) : Text :=
  let body := (s.dropStart? "+").getD s
  match body with
  | char '0' :: x :: rest =>
    if x = 'x' ∨ x = 'X' then (Text.dropStart? rest "_").getD rest else body
  | _ => body

/-- Whether a character is a hexadecimal digit. -/
def isHexDigit (c : CodePoint) : Bool := (hexValue? c).isSome

/-- The number that hexadecimal digits write, if there are any and nothing else. -/
def hexNumber? (digits : Text) : Option Nat :=
  if digits.isEmpty then none
  else
    digits.foldl (fun n? c => n?.bind (fun n => (hexValue? c).map (16 * n + ·))) (some 0)

/-- The number that a text writes in hexadecimal digits. -/
def toWholeHex (s : Text) : Except WholeFault Nat :=
  let digits? := (bareNumber? s).bind (fun t => dropUnderscores? isHexDigit t.dropBase)
  match digits?.bind hexNumber? with
  | some n => .ok n
  | none => .error (.notANumber 16 s)

end Text

end CompileTrace
