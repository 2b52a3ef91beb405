import CompileTrace.Json.Basic
import CompileTrace.Number.Decimal
import CompileTrace.Text.Digit

set_option autoImplicit false

/-! # Reading JSON

A text is read from its start to its end, and the first thing that does not fit is the fault. A
number may have only so many digits and values may lie in one another only so deep. The readers of
nested values take fuel, which the length of the text always provides. -/

namespace CompileTrace

/-- What a JSON text has too much of to be read: digits in a number, or values one in the other. -/
inductive JsonLimit
  | digits (count : Nat)
  | arrayDepth
  | objectDepth
  deriving DecidableEq, Repr

namespace JsonLimit

/-- How it is told that a value of some kind lies too deep. -/
def depthMessage (kind : Text) : Text :=
  "maximum recursion depth exceeded while decoding a JSON " ++ kind ++ " from a unicode string"

/-- The limit in words. -/
def message : JsonLimit → Text
  | digits count => (WholeFault.tooLong count).message
  | arrayDepth => depthMessage "array"
  | objectDepth => depthMessage "object"

end JsonLimit

/-- What does not fit in a JSON text. -/
inductive JsonFault
  | value
  | propertyName
  | colon
  | comma
  | extraData
  | unterminatedString
  | controlCharacter
  | escape
  | unicodeEscape
  | byteOrderMark
  | beyond (limit : JsonLimit)
  deriving DecidableEq, Repr

/-- The fault in words. -/
def JsonFault.message : JsonFault → Text
  | .value => "Expecting value"
  | .propertyName => "Expecting property name enclosed in double quotes"
  | .colon => "Expecting ':' delimiter"
  | .comma => "Expecting ',' delimiter"
  | .extraData => "Extra data"
  | .unterminatedString => "Unterminated string starting at"
  | .controlCharacter => "Invalid control character at"
  | .escape => "Invalid \\escape"
  | .unicodeEscape => "Invalid \\uXXXX escape"
  | .byteOrderMark => "Unexpected UTF-8 BOM (decode using utf-8-sig)"
  | .beyond limit => limit.message

namespace Json

/-- Whether a character may stand between the parts of a JSON text. -/
def isSpace (c : CodePoint) : Bool := c == ' ' || c == '\t' || c == '\n' || c == '\r'

/-- The text from its first character that is no space. -/
def skipSpace (s : Text) : Text := s.dropWhile isSpace

/-! ## Strings -/

/-- The number that four hexadecimal digits write, and the text after them. -/
def hexUnit? : Text → Option (Nat × Text)
  | a :: b :: c :: d :: rest => do
    let a ← hexValue? a
    let b ← hexValue? b
    let c ← hexValue? c
    let d ← hexValue? d
    some (((a * 16 + b) * 16 + c) * 16 + d, rest)
  | _ => none

/-- The second half of a surrogate pair after the first, if it is there with text after it: its
    number and the text after it; an escape that should be one but is misspelt is a fault. -/
def lowHalf? (s : Text) : Except JsonFault (Option (Nat × Text)) :=
  match s with
  | char '\\' :: char 'u' :: rest =>
    if rest.length ≤ 4 then .ok none
    else match hexUnit? rest with
      | none => .error .unicodeEscape
      | some (n, after) =>
        if 0xDC00 ≤ n ∧ n ≤ 0xDFFF then .ok (some (n, after)) else .ok none
  | _ => .ok none

/-- The character that an escape by number stands for, and the text after it. Some text must
    follow. -/
def unicodeEscape (s : Text) : Except JsonFault (CodePoint × Text) :=
  match hexUnit? s with
  | none => .error .unicodeEscape
  | some (_, []) => .error .unicodeEscape
  | some (n, rest) =>
    if 0xD800 ≤ n ∧ n ≤ 0xDBFF then
      match lowHalf? rest with
      | .error fault => .error fault
      | .ok none => .ok (CodePoint.ofNat n, rest)
      | .ok (some (low, after)) =>
        .ok (CodePoint.ofNat (0x10000 + (n - 0xD800) * 0x400 + (low - 0xDC00)), after)
    else .ok (CodePoint.ofNat n, rest)

/-- The character of an escape by letter. -/
def letterEscape? (c : CodePoint) : Option CodePoint :=
  ([('"', '"'), ('\\', '\\'), ('/', '/'), ('b', '\x08'), ('f', '\x0c'), ('n', '\n'), ('r', '\r'),
    ('t', '\t')] : List (CodePoint × CodePoint)).lookup c

/-- The next character of a string and the text after it; no character if the string ends. -/
def stringChar : Text → Except JsonFault (Option CodePoint × Text)
  | [] => .error .unterminatedString
  | char '\\' :: rest =>
    match rest with
    | [] => .error .unterminatedString
    | char 'u' :: digits => (unicodeEscape digits).map (fun r => (some r.1, r.2))
    | c :: after =>
      match letterEscape? c with
      | some e => .ok (some e, after)
      | none => .error .escape
  | c :: rest =>
    if c = '"' then .ok (none, rest)
    else if c.toNat ≤ 0x1F then .error .controlCharacter
    else .ok (some c, rest)

/-- The characters of a string up to its closing quote, after those found, which stand back to
    front. -/
def readChars : Nat → Text → Text → Except JsonFault (Text × Text)
  | 0, _, _ => .error .unterminatedString
  | fuel + 1, found, s =>
    match stringChar s with
    | .error fault => .error fault
    | .ok (none, rest) => .ok (found.reverse, rest)
    | .ok (some c, rest) => readChars fuel (c :: found) rest

/-- A string after its opening quote, and the text after it. -/
def readString (s : Text) : Except JsonFault (Text × Text) := readChars (s.length + 1) [] s

/-! ## Numbers -/

/-- The digits of the fraction after a point, if there are any, and the text after them. -/
def readFraction (s : Text) : Text × Text :=
  match s with
  | char '.' :: rest =>
    match rest.span CodePoint.isDigit with
    | ([], _) => ([], s)
    | (digits, after) => (digits, after)
  | _ => ([], s)

/-- The exponent after its letter, if it has digits, and the text after it. -/
def readExponent (s : Text) : Option Int × Text :=
  match s with
  | e :: rest =>
    if e = 'e' ∨ e = 'E' then
      let sign := splitSign rest
      match sign.2.span CodePoint.isDigit with
      | ([], _) => (none, s)
      | (digits, after) =>
        (some (if sign.1 then -(digitsNumber digits : Int) else digitsNumber digits), after)
    else (none, s)
  | [] => (none, s)

/-- The digits before the point: a zero, or digits that begin with another. -/
def readWhole? : Text → Option (Text × Text)
  | char '0' :: rest => some ([char '0'], rest)
  | s =>
    match s.span CodePoint.isDigit with
    | ([], _) => none
    | (digits, after) => some (digits, after)

/-- A number without its sign, and the text after it. -/
def readNumber (negative : Bool) (s : Text) : Except JsonFault (Json × Text) :=
  match readWhole? s with
  | none => .error .value
  | some (whole, rest) =>
    let (fraction, rest) := readFraction rest
    let (exponent?, rest) := readExponent rest
    if fraction.isEmpty && exponent?.isNone then
      if digitLimit < whole.length then .error (.beyond (.digits whole.length))
      else
        let n : Int := digitsNumber whole
        .ok (.int (if negative then -n else n), rest)
    else
      let exponent := exponent?.getD 0 - fraction.length
      .ok (.real (doubleOfDecimal negative (digitsNumber (whole ++ fraction)) exponent), rest)

/-! ## Values -/

/-- The words that are values. -/
def words : List (Text × Json) :=
  [("null", .null), ("true", .bool true), ("false", .bool false),
   ("NaN", .real (0.0 / 0.0)), ("Infinity", .real (1.0 / 0.0)), ("-Infinity", .real (-1.0 / 0.0))]

/-- The value of a word that a text begins with, and the text after it. -/
def readWord? (s : Text) : Option (Json × Text) :=
  words.findSome? (fun word => (s.dropStart? word.1).map (fun rest => (word.2, rest)))

mutual

/-- A value and the text after it, given how many levels of values may still open. -/
def readValue : Nat → Nat → Text → Except JsonFault (Json × Text)
  | 0, _, _ => .error .value
  | fuel + 1, levels, s =>
    match readWord? s with
    | some found => .ok found
    | none =>
      match s, levels with
      | char '"' :: rest, _ => (readString rest).map (fun r => (.text r.1, r.2))
      | char '\x7b' :: _, 0 => .error (.beyond .objectDepth)
      | char '\x7b' :: rest, levels + 1 =>
        match skipSpace rest with
        | char '\x7d' :: after => .ok (.object [], after)
        | more => readMembers fuel levels [] more
      | char '[' :: _, 0 => .error (.beyond .arrayDepth)
      | char '[' :: rest, levels + 1 =>
        match skipSpace rest with
        | char ']' :: after => .ok (.array [], after)
        | more => readItems fuel levels [] more
      | char '-' :: rest, _ => readNumber true rest
      | _, _ => readNumber false s

/-- The members of an object from the name of the next one, after those found. -/
def readMembers : Nat → Nat → Table Json → Text → Except JsonFault (Json × Text)
  | 0, _, _, _ => .error .value
  | fuel + 1, levels, found, s =>
    match s with
    | char '"' :: rest =>
      match readString rest with
      | .error fault => .error fault
      | .ok (name, rest) =>
        match skipSpace rest with
        | char ':' :: rest =>
          match readValue fuel levels (skipSpace rest) with
          | .error fault => .error fault
          | .ok (value, rest) =>
            match skipSpace rest with
            | char '\x7d' :: after => .ok (.object (found.put name value), after)
            | char ',' :: rest => readMembers fuel levels (found.put name value) (skipSpace rest)
            | _ => .error .comma
        | _ => .error .colon
    | _ => .error .propertyName

/-- The items of an array from the next one, after those found, which stand back to front. -/
def readItems : Nat → Nat → List Json → Text → Except JsonFault (Json × Text)
  | 0, _, _, _ => .error .value
  | fuel + 1, levels, found, s =>
    match readValue fuel levels s with
    | .error fault => .error fault
    | .ok (item, rest) =>
      match skipSpace rest with
      | char ']' :: after => .ok (.array (item :: found).reverse, after)
      | char ',' :: rest => readItems fuel levels (item :: found) (skipSpace rest)
      | _ => .error .comma

end

/-- The value that a whole text writes, where so many arrays and objects may lie one in the
    other. -/
def read (levels : Nat) (s : Text) : Except JsonFault Json :=
  if s.head? = some (char '\uFEFF') then .error .byteOrderMark
  else
    match readValue (s.length + 1) levels (skipSpace s) with
    | .error fault => .error fault
    | .ok (value, rest) =>
      if (skipSpace rest).isEmpty then .ok value else .error .extraData

end Json

end CompileTrace
