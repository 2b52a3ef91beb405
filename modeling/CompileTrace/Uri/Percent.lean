import CompileTrace.Text.Digit
import CompileTrace.Text.Utf8

set_option autoImplicit false

/-! # Percent escapes

In a URI a byte may be written as a percent sign and two hexadecimal digits. Each run of ASCII
characters is read as bytes, which are then read as UTF-8; other characters stand for
themselves. -/

namespace CompileTrace.Uri

/-- The bytes that ASCII text writes; a percent sign without two digits after it stands for
    itself. -/
def percentBytes : Text → Bytes
  | [] => []
  | char '%' :: a :: b :: rest =>
    match hexValue? a, hexValue? b with
    | some x, some y => UInt8.ofNat (16 * x + y) :: percentBytes rest
    | _, _ => UInt8.ofNat '%'.toNat :: percentBytes (a :: b :: rest)
  | c :: rest => UInt8.ofNat c.toNat :: percentBytes rest

/-- Whether a character is an ASCII character. -/
def isAscii (c : CodePoint) : Bool := c.toNat < 0x80

/-- The text that a run of characters writes, all of them ASCII characters or none. -/
def decodeRun (run : Text) : Text :=
  if run.all isAscii then Utf8.decodeLossy (percentBytes run) else run

/-- The text with its percent escapes read. -/
def decode (s : Text) : Text := (s.splitBy (fun a b => isAscii a == isAscii b)).flatMap decodeRun

end CompileTrace.Uri
