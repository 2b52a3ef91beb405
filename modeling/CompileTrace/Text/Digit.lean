import CompileTrace.Text.Blank

set_option autoImplicit false

/-! # Digits and the numbers they write

Every script's decimal digits stand in ten consecutive code points, in the order of their values.
Other characters are digits too (superscripts, circled digits) but write no decimal number. The
tables follow version 14 of the Unicode character database. -/

namespace CompileTrace

/-- The code points of the zeros of all scripts. -/
def zeroDigits : List Nat :=
  [0x30, 0x660, 0x6F0, 0x7C0, 0x966, 0x9E6, 0xA66, 0xAE6, 0xB66, 0xBE6, 0xC66, 0xCE6, 0xD66,
   0xDE6, 0xE50, 0xED0, 0xF20, 0x1040, 0x1090, 0x17E0, 0x1810, 0x1946, 0x19D0, 0x1A80, 0x1A90,
   0x1B50, 0x1BB0, 0x1C40, 0x1C50, 0xA620, 0xA8D0, 0xA900, 0xA9D0, 0xA9F0, 0xAA50, 0xABF0, 0xFF10,
   0x104A0, 0x10D30, 0x11066, 0x110F0, 0x11136, 0x111D0, 0x112F0, 0x11450, 0x114D0, 0x11650,
   0x116C0, 0x11730, 0x118E0, 0x11950, 0x11C50, 0x11D50, 0x11DA0, 0x16A60, 0x16AC0, 0x16B50,
   0x1D7CE, 0x1D7D8, 0x1D7E2, 0x1D7EC, 0x1D7F6, 0x1E140, 0x1E2F0, 0x1E950, 0x1FBF0]

/-- The code points of the digits that are not decimal digits. -/
def otherDigitRanges : List CodeRange :=
  [(0xB2, 0xB3), (0xB9, 0xB9), (0x1369, 0x1371), (0x19DA, 0x19DA), (0x2070, 0x2070),
   (0x2074, 0x2079), (0x2080, 0x2089), (0x2460, 0x2468), (0x2474, 0x247C), (0x2488, 0x2490),
   (0x24EA, 0x24EA), (0x24F5, 0x24FD), (0x24FF, 0x24FF), (0x2776, 0x277E), (0x2780, 0x2788),
   (0x278A, 0x2792), (0x10A40, 0x10A43), (0x10E60, 0x10E68), (0x11052, 0x1105A),
   (0x1F100, 0x1F10A)]

/-- The value of a decimal digit of any script. -/
def decimalValue? (c : CodePoint) : Option Nat :=
  (zeroDigits.find? (fun z => decide (z ≤ c.toNat) && decide (c.toNat ≤ z + 9))).map
    (fun z => c.toNat - z)

/-- The value of a hexadecimal digit in either case. -/
def hexValue? (c : CodePoint) : Option Nat :=
  if '0' ≤ c ∧ c ≤ '9' then some (c.toNat - '0'.toNat)
  else if 'a' ≤ c ∧ c ≤ 'f' then some (c.toNat - 'a'.toNat + 10)
  else if 'A' ≤ c ∧ c ≤ 'F' then some (c.toNat - 'A'.toNat + 10)
  else none

/-- Whether a character is a decimal digit of any script. -/
def isDecimalDigit (c : CodePoint) : Bool := (decimalValue? c).isSome

/-- Whether a character is a digit of any kind, decimal or not. -/
def isDigit (c : CodePoint) : Bool := isDecimalDigit c || inRanges otherDigitRanges c

theorem decimalValue?_le {c : CodePoint} {d : Nat} (h : decimalValue? c = some d) : d ≤ 9 := by
  obtain ⟨z, hz, rfl⟩ := Option.map_eq_some_iff.1 h
  have := List.find?_some hz
  simp only [Bool.and_eq_true, decide_eq_true_eq] at this
  omega

namespace Text

/-- Whether a text is not empty and has only digits, decimal or not. -/
def isDigits (s : Text) : Bool := !s.isEmpty && s.all isDigit

/-- The number that a text of decimal digits writes; `none` if a character is no decimal digit
    or there is none. -/
def toNat? (s : Text) : Option Nat :=
  if s.isEmpty then none
  else s.foldl (fun n? c => n?.bind (fun n => (decimalValue? c).map (10 * n + ·))) (some 0)

end Text

end CompileTrace
