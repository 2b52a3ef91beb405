import CompileTrace.Number.Double
import CompileTrace.Text.Blank

set_option autoImplicit false

/-! # The shortest decimal of a double

Of the decimals that read back as a double the one with the fewest digits is taken, and of several
with as few digits the nearest. The reals that read back as a double form an interval around it,
whose ends belong to it when the significand is even. For each number of digits the two
neighbours of the value on the grid of such decimals are tried. -/

namespace CompileTrace.Shortest

/-- A decimal: digits as a number, and the power of ten that they are times. -/
structure Decimal where
  digits : Nat
  exponent : Int
  deriving DecidableEq, Repr

/-- The least `n`, counted from `from`, with `den ≤ num * 10 ^ n`, if the fuel lets it be found. -/
def zerosBefore (num den : Nat) : Nat → Nat → Nat
  | 0, n => n
  | fuel + 1, n => if den ≤ num * Nat.pow 10 n then n else zerosBefore num den fuel (n + 1)

/-- The power of ten that the first digit of a positive fraction stands for. -/
def leadingExponent (f : Fraction) : Int :=
  if f.den ≤ f.num then ((Nat.toDigits 10 (f.num / f.den)).length : Int) - 1
  else -(zerosBefore f.num f.den 400 1 : Int)

/-- The reals that read back as a significand times a power of two, four times as fine: their
    lower and upper end. Below the least significand of an exponent the doubles lie twice as
    close. -/
def interval (significand : Nat) (exponent : Int) : Nat × Nat :=
  let lower :=
    if significand = DoubleValue.leastSignificand ∧ DoubleValue.leastExponent < exponent then
      4 * significand - 1
    else 4 * significand - 2
  (lower, 4 * significand + 2)

/-- The decimal of a given power of ten that is nearest to the value and reads back as it, if one
    does. -/
def onGrid? (significand : Nat) (exponent grid : Int) : Option Decimal :=
  let ends := interval significand exponent
  let value := Fraction.scaled (4 * significand) (exponent - 2) (-grid)
  let lower := (Fraction.scaled ends.1 (exponent - 2) (-grid)).num
  let upper := (Fraction.scaled ends.2 (exponent - 2) (-grid)).num
  let reads := fun (d : Nat) =>
    if significand % 2 = 0 then lower ≤ d * value.den && d * value.den ≤ upper
    else lower < d * value.den && d * value.den < upper
  let below := value.num / value.den
  let nearest := value.round
  let other := if nearest = below then below + 1 else below
  if reads nearest then some ⟨nearest, grid⟩
  else if reads other then some ⟨other, grid⟩
  else none

/-- The first grid with a decimal that reads back, trying ever more digits. -/
def search (significand : Nat) (exponent leading : Int) : Nat → Int → Decimal
  | 0, _ => ⟨significand, exponent⟩
  | fuel + 1, count =>
    match onGrid? significand exponent (leading - count) with
    | some d => d
    | none => search significand exponent leading fuel (count + 1)

/-- The shortest decimal of a positive significand times a power of two. -/
def decimal (significand : Nat) (exponent : Int) : Decimal :=
  search significand exponent (leadingExponent (Fraction.scaled significand exponent 0)) 18 0

/-! ## Written form -/

/-- The digits of a decimal without the zeros at their end, and how many digits stand before the
    point. -/
def Decimal.layout (d : Decimal) : Text × Int :=
  let all := Text.ofNat d.digits
  let kept := Text.dropEndWhile (· = char '0') all
  (kept, all.length + d.exponent)

/-- Digits with a point after a given number of them, which may lie outside of them. -/
def positional (digits : Text) (point : Int) : Text :=
  if point ≤ 0 then "0." ++ List.replicate (-point).toNat (char '0') ++ digits
  else if digits.length ≤ point.toNat then
    digits ++ List.replicate (point.toNat - digits.length) (char '0') ++ ".0"
  else digits.take point.toNat ++ "." ++ digits.drop point.toNat

/-- Digits with a point after the first and a power of ten of two figures at least. -/
def scientific (digits : Text) (point : Int) : Text :=
  let power := point - 1
  let sign : Text := if power < 0 then "-" else "+"
  let fraction : Text := if digits.length ≤ 1 then [] else char '.' :: digits.drop 1
  digits.take 1 ++ fraction ++ "e" ++ sign ++ Text.padZeros 2 (Text.ofNat power.natAbs)

/-- The digits of a positive double: positional from `0.0001` up to sixteen digits before the
    point, with at least one digit after it. -/
def magnitude (significand : Nat) (exponent : Int) : Text :=
  if significand = 0 then "0.0"
  else
    let parts := (decimal significand exponent).layout
    if -4 < parts.2 ∧ parts.2 ≤ 16 then positional parts.1 parts.2
    else scientific parts.1 parts.2

/-- A sign before the text of a negative number. -/
def signed (negative : Bool) (s : Text) : Text := if negative then char '-' :: s else s

end CompileTrace.Shortest

namespace CompileTrace

/-- The words for the doubles that are no finite number. -/
structure NonFinite where
  notANumber : Text
  infinite : Text

/-- The shortest text that reads back as a double. -/
def Text.ofFloat (words : NonFinite) (x : Float) : Text :=
  match DoubleValue.ofFloat x with
  | .notANumber => words.notANumber
  | .infinite negative => Shortest.signed negative words.infinite
  | .finite negative significand exponent =>
    Shortest.signed negative (Shortest.magnitude significand exponent)

/-- The words that messages use. -/
def NonFinite.plain : NonFinite := ⟨"nan", "inf"⟩

end CompileTrace
