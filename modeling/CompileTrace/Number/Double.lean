import CompileTrace.Text.Basic

set_option autoImplicit false

/-! # Doubles as exact numbers

A double is no number, infinite, or a natural number times a power of two with a sign. Everything
that is asked of its value (its decimal digits, its roundings) is computed exactly on those
natural numbers. -/

namespace CompileTrace

/-- What a double stands for. The finite value is the significand times two to the power of the
    exponent. -/
inductive DoubleValue
  | notANumber
  | infinite (negative : Bool)
  | finite (negative : Bool) (significand : Nat) (exponent : Int)
  deriving DecidableEq, Repr

namespace DoubleValue

/-- The least exponent that a double has. -/
def leastExponent : Int := -1074

/-- Two to the power of fifty-two, which the significand of a double is not less than unless its
    exponent is the least. -/
def leastSignificand : Nat := 0x10000000000000

/-- What the bits of a double stand for: a sign bit, eleven bits of exponent and fifty-two bits of
    fraction. -/
def ofBits (bits : Nat) : DoubleValue :=
  let negative := bits >>> 63 % 2 == 1
  let biased : Nat := bits >>> 52 % 2048
  let fraction : Nat := bits % leastSignificand
  if biased = 2047 then if fraction = 0 then infinite negative else notANumber
  else if biased = 0 then finite negative fraction leastExponent
  else finite negative (leastSignificand + fraction) (leastExponent + biased - 1)

/-- What a double stands for. -/
def ofFloat (x : Float) : DoubleValue := ofBits x.toBits.toNat

end DoubleValue

/-! ## Fractions -/

/-- A fraction of natural numbers, the second one positive. -/
structure Fraction where
  num : Nat
  den : Nat
  den_pos : 0 < den

namespace Fraction

/-- A natural number times powers of two and ten, either of which may be negative. -/
def scaled (n : Nat) (two ten : Int) : Fraction where
  num := n * Nat.pow 2 two.toNat * Nat.pow 10 ten.toNat
  den := Nat.pow 2 (-two).toNat * Nat.pow 10 (-ten).toNat
  den_pos := Nat.mul_pos (Nat.pow_pos (by decide)) (Nat.pow_pos (by decide))

/-- The nearest natural number to a fraction; of two, the even one. -/
def round (f : Fraction) : Nat :=
  let quotient := f.num / f.den
  let rest := f.num % f.den
  if 2 * rest < f.den then quotient
  else if f.den < 2 * rest then quotient + 1
  else if quotient % 2 = 0 then quotient
  else quotient + 1

/-- The rounding is within half a unit of the fraction. -/
theorem round_near (f : Fraction) :
    2 * f.num ≤ 2 * (f.round * f.den) + f.den ∧ 2 * (f.round * f.den) ≤ 2 * f.num + f.den := by
  have h := Nat.div_add_mod f.num f.den
  have hlt := Nat.mod_lt f.num f.den_pos
  rw [Nat.mul_comm] at h
  simp only [round]
  split
  · omega
  · split
    · rw [Nat.add_mul]; omega
    · split
      · omega
      · rw [Nat.add_mul]; omega

end Fraction

/-! ## Reading decimals -/

/-- The double nearest to a natural number times a power of ten, with a sign. A number with more
    digits than any double has is infinite and one with too many zeros is zero, whatever else it
    holds. -/
def doubleOfDecimal (negative : Bool) (digits : Nat) (exponent : Int) : Float :=
  let size : Int := (Nat.toDigits 10 digits).length + exponent
  let x : Float :=
    if digits = 0 then 0.0
    else if size > 400 then Float.ofBits 0x7FF0000000000000
    else if size < -400 then 0.0
    else Float.ofScientific digits (exponent < 0) exponent.natAbs
  if negative then -x else x

end CompileTrace
