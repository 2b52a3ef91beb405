import CompileTrace.Number.Shortest

set_option autoImplicit false

/-! # Rounding a double to decimal places

The exact value of the double is rounded, a tie going to the even neighbour. -/

namespace CompileTrace

/-- A positive double in units of the last of some decimal places. -/
def unitsOf (places significand : Nat) (exponent : Int) : Nat :=
  (Fraction.scaled significand exponent places).round

/-- A double rounded to decimal places. -/
def roundToPlaces (places : Nat) (x : Float) : Float :=
  match DoubleValue.ofFloat x with
  | .finite negative significand exponent =>
    doubleOfDecimal negative (unitsOf places significand exponent) (-(places : Int))
  | _ => x

/-- A double rounded to a whole number, as text; the sign of a negative number stays, also before
    a zero. -/
def wholeText (x : Float) : Text :=
  match DoubleValue.ofFloat x with
  | .finite negative significand exponent =>
    Shortest.signed negative (Text.ofNat (unitsOf 0 significand exponent))
  | _ => Text.ofFloat .plain x

end CompileTrace
