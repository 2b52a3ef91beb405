import CompileTrace.Text.Blank
import CompileTrace.Text.LetterCase

set_option autoImplicit false

/-! # Switches

An argument that begins with a slash or a hyphen is a switch: a name in any case, a plus or minus
sign at its end or none, and after a colon a value or none. A second slash before any colon makes
the argument a rooted path instead. -/

namespace CompileTrace

/-- A switch as it was given: its name in lower case and without its sign, whether the sign turns
    it off, and the text after the colon. -/
structure Switch where
  name : Text
  enabled : Bool
  value? : Option Text
  deriving DecidableEq, Repr

namespace Switch

/-- The text of a switch before and after its first colon. -/
def cut (body : Text) : Text × Option Text :=
  match body.cutAt? (char ':') with
  | none => (body, none)
  | some (before, after) => (before, some after)

/-- The parts of an argument that is a switch: its name in lower case with its sign, and its
    value. -/
def split? : Text → Option (Text × Option Text)
  | lead :: c :: rest =>
    let parts := cut (c :: rest)
    if lead = '-' then some (parts.1.lower, parts.2)
    else if lead = '/' then
      if parts.1.contains '/' then none else some (parts.1.lower, parts.2)
    else none
  | _ => none

/-- What begins with neither a slash nor a hyphen is no switch. -/
theorem split?_eq_none {argument : Text} (h : ∀ c ∈ argument.head?, c ≠ '/' ∧ c ≠ '-') :
    split? argument = none := by
  match argument with
  | [] => rfl
  | [c] => rfl
  | c :: d :: rest =>
    obtain ⟨hslash, hhyphen⟩ := h c rfl
    simp [split?, hslash, hhyphen]

/-- The switch of a name that may end in a sign, and a value. -/
def ofName (name : Text) (value? : Option Text) : Switch :=
  match name.getLast? with
  | some (char '+') => ⟨name.dropLast, true, value?⟩
  | some (char '-') => ⟨name.dropLast, false, value?⟩
  | _ => ⟨name, true, value?⟩

end Switch

end CompileTrace
