import CompileTrace.Number.Shortest
import CompileTrace.Number.Whole

set_option autoImplicit false

/-! # Timeouts

How long a build may take is given in seconds, as a whole number or a double, and is told in the
form in which it was given. What else may be given for it cannot be waited for. -/

namespace CompileTrace

/-- What was given for a number of seconds: a number, or something else of a kind with a name. -/
inductive Timeout
  | whole (seconds : Int)
  | real (seconds : Float)
  | other (kind : Text)
  deriving DecidableEq, Repr

/-- Why a build that runs cannot be waited for: its timeout is no number, or a whole number above
    all doubles, or one that has passed but cannot be told, or its output cannot be read on, for a
    reason in words. -/
inductive WaitFault
  | notANumber (kind : Text)
  | tooLarge
  | untellable (fault : TooManyDigits)
  | unreadable (reason : Text)
  deriving DecidableEq, Repr

/-- The fault in words. -/
def WaitFault.message : WaitFault → Text
  | notANumber kind => "'<=' not supported between instances of '" ++ kind ++ "' and 'int'"
  | tooLarge => "int too large to convert to float"
  | untellable fault => fault.message
  | unreadable reason => reason

namespace Timeout

/-- The seconds as text, if they can be written. -/
def text : Timeout → Except TooManyDigits Text
  | whole seconds => Text.ofWhole seconds
  | real seconds => .ok (Text.ofFloat .plain seconds)
  | other kind => .ok kind

/-- The seconds as a double; what is no number counts as nothing. -/
def toFloat : Timeout → Float
  | whole seconds => Float.ofInt seconds
  | real seconds => seconds
  | other _ => 0.0

/-- Why a timeout cannot be waited for, if it cannot. -/
def fault? : Timeout → Option WaitFault
  | whole seconds => if (Float.ofInt seconds).isInf && 0 < seconds then some .tooLarge else none
  | real _ => none
  | other kind => some (.notANumber kind)

/-- Whether a build that takes some seconds takes too long: it does unless the timeout is positive
    and longer. One that may take no time always does, and so does one whose timeout is no
    number. -/
def isExceededBy (timeout : Timeout) (seconds : Float) : Bool :=
  !(0.0 < timeout.toFloat && seconds < timeout.toFloat)

end Timeout

end CompileTrace
