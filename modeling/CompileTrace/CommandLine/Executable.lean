import CompileTrace.CommandLine.Token

set_option autoImplicit false

/-! # The executable on a command line

A recorded command line may name the compiler's executable, with arguments of its own, before the
compiler's options. The first option is told by its slash after a space. -/

namespace CompileTrace

/-- The rest of a command line from the first slash that stands after a space, if there is one. -/
def fromFirstOption? : Text → Option Text
  | [] => none
  | char ' ' :: char '/' :: rest => some (char '/' :: rest)
  | _ :: rest => fromFirstOption? rest

/-- The command line without what stands before its first option. -/
def dropExecutable (commandLine : Text) : Text :=
  (fromFirstOption? commandLine).getD commandLine

end CompileTrace
