import CompileTrace.Text.Basic

set_option autoImplicit false

/-! # Invocations

A recorded build knows each run of a compiler: in which language, for which project, and with which
command line. -/

namespace CompileTrace

/-- One run of a compiler. -/
structure Invocation where
  language : Text
  projectFile : Text
  projectDirectory : Text
  commandLine : Text
  deriving DecidableEq, Repr

/-- The language whose compilers are captured unless another is asked for. -/
def csharp : Text := "C#"

end CompileTrace
