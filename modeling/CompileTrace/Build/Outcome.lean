import CompileTrace.Build.Diagnostic
import CompileTrace.Build.Request
import CompileTrace.Json.Basic
import CompileTrace.Number.Places

set_option autoImplicit false

/-! # How builds end

A build that succeeds leaves a result, one that does not a failure; both carry the output of the
build and the diagnostics read from it. -/

namespace CompileTrace

/-! ## Diagnostics in reports -/

/-- A diagnostic as a JSON value; what it does not have is left out. -/
def Diagnostic.toJson (d : Diagnostic) : Json :=
  .ofMembers
    [("severity", some (.text d.severity.name)),
     ("code", some (.text d.code)),
     ("message", some (.text d.message)),
     ("file", (d.file?.filter (fun f => !f.isEmpty)).map .text),
     ("line", d.line?.map .int),
     ("column", d.column?.map .int),
     ("project", (d.project?.filter (fun p => !p.isEmpty)).map .text)]

/-- The diagnostics of one severity. -/
def ofSeverity (severity : Severity) (diagnostics : List Diagnostic) : List Diagnostic :=
  diagnostics.filter (fun d => d.severity = severity)

/-! ## Results -/

/-- What a successful build leaves: the log that records it, what was built and how, the exit code,
    the output with its diagnostics, and how long it took. -/
structure BuildResult where
  log : Text
  target : Text
  properties : Properties
  exitCode : Int
  output : Text
  diagnostics : List Diagnostic
  milliseconds : Float
  deriving DecidableEq, Repr

namespace BuildResult

/-- The result with the diagnostics of its output, unless it has some already. -/
def withDiagnostics (result : BuildResult) : Except DiagnosticFault BuildResult :=
  if result.diagnostics.isEmpty then
    (Diagnostic.ofOutput result.output).map (fun ds => { result with diagnostics := ds })
  else .ok result

/-- The warnings of the build. -/
def warnings (result : BuildResult) : List Diagnostic := ofSeverity .warning result.diagnostics

/-- The result as a JSON value. -/
def toJson (result : BuildResult) : Json :=
  .ofMembers
    [("targetPath", some (.text result.target)),
     ("properties", some (.object (result.properties.map (fun p => (p.1, .text p.2))))),
     ("exitCode", some (.int result.exitCode)),
     ("warningCount", some (.int result.warnings.length)),
     ("durationMs", some (.real (roundToPlaces 2 result.milliseconds))),
     ("diagnostics",
       if result.diagnostics.isEmpty then none
       else some (.array (result.diagnostics.map Diagnostic.toJson)))]

/-- How many warnings a summary shows. -/
def shownWarnings : Nat := 5

/-- The lines of a summary about warnings: their number, the first few, and how many more there
    are. -/
def warningLines (warnings : List Diagnostic) : Except TooManyDigits (List Text) := do
  let count : List Text := ["  Warnings: " ++ Text.ofNat warnings.length]
  let texts ← (warnings.take shownWarnings).mapM Diagnostic.shown
  let shown : List Text := texts.map (fun text => "    " ++ text)
  let more : List Text :=
    ["    ... and " ++ Text.ofNat (warnings.length - shownWarnings) ++ " more warnings"]
  .ok ((if warnings.isEmpty then [] else count) ++ shown
    ++ (if warnings.length ≤ shownWarnings then [] else more))

/-- The lines of a summary about the build itself. -/
def headLines (result : BuildResult) : List Text :=
  ["[OK] Build succeeded",
   "  Target: " ++ result.target,
   "  Configuration: " ++ (result.properties.get? "Configuration").getD [],
   "  Platform: " ++ (result.properties.get? "Platform").getD [],
   "  Duration: " ++ wholeText result.milliseconds ++ "ms"]

/-- The result in lines for a reader, if the warnings can be shown. -/
def summary (result : BuildResult) : Except TooManyDigits Text :=
  (warningLines result.warnings).map (fun lines => Text.unlines (result.headLines ++ lines))

end BuildResult

/-! ## Failures -/

/-- What a build that did not succeed leaves. -/
structure BuildFailure where
  message : Text
  output : Text
  exitCode? : Option Int
  diagnostics : List Diagnostic
  deriving DecidableEq, Repr

namespace BuildFailure

/-- A failure with the diagnostics of its output. -/
def ofOutput (message output : Text) (exitCode? : Option Int) :
    Except DiagnosticFault BuildFailure :=
  (Diagnostic.ofOutput output).map (fun ds => ⟨message, output, exitCode?, ds⟩)

/-- The errors of the build. -/
def errors (failure : BuildFailure) : List Diagnostic := ofSeverity .error failure.diagnostics

/-- The failure as a JSON value. -/
def toJson (failure : BuildFailure) : Json :=
  .ofMembers
    [("error", some (.text failure.message)),
     ("output", some (.text failure.output)),
     ("diagnostics", some (.array (failure.diagnostics.map Diagnostic.toJson))),
     ("exitCode", failure.exitCode?.map .int)]

end BuildFailure

end CompileTrace
