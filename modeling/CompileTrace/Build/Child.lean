import CompileTrace.Build.Session

set_option autoImplicit false

/-! # Running builds to their end

What a build's process does from its launch to its end: the bytes that it writes to its two
streams, the code that it ends with, what becomes of its log, and how long it takes. -/

namespace CompileTrace

/-- What a process does. -/
structure Child where
  stdout : Bytes
  stderr : Bytes
  exitCode : Int
  file? : Option LogFile
  seconds : Float

namespace Child

/-- The lines that a process writes in the order in which they are read: first those of one stream,
    then those of the other, and when the process has ended the lines that were left open. -/
def lines (readLimit : Nat) (child : Child) : List Text :=
  let (output, openOutput) := splitOpenLine readLimit child.stdout
  let (errors, openErrors) := splitOpenLine readLimit child.stderr
  [output, errors, openOutput, openErrors].flatMap (streamLines readLimit)

/-- The events of a process that writes its lines. -/
def writing (readLimit : Nat) (child : Child) : List SessionEvent :=
  .launch :: (child.lines readLimit).map .line

/-- The events of a process up to its end, within the time that it may take. -/
def events (readLimit : Nat) (child : Child) (timeout? : Option Timeout) : List SessionEvent :=
  match timeout? with
  | none => child.writing readLimit ++ [.finish child.exitCode child.file?]
  | some timeout =>
    if timeout.fault?.isSome || timeout.isExceededBy child.seconds then
      [.launch, .leave child.file?, .expire]
    else child.writing readLimit ++ [.finish child.exitCode child.file?]

/-- The exit code of a process that is killed. -/
def killedCode : Int := -9

end Child

namespace Session

/-- The events of a process that is run for the build whose turn it is; without such a build there
    are none. -/
def childEvents (readLimit : Nat) (child : Child) (s : Session) : List SessionEvent :=
  match s.running? with
  | none => []
  | some r => child.events readLimit r.job.timeout?

/-- The session after the build whose turn it is has run to its end. -/
def runCurrent (setup : BuildSetup) (readLimit : Nat) (child : Child) (s : Session) : Session :=
  s.run setup (s.childEvents readLimit child)

/-- The session after the builds that are running or wait have run to their end, one after the
    other; the fuel counts their turns and ends. -/
def runAll (setup : BuildSetup) (readLimit : Nat) (child : Job → Child) : Nat → Session → Session
  | 0, s => s
  | fuel + 1, s =>
    match s.running?, s.waiting with
    | some r, _ => runAll setup readLimit child fuel (s.runCurrent setup readLimit (child r.job))
    | none, _ :: _ => runAll setup readLimit child fuel (s.proceed setup)
    | none, [] => s

/-- The session after a build was asked for and, if it takes its turn at once, run to its end. -/
def build (setup : BuildSetup) (readLimit : Nat) (child : Child) (request : BuildRequest)
    (s : Session) : Session := (s.submit setup request).runCurrent setup readLimit child

end Session

end CompileTrace
