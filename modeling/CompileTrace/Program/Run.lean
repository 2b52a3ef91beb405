import CompileTrace.Program.Options
import CompileTrace.Service.Basic

set_option autoImplicit false

/-! # Runs of the program

A run does one of three things. Given a dump it assembles it, given a path it builds and captures
what is there, and in both cases it prints the capture in short and ends. Given neither it serves
until its client leaves. What it tells its user on the way is logged. -/

namespace CompileTrace

/-! ## What a run leaves -/

/-- How much a logged message matters. -/
inductive LogLevel
  | info
  | warning
  | error
  deriving DecidableEq, Repr

/-- The name of a level. -/
def LogLevel.name : LogLevel → Text
  | .info => "INFO"
  | .warning => "WARNING"
  | .error => "ERROR"

/-- A logged message. -/
abbrev LogRecord := LogLevel × Text

/-- What ends a run before it has an exit code. -/
inductive RunFault
  | usage (stop : OptionStop)
  | path (error : FileError)
  | reader (error : ReaderError)
  | capture (error : CaptureError)
  /-- What was built cannot be told in short. -/
  | summary (fault : TooManyDigits)
  /-- The property at a place among those given has neither name nor value. -/
  | emptyProperty (place : Nat)
  /-- No build tool is named. -/
  | emptyTool
  /-- The connection to the client broke, for a reason in words. -/
  | connection (reason : Text)
  deriving DecidableEq, Repr

/-- The fault in words. -/
def RunFault.message : RunFault → Text
  | usage stop => stop.line
  | path error => error.message
  | reader error => error.message
  | capture error => error.message
  | summary fault => fault.message
  | emptyProperty place =>
    "dictionary update sequence element #" ++ Text.ofNat place ++ " has length 0; 2 is required"
  | emptyTool => "sequence item 0: expected str instance, list found"
  | connection reason => reason

/-- How a run ends, what it prints, what it logs, how it set the project root up, and the logs that
    its build left behind. -/
structure RunReport where
  ending : Except RunFault Nat
  printed : Text
  logged : List LogRecord
  settings : RootSettings
  logs : Table LogFile

namespace RunReport

/-- The exit code of a run that did what it was asked to do. -/
def successCode : Nat := 0

/-- The exit code of a run that did not. -/
def failureCode : Nat := 1

/-- A run that ends with a code and logs some messages. -/
def ofCode (code : Nat) (logged : List LogRecord) : RunReport := ⟨.ok code, [], logged, .none, []⟩

/-- A run that ends because it cannot do what it was asked to do. -/
def refused (message : Text) : RunReport := ofCode failureCode [(.error, message)]

/-- A run that a fault ends. -/
def broken (fault : RunFault) : RunReport := ⟨.error fault, [], [], .none, []⟩

/-- The report with some messages logged before the others. -/
def after (logged : List LogRecord) (report : RunReport) : RunReport :=
  { report with logged := logged ++ report.logged }

end RunReport

/-! ## Errors that are told -/

/-- Whether a run tells an error of an assembly and ends with a code. What can be no path,
    bytes that are no text, values that are of the wrong kind or beyond a limit and identities that
    come twice end it as faults. -/
def AssemblyError.isTold : AssemblyError → Bool
  | .dump (.unreadable _ (.unusable _)) => false
  | .dump (.undecodable _) => false
  | .dump (.beyond _) => false
  | .kind _ => false
  | .reference (.unreadable _ (.unusable _)) => false
  | .source (.unreadable _ (.unusable _)) => false
  | .duplicate _ => false
  | _ => true

/-- Whether a run tells an error and ends with a code. -/
def CaptureError.isTold : CaptureError → Bool
  | .build (.output _) => false
  | .build (.timeout _) => false
  | .build (.log _) => false
  | .build (.escaped _ _) => false
  | .build .withdrawn => false
  | .build _ => true
  | .unfinished => true
  | .assembly error => error.isTold
  | .removal _ => false

/-! ## Runs -/

/-- What a run works with: the disk, the environment, the directory for logs, what is in the way of
    running a program that the system looks for, how many values may lie one in the other in a dump,
    the modules that readers may stand in, what a build does if it runs one, and what breaks the
    connection to its client if anything does. -/
structure Program where
  disk : Disk
  environment : Environment
  logDirectory : Text
  search : Text → Option FileFault
  depth : Nat
  modules : List ReaderModule
  child : Child
  brokenBy? : Option Text

namespace Program

/-- The report on a capture or on why there is none. -/
def report (made : Except CaptureError Capture) : RunReport :=
  match made with
  | .ok capture =>
    match capture.build?.mapM BuildResult.summary with
    | .error fault => RunReport.broken (.summary fault)
    | .ok summary? =>
      let logged := summary?.map (fun summary => (LogLevel.info, summary))
      { RunReport.ofCode RunReport.successCode logged.toList with
        printed := capture.toJson.toLines ++ [char '\n'] }
  | .error error =>
    if error.isTold then RunReport.refused error.message else RunReport.broken (.capture error)

/-- Assembles a dump. -/
def runAssembly (p : Program) (path : Text) : RunReport :=
  let assembler : Assembler := ⟨p.disk, p.disk.loader, csharp⟩
  let assembled := (assembler.assemble (p.disk.readDump p.depth path) .initial).1
  report ((assembled.map (fun a => (⟨a, none⟩ : Capture))).mapError .assembly)

/-- How builds are run with some options. -/
def setup (p : Program) (o : Options) : BuildSetup :=
  ⟨p.disk, ⟨o.dotnet, BuildTool.defaultVerbosity⟩, p.logDirectory, p.search⟩

/-- What is built with some options. -/
def request (o : Options) (target : Text) : BuildRequest :=
  ⟨some target, o.configuration, o.platform,
   (Table.ofList (o.properties.filterMap id)).map (fun p => (p.1, some p.2)),
   o.buildTimeout?⟩

/-- What is told of a build that took too long, given its timeout as text. -/
def timeoutMessage (seconds : Text) : Text := "Build timeout after " ++ seconds ++ "s"

/-- The warning of a build that took too long; in a run nothing else cancels one. -/
def timeoutWarning (timeout? : Option Timeout) : Except CaptureError Capture → List LogRecord
  | .error (.build (.cancelled _)) =>
    let seconds? := timeout?.bind (fun timeout => timeout.text.toOption)
    (seconds?.map (fun seconds => (LogLevel.warning, timeoutMessage seconds))).toList
  | _ => []

/-- Whether a build breaks off because the option for its tool is emptied: it does once what is
    asked for has been found in order. -/
def lacksTool (o : Options) : Except CaptureError Capture → Bool
  | .error (.build (.request _)) => false
  | _ => o.emptied.contains .dotnet

/-- A build that lacks its tool: its log has been made and is left behind. -/
def withoutTool (p : Program) (o : Options) : RunReport :=
  { RunReport.broken .emptyTool with
    logs := [(Session.logPath (p.setup o) 0, LogFile.ofContent [])] }

/-- Builds a target and captures it. -/
def runBuild (p : Program) (o : Options) (target : Text) : RunReport :=
  match Service.readerOf p.modules o.reader? with
  | .error error => if error.isTold then .refused error.message else .broken (.reader error)
  | .ok reader? =>
    match o.properties.findIdx? Option.isNone with
    | some place => .broken (.emptyProperty place)
    | none =>
      let capturer : Capturer :=
        ⟨p.setup o, defaultReadLimit, p.depth, reader?, p.disk.loader, csharp⟩
      let asked := request o target
      let (made, after) := capturer.build p.child asked .initial
      if lacksTool o made then p.withoutTool o
      else
        { (report made).after (timeoutWarning asked.timeout? made) with
          logs := after.session.logs }

/-- Finds the target that a path leads to, builds and captures it. -/
def runCapture (p : Program) (o : Options) (path : Text) : RunReport :=
  match p.disk.findTarget path with
  | .error error => .broken (.path error)
  | .ok search =>
    let warning := search.warning?.map (fun message => (LogLevel.warning, message))
    RunReport.after warning.toList
      (match search.target? with
        | none => .refused ("No solution or project file found for " ++ path)
        | some target => p.runBuild o target)

/-! ### Serving -/

/-- Serves for a project until the client leaves or the connection breaks. -/
def serveProject (p : Program) (o : Options) (project : Text) : RunReport :=
  let starting : LogRecord :=
    (.info, "Starting BuildCapture MCP Server (project: " ++ project ++ ")...")
  let stopped : LogRecord := (.info, "Server stopped")
  let report : RunReport :=
    match Service.readerOf p.modules o.reader? with
    | .error error => .broken (.reader error)
    | .ok _ =>
      match p.brokenBy? with
      | none => .ofCode RunReport.successCode [stopped]
      | some reason =>
        (RunReport.broken (.connection reason)).after [(.error, "Server error"), stopped]
  { report.after [starting] with
    settings := RootSettings.ofGiven (some project) o.project? o.projectFromCwd }

/-- Serves for the project that the options name: the one that the working directory belongs to,
    one that is given, or the working directory. -/
def serve (p : Program) (o : Options) : RunReport :=
  if o.projectFromCwd then
    if o.project?.isSome then .refused "--project-from-cwd cannot be used with --project"
    else
      match p.disk.findRoot p.disk.cwd with
      | .error error => .broken (.path error)
      | .ok root =>
        (p.serveProject o root).after [(.info, "Auto-detected project root: " ++ root)]
  else
    match o.project? with
    | none | some [] => p.serveProject o p.disk.cwd
    | some project => p.serveProject o project

/-! ### All runs -/

/-- A run with some options. -/
def runOptions (p : Program) (o : Options) : RunReport :=
  match o.invocations?, o.capture? with
  | some (c :: path), _ => p.runAssembly (c :: path)
  | _, some (c :: path) => p.runCapture o (c :: path)
  | _, _ => p.serve o

/-- A run with some arguments. -/
def run (p : Program) (arguments : List Text) : RunReport :=
  match Options.ofArguments p.environment arguments with
  | .error stop => .broken (.usage stop)
  | .ok options => p.runOptions options

end Program

end CompileTrace
