import CompileTrace.Build.Outcome
import CompileTrace.Build.Output
import CompileTrace.Build.Timeout
import CompileTrace.FileTree.Running

set_option autoImplicit false

/-! # Build sessions

A session runs builds one at a time, in the order in which they are asked for. What happens to it
happens one event after the other: a build is asked for, takes its turn or is withdrawn before, is
launched, writes a line, ends, takes too long, breaks off or is given up, or the running build is
cancelled. Each event leads from one state of the session to the next, and nothing happens in
between.

Each build that runs has a log of its own. The log is removed before the session is done with a
build that failed, and left to the caller of one that succeeded; a log that cannot be removed keeps
the session from being done. Listeners are told of what the session is doing whenever that
changes. -/

namespace CompileTrace

/-! ## States -/

/-- What the session as a whole is doing. -/
inductive BuildState
  | idle
  | building
  | ready
  | failed
  | cancelled
  deriving DecidableEq, Repr

/-- The name of a state. -/
def BuildState.name : BuildState → Text
  | .idle => "idle"
  | .building => "building"
  | .ready => "ready"
  | .failed => "failed"
  | .cancelled => "cancelled"

/-! ## Listeners -/

/-- What a listener does that is told of a state: it heeds it, it fails, or something escapes from
    it, told in words, that is more than a failure. -/
inductive Reaction
  | heeds
  | fails
  | escapes (words : Text)
  deriving DecidableEq, Repr

/-- A listener: what it does when it is told of a state after those that it was told of before. -/
structure Listener where
  react : List BuildState → BuildState → Reaction

/-- A listener with the states that it was told of. -/
structure Audience where
  listener : Listener
  heard : List BuildState

/-- What came of telling listeners: the listeners with what they heard, how many failed, and what
    escaped from one, if anything did. -/
structure Telling where
  audience : List Audience
  failures : Nat
  escaped? : Option Text

/-- Tells listeners of a state one after the other. One that fails has been told all the same, and
    does not keep the next ones from being told; what escapes from one does. -/
def tellAll (state : BuildState) : List Audience → Telling
  | [] => ⟨[], 0, none⟩
  | a :: rest =>
    let told : Audience := { a with heard := a.heard ++ [state] }
    let later := tellAll state rest
    match a.listener.react a.heard state with
    | .heeds => { later with audience := told :: later.audience }
    | .fails => { later with audience := told :: later.audience, failures := later.failures + 1 }
    | .escapes words => ⟨told :: rest, 0, some words⟩

/-! ## Builds -/

/-- What a caller asks to build. -/
structure BuildRequest where
  target? : Option Text
  configuration : Text
  platform : Text
  properties : List (Text × Option Text)
  timeout? : Option Timeout
  deriving DecidableEq, Repr

/-- Why a build gave no result. -/
inductive BuildError
  | request (error : RequestError)
  | launch (target : Text) (error : FileError)
  | failed (failure : BuildFailure)
  | cancelled (failure : BuildFailure)
  /-- The build was launched, but cannot be waited for. -/
  | timeout (fault : WaitFault)
  /-- The build is over, but its output cannot be read for diagnostics. -/
  | output (fault : DiagnosticFault)
  /-- The build is over, but its log cannot be removed. -/
  | log (error : FileError)
  /-- Something escaped from a listener that was told of a state. -/
  | escaped (state : BuildState) (words : Text)
  /-- The caller gave the build up before it had its turn. -/
  | withdrawn
  deriving DecidableEq, Repr

/-- The error in words. -/
def BuildError.message : BuildError → Text
  | .request error => error.message
  | .launch target error =>
    "Unexpected exception when trying to build " ++ target ++ ". Reason:\n" ++ error.message
  | .failed failure => failure.message
  | .cancelled failure => failure.message
  | .timeout fault => fault.message
  | .output fault => fault.message
  | .log error => error.message
  | .escaped _ words => words
  | .withdrawn => []

/-- A build that was checked: its number, the file to build, with what properties, and how long it
    may take. -/
structure Job where
  number : Nat
  target : Text
  properties : Properties
  timeout? : Option Timeout
  deriving DecidableEq, Repr

/-- What stands at the path of a log: its content, and what is in the way of reading it and of
    removing it, if anything is. -/
structure LogFile where
  content : Bytes
  reading? : Option FileFault
  removal? : Option FileFault
  deriving DecidableEq, Repr

/-- A log of some content. -/
def LogFile.ofContent (content : Bytes) : LogFile := ⟨content, none, none⟩

/-- A build whose turn it is: the path of its log and what stands there if anything does, its
    command line, whether it was asked to stop, whether its process was launched, and the output so
    far. -/
structure Running where
  job : Job
  log : Text
  file? : Option LogFile
  command : List Text
  cancelRequested : Bool
  launched : Bool
  output : OutputBuffer
  deriving DecidableEq, Repr

/-- A process that was launched: its command line and the directory that it runs in. -/
structure Launch where
  command : List Text
  directory : Text
  deriving DecidableEq, Repr

/-! ## Sessions -/

/-- What a session builds with: the disk, the build tool, the directory for logs, and what is in the
    way of running a program that is named without a slash, where the system looks for it. -/
structure BuildSetup where
  disk : Disk
  tool : BuildTool
  logDirectory : Text
  search : Text → Option FileFault

/-- Why no log can be made, if none can: the directory for logs is a file, or cannot be given to the
    system. A directory that the disk does not know is taken to be there. -/
def BuildSetup.logFault? (setup : BuildSetup) : Option FileError :=
  match setup.disk.entry setup.logDirectory with
  | .error (.unusable fault) => some (.unusable fault)
  | .ok (.file _ _) => some (.system .notDirectory setup.logDirectory)
  | _ => none

/-- How a build ended. -/
abbrev BuildOutcome := Except BuildError BuildResult

/-- A session: what it is doing, every state that it went to so far, its listeners and how often one
    failed, the build whose turn it is and those that wait for theirs, the outcomes of builds by
    their numbers, the processes launched, the logs that builds left behind, and the number of the
    next build. -/
structure Session where
  state : BuildState
  told : List BuildState
  audience : List Audience
  complaints : Nat
  running? : Option Running
  waiting : List Job
  outcomes : List (Nat × BuildOutcome)
  launches : List Launch
  logs : Table LogFile
  nextJob : Nat

/-- What can happen to a session. -/
inductive SessionEvent
  /-- A build is asked for. -/
  | submit (request : BuildRequest)
  /-- The first waiting build takes its turn, if no other build has it. -/
  | proceed
  /-- The caller of a waiting build gives it up. -/
  | withdraw (number : Nat)
  /-- The process of the running build is launched. -/
  | launch
  /-- The running build writes a line. -/
  | line (text : Text)
  /-- Something else stands at the path of the running build's log from now on, or nothing. -/
  | leave (file? : Option LogFile)
  /-- The running build ends by itself or by being killed, and leaves its log, or nothing if it
      removed it. -/
  | finish (exitCode : Int) (file? : Option LogFile)
  /-- The output of the running build cannot be read on, for a reason in words. -/
  | breakOff (reason : Text)
  /-- The running build has written nothing for a while. -/
  | silence
  /-- The running build has taken too long. -/
  | expire
  /-- The caller of the running build gives it up. -/
  | abandon
  /-- The running build is asked to stop. -/
  | cancel
  deriving DecidableEq, Repr

namespace Session

/-- A session to which nothing has happened. -/
def start : Session where
  state := .idle
  told := []
  audience := []
  complaints := 0
  running? := none
  waiting := []
  outcomes := []
  launches := []
  logs := []
  nextJob := 0

/-- A session to which nothing has happened but that listeners were registered. -/
def startWith (listeners : List Listener) : Session :=
  { start with audience := listeners.map (fun listener => ⟨listener, []⟩) }

/-- Whether a build is running. -/
def isBuilding (s : Session) : Bool := s.state = .building

/-- The session in another state, which listeners are told of if it differs from the one before. -/
def enter (s : Session) (state : BuildState) : Session :=
  if s.state = state then s
  else
    let telling := tellAll state s.audience
    { s with
      state := state
      told := s.told ++ [state]
      audience := telling.audience
      complaints := s.complaints + telling.failures }

/-- What escapes from a listener when the session enters a state, if anything does. -/
def escape? (s : Session) (state : BuildState) : Option Text :=
  if s.state = state then none else (tellAll state s.audience).escaped?

section

variable (s : Session) (state : BuildState)

@[simp] theorem enter_state : (s.enter state).state = state := by
  unfold enter
  split
  · assumption
  · rfl

theorem enter_told :
    (s.enter state).told = if s.state = state then s.told else s.told ++ [state] := by
  unfold enter
  split <;> rfl

@[simp] theorem enter_running? : (s.enter state).running? = s.running? := by
  unfold enter
  split <;> rfl

@[simp] theorem enter_waiting : (s.enter state).waiting = s.waiting := by
  unfold enter
  split <;> rfl

@[simp] theorem enter_outcomes : (s.enter state).outcomes = s.outcomes := by
  unfold enter
  split <;> rfl

@[simp] theorem enter_launches : (s.enter state).launches = s.launches := by
  unfold enter
  split <;> rfl

@[simp] theorem enter_logs : (s.enter state).logs = s.logs := by
  unfold enter
  split <;> rfl

@[simp] theorem enter_nextJob : (s.enter state).nextJob = s.nextJob := by
  unfold enter
  split <;> rfl

end

/-! ### Asking for builds -/

/-- The job that a request makes, if its target and properties are in order. -/
def check (setup : BuildSetup) (request : BuildRequest) (number : Nat) :
    Except RequestError Job := do
  let target ← checkTarget setup.disk request.target?
  let properties ←
    checkProperties (mergeProperties request.configuration request.platform request.properties)
  .ok ⟨number, target, properties, request.timeout?⟩

/-- The path of the log of the build of a number. -/
def logPath (setup : BuildSetup) (number : Nat) : Text :=
  Path.join setup.logDirectory ("buildcapture-" ++ Text.ofNat number ++ ".binlog")

/-- Notes the outcome of a build. -/
def note (s : Session) (number : Nat) (outcome : BuildOutcome) : Session :=
  { s with outcomes := s.outcomes ++ [(number, outcome)] }

/-- Gives a job its turn: the session is building, an empty log is made, and the command line is put
    together. A job gives up its turn if something escapes from a listener or if one of the two
    cannot be done, but the session stays in the state of building. -/
def begin (setup : BuildSetup) (s : Session) (job : Job) : Session :=
  let entered := s.enter .building
  match s.escape? .building, setup.logFault? with
  | some words, _ => entered.note job.number (.error (.escaped .building words))
  | none, some error => entered.note job.number (.error (.request (.noLog error)))
  | none, none =>
    let log := logPath setup job.number
    let file := LogFile.ofContent []
    match checkedCommand setup.tool job.target log job.properties.asGiven with
    | .error error =>
      { entered.note job.number (.error (.request error)) with
        logs := entered.logs.put log file }
    | .ok command =>
      { entered with running? := some ⟨job, log, some file, command, false, false, .empty⟩ }

/-- A build is asked for: a request that is not in order fails at once and changes nothing else,
    and a job takes its turn at once if no other has it or waits for it. -/
def submit (setup : BuildSetup) (s : Session) (request : BuildRequest) : Session :=
  let number := s.nextJob
  let s := { s with nextJob := number + 1 }
  match check setup request number with
  | .error error => s.note number (.error (.request error))
  | .ok job =>
    if s.running?.isNone && s.waiting.isEmpty then s.begin setup job
    else { s with waiting := s.waiting ++ [job] }

/-- The first waiting job takes its turn, if no other has it. -/
def proceed (setup : BuildSetup) (s : Session) : Session :=
  match s.running?, s.waiting with
  | none, job :: rest => { s with waiting := rest }.begin setup job
  | _, _ => s

/-- A waiting job is given up. -/
def withdraw (s : Session) (number : Nat) : Session :=
  if s.waiting.any (fun job => job.number = number) then
    { s.note number (.error .withdrawn) with
      waiting := s.waiting.filter (fun job => job.number ≠ number) }
  else s

/-! ### Ends of builds -/

/-- How the session is done with a build: the state that it goes to unless it stays where it is,
    whether what stands at the path of the log is left there, and the outcome. -/
structure Ending where
  state? : Option BuildState
  keepsLog : Bool
  outcome : BuildOutcome

/-- The outcome of a build once listeners were told of a state, which something may escape from. -/
def outcomeAfter (s : Session) (state : BuildState) (outcome : BuildOutcome) : BuildOutcome :=
  match s.escape? state with
  | some words => .error (.escaped state words)
  | none => outcome

/-- How the session is done with a build that goes to a state with an outcome. Unless the build
    succeeded its log is removed first, and nothing else is done if that fails. -/
def endingOf (s : Session) (r : Running) (state : BuildState) (outcome : BuildOutcome) : Ending :=
  if state = .ready then ⟨some state, true, s.outcomeAfter state outcome⟩
  else
    match r.file?.bind LogFile.removal? with
    | some fault => ⟨none, true, .error (.log (.system fault r.log))⟩
    | none => ⟨some state, false, s.outcomeAfter state outcome⟩

/-- The logs with what stands at the path of a build's log. -/
def keepLog (s : Session) (r : Running) : Table LogFile :=
  match r.file? with
  | none => s.logs
  | some file => s.logs.put r.log file

/-- A build is over. -/
def release (s : Session) (r : Running) (e : Ending) : Session :=
  let entered := match e.state? with
    | none => s
    | some state => s.enter state
  { entered.note r.job.number e.outcome with
    running? := none
    logs := if e.keepsLog then s.keepLog r else s.logs }

/-- A build is over and goes to a state with an outcome, as far as its log and the listeners let
    it. -/
def conclude (s : Session) (r : Running) (state : BuildState) (outcome : BuildOutcome) : Session :=
  s.release r (s.endingOf r state outcome)

section

variable (s : Session) (r : Running) (e : Ending)

@[simp] theorem release_state : (s.release r e).state = e.state?.getD s.state := by
  unfold release
  cases e.state? <;> simp [note]

theorem release_told : (s.release r e).told
    = match e.state? with
      | none => s.told
      | some state => if s.state = state then s.told else s.told ++ [state] := by
  unfold release
  cases e.state? with
  | none => rfl
  | some state => exact enter_told s state

@[simp] theorem release_running? : (s.release r e).running? = none := rfl

@[simp] theorem release_waiting : (s.release r e).waiting = s.waiting := by
  unfold release
  cases e.state? <;> simp [note]

@[simp] theorem release_outcomes :
    (s.release r e).outcomes = s.outcomes ++ [(r.job.number, e.outcome)] := by
  unfold release
  cases e.state? <;> simp [note]

@[simp] theorem release_launches : (s.release r e).launches = s.launches := by
  unfold release
  cases e.state? <;> simp [note]

@[simp] theorem release_logs :
    (s.release r e).logs = if e.keepsLog then s.keepLog r else s.logs := rfl

@[simp] theorem release_nextJob : (s.release r e).nextJob = s.nextJob := by
  unfold release
  cases e.state? <;> simp [note]

end

/-- A failure, or the fault in its output. -/
def failureOf (wrap : BuildFailure → BuildError) (message output : Text)
    (exitCode? : Option Int) : BuildOutcome :=
  match BuildFailure.ofOutput message output exitCode? with
  | .ok failure => .error (wrap failure)
  | .error fault => .error (.output fault)

/-- What is told of a build that was stopped. -/
def cancelledMessage (target : Text) : Text := "Build of " ++ target ++ " was cancelled"

/-- What is told of a build that could not be done. -/
def unableMessage (target reason : Text) : Text :=
  "Unable to build " ++ target ++ ". Reason:" ++ reason

/-- The outcome of a build with an exit code of zero. -/
def successOf (r : Running) : BuildOutcome :=
  let result : BuildResult := ⟨r.log, r.job.target, r.job.properties, 0, r.output.text, [], 0.0⟩
  match result.withDiagnostics with
  | .ok complete => .ok complete
  | .error fault => .error (.output fault)

/-- The outcome of a build that has taken too long, which tells for how long it was waited. -/
def expiryOf (r : Running) (timeout : Timeout) : BuildOutcome :=
  match timeout.text with
  | .error fault => .error (.timeout (.untellable fault))
  | .ok seconds =>
    let reason := " timeout after " ++ seconds ++ "s"
    failureOf .cancelled (unableMessage r.job.target reason) [] none

/-- The running build ends. If it was asked to stop, it counts as cancelled whatever its exit code;
    otherwise the exit code tells whether it succeeded. -/
def finish (s : Session) (r : Running) (exitCode : Int) : Session :=
  let output := r.output.text
  let target := r.job.target
  if r.cancelRequested then
    s.conclude r .cancelled
      (failureOf .cancelled (cancelledMessage target) output (some exitCode))
  else if exitCode ≠ 0 then
    s.conclude r .failed
      (failureOf .failed (unableMessage target (char '\n' :: output)) output (some exitCode))
  else s.conclude r .ready (successOf r)

/-- The running build has taken too long; one without a timeout never does, and one whose timeout
    cannot be waited for fails. -/
def expire (s : Session) (r : Running) : Session :=
  match r.job.timeout? with
  | none => s
  | some timeout =>
    match timeout.fault? with
    | some fault => s.conclude r .failed (.error (.timeout fault))
    | none => s.conclude r .cancelled (expiryOf r timeout)

/-- The running build is given up, by its caller or by those who read its output. -/
def abandon (s : Session) (r : Running) : Session :=
  s.conclude r .cancelled (failureOf .cancelled (cancelledMessage r.job.target) [] none)

/-! ### Running a build -/

/-- The directory that a running build works in: the one of its target, under the plain root. -/
def directory (r : Running) : Text := Path.underPlainRoot (Path.directory r.job.target)

/-- Why a process cannot be launched, if it cannot: a part of its command line that the system
    cannot be given, or a program that cannot be run. A program named without a slash is looked for
    by the system. -/
def launchFault? (setup : BuildSetup) (r : Running) : Option FileError :=
  let program := setup.tool.path
  match r.command.findSome? Path.textFault? with
  | some fault => some (.unusable fault)
  | none =>
    if program.isEmpty then some (.system .denied program)
    else if !program.contains '/' then
      (setup.search program).map (fun fault => .system fault program)
    else
      match ({ setup.disk with cwd := directory r } : Disk).runnable program with
      | .error error => some error
      | .ok () => none

/-- The process of the running build is launched. -/
def launch (setup : BuildSetup) (s : Session) (r : Running) : Session :=
  match launchFault? setup r with
  | some error => s.conclude r .failed (.error (.launch r.job.target error))
  | none =>
    { s with
      running? := some { r with launched := true }
      launches := s.launches ++ [⟨r.command, directory r⟩] }

/-- The running build is asked to stop. -/
def requestCancel (s : Session) (r : Running) : Session :=
  { s with running? := some { r with cancelRequested := true } }

/-- What an event does to the running build. An event that needs a launched process does nothing to
    a build without one. Those who read the output look in silence only whether the build was asked
    to stop. -/
def advance (setup : BuildSetup) (s : Session) (r : Running) : SessionEvent → Session
  | .launch => if r.launched then s else s.launch setup r
  | .line text =>
    if r.launched then { s with running? := some { r with output := r.output.append text } } else s
  | .leave file? => { s with running? := some { r with file? := file? } }
  | .finish exitCode file? => if r.launched then s.finish { r with file? := file? } exitCode else s
  | .breakOff reason =>
    if r.launched then s.conclude r .failed (.error (.timeout (.unreadable reason))) else s
  | .silence => if r.launched && r.cancelRequested then s.abandon r else s
  | .expire => if r.launched then s.expire r else s
  | .abandon => s.abandon r
  | .cancel => s.requestCancel r
  | .submit _ | .proceed | .withdraw _ => s

/-- What an event does to a session. -/
def step (setup : BuildSetup) (s : Session) (event : SessionEvent) : Session :=
  match event, s.running? with
  | .submit request, _ => s.submit setup request
  | .proceed, _ => s.proceed setup
  | .withdraw number, _ => s.withdraw number
  | _, some r => s.advance setup r event
  | _, none => s

/-- What events do to a session, one after the other. -/
def run (setup : BuildSetup) (s : Session) (events : List SessionEvent) : Session :=
  events.foldl (step setup) s

@[simp] theorem run_nil (setup : BuildSetup) (s : Session) : s.run setup [] = s := rfl

@[simp] theorem run_cons (setup : BuildSetup) (s : Session) (event : SessionEvent)
    (events : List SessionEvent) :
    s.run setup (event :: events) = (s.step setup event).run setup events := rfl

theorem run_append (setup : BuildSetup) (s : Session) (before after : List SessionEvent) :
    s.run setup (before ++ after) = (s.run setup before).run setup after :=
  List.foldl_append

/-- Whether a request to stop meets a build that is running, which is then asked to stop. -/
def answersCancel (s : Session) : Bool := s.isBuilding

/-- The outcome of the build of a number, if it is over. -/
def outcome? (s : Session) (number : Nat) : Option BuildOutcome := s.outcomes.lookup number

end Session

end CompileTrace
