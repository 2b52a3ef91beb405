import CompileTrace.Build.Session

set_option autoImplicit false

/-! # What an event can do

An event does one of a few things to a session (`Session.step_moves`): a request is refused, put in
line or given its turn; the first build in line is given its turn, or one in line is withdrawn; the
build that has the turn goes on; or it is over, in one of the ways in which a build ends
(`Session.Ends`). Giving a build its turn fails only if no log can be made or something escapes from
a listener (`Session.begin_cases`): its command line can be put together, since its properties were
checked as those of every build in line were. And a build that is over is told of and its log is
removed unless that cannot be done (`Session.endingOf_cases`). -/

namespace CompileTrace

/-- A result is completed with the diagnostics of its output. -/
theorem BuildResult.withDiagnostics_eq {output : Text} {found : List Diagnostic}
    (h : Diagnostic.ofOutput output = .ok found) (log target : Text) (properties : Properties)
    (exitCode : Int) (milliseconds : Float) :
    (⟨log, target, properties, exitCode, output, [], milliseconds⟩ : BuildResult).withDiagnostics
      = .ok ⟨log, target, properties, exitCode, output, found, milliseconds⟩ := by
  rw [withDiagnostics, List.isEmpty_nil, if_pos rfl, h]
  rfl

/-! ## Checked properties -/

/-- Whether the names of some properties would be accepted again. -/
def Job.IsChecked (job : Job) : Prop :=
  checkProperties job.properties.asGiven = .ok job.properties

theorem checkProperties_asGiven {given : GivenProperties} {properties : Properties}
    (h : checkProperties given = .ok properties) :
    checkProperties properties.asGiven = .ok properties := by
  unfold checkProperties at h
  split at h
  · cases h
  · next hfind =>
    cases h
    -- the names are those that were accepted
    have hnone : (Properties.asGiven (given.map (fun p => (p.1, p.2.getD [])))).find?
        (fun p => !isPropertyName p.1) = none := by
      rw [List.find?_eq_none] at hfind ⊢
      intro p hp
      simp only [Properties.asGiven, List.map_map, List.mem_map, Function.comp_apply] at hp
      obtain ⟨q, hq, rfl⟩ := hp
      exact hfind q hq
    unfold checkProperties
    rw [hnone]
    simp [Properties.asGiven]

/-- The command line of checked properties can be put together. -/
theorem checkedCommand_asGiven {given : GivenProperties} {properties : Properties}
    (h : checkProperties given = .ok properties) (tool : BuildTool) (target log : Text) :
    checkedCommand tool target log properties.asGiven
      = .ok (buildCommand tool target log properties) := by
  rw [checkedCommand, checkProperties_asGiven h]
  rfl

namespace Session

variable {setup : BuildSetup}

/-- What a request in order makes: a job of the next number, with checked properties. -/
theorem check_eq_ok {request : BuildRequest} {number : Nat} {job : Job}
    (h : check setup request number = .ok job) : job.number = number ∧ job.IsChecked := by
  unfold check at h
  cases htarget : checkTarget setup.disk request.target? with
  | error error => simp [htarget, bind, Except.bind] at h
  | ok target =>
    cases hproperties : checkProperties
        (mergeProperties request.configuration request.platform request.properties) with
    | error error => simp [htarget, hproperties, bind, Except.bind] at h
    | ok properties =>
      simp only [htarget, hproperties, bind, Except.bind, Except.ok.injEq] at h
      subst h
      exact ⟨rfl, checkProperties_asGiven hproperties⟩

/-! ## Giving a build its turn -/

/-- The build that a job becomes when it is given its turn. -/
def fresh (setup : BuildSetup) (job : Job) : Running :=
  let log := logPath setup job.number
  ⟨job, log, some (.ofContent []), buildCommand setup.tool job.target log job.properties, false,
    false, .empty⟩

/-- Why a job gives up its turn at once: something escapes from a listener, or no log can be
    made. -/
inductive GivesUp (setup : BuildSetup) (s : Session) : BuildError → Prop
  | escaped {words : Text} (h : s.escape? .building = some words) :
    GivesUp setup s (.escaped .building words)
  | noLog {error : FileError} (h : setup.logFault? = some error) :
    GivesUp setup s (.request (.noLog error))

/-- **A checked job gets its turn** as long as logs can be made and nothing escapes from a
    listener. -/
theorem begin_eq {s : Session} {job : Job} (hjob : job.IsChecked)
    (hcalm : s.escape? .building = none) (hlogs : setup.logFault? = none) :
    s.begin setup job = { s.enter .building with running? := some (fresh setup job) } := by
  simp only [begin, hcalm, hlogs]
  rw [checkedCommand_asGiven hjob]
  rfl

/-- Otherwise it gives its turn up, and no log was made. -/
theorem begin_cases (setup : BuildSetup) (s : Session) {job : Job} (hjob : job.IsChecked) :
    s.begin setup job = { s.enter .building with running? := some (fresh setup job) }
      ∨ ∃ error, GivesUp setup s error
        ∧ s.begin setup job = (s.enter .building).note job.number (.error error) := by
  cases hcalm : s.escape? .building with
  | some words =>
    refine .inr ⟨_, .escaped hcalm, ?_⟩
    simp only [begin, hcalm]
  | none =>
    cases hlogs : setup.logFault? with
    | some error =>
      refine .inr ⟨_, .noLog hlogs, ?_⟩
      simp only [begin, hcalm, hlogs]
    | none => exact .inl (begin_eq hjob hcalm hlogs)

/-! ## The ends of builds -/

/-- A build that is over leaves its log and the session where they are if the log should go and
    cannot be removed. Otherwise the session goes on to the state that tells how the build ended,
    and the log is left only if the build succeeded. -/
theorem endingOf_cases (s : Session) (r : Running) (state : BuildState) (outcome : BuildOutcome) :
    (∃ fault, state ≠ .ready ∧ r.file?.bind LogFile.removal? = some fault
        ∧ s.endingOf r state outcome = ⟨none, true, .error (.log (.system fault r.log))⟩)
      ∨ s.endingOf r state outcome
        = ⟨some state, decide (state = .ready), s.outcomeAfter state outcome⟩ := by
  unfold endingOf
  split
  · next hready =>
    subst hready
    exact .inr rfl
  · next hready =>
    split
    · next fault hfault => exact .inl ⟨fault, hready, hfault, rfl⟩
    · rw [decide_eq_false hready]
      exact .inr rfl

theorem outcomeAfter_eq {s : Session} {state : BuildState} (hcalm : s.escape? state = none)
    (outcome : BuildOutcome) : s.outcomeAfter state outcome = outcome := by
  rw [outcomeAfter, hcalm]

section

variable (s : Session) (r : Running) (state : BuildState) (outcome : BuildOutcome)

@[simp] theorem conclude_running? : (s.conclude r state outcome).running? = none := rfl

@[simp] theorem conclude_waiting : (s.conclude r state outcome).waiting = s.waiting :=
  release_waiting ..

@[simp] theorem conclude_nextJob : (s.conclude r state outcome).nextJob = s.nextJob :=
  release_nextJob ..

theorem conclude_outcomes : (s.conclude r state outcome).outcomes
    = s.outcomes ++ [(r.job.number, (s.endingOf r state outcome).outcome)] := release_outcomes ..

end

/-- The ways in which an event ends the build that has the turn: the build with what stands at the
    path of its log then, the state that tells how it ended, and the outcome. -/
inductive Ends (setup : BuildSetup) (r : Running) :
    SessionEvent → Running → BuildState → BuildOutcome → Prop
  | unlaunched {error : FileError} (hlaunched : r.launched = false)
    (herror : launchFault? setup r = some error) :
    Ends setup r .launch r .failed (.error (.launch r.job.target error))
  | stopped {exitCode : Int} {file? : Option LogFile} (hlaunched : r.launched = true)
    (hcancel : r.cancelRequested = true) :
    Ends setup r (.finish exitCode file?) { r with file? := file? } .cancelled
      (failureOf .cancelled (cancelledMessage r.job.target) r.output.text (some exitCode))
  | failed {exitCode : Int} {file? : Option LogFile} (hlaunched : r.launched = true)
    (hcancel : r.cancelRequested = false) (hcode : exitCode ≠ 0) :
    Ends setup r (.finish exitCode file?) { r with file? := file? } .failed
      (failureOf .failed (unableMessage r.job.target (char '\n' :: r.output.text)) r.output.text
        (some exitCode))
  | succeeded {file? : Option LogFile} (hlaunched : r.launched = true)
    (hcancel : r.cancelRequested = false) :
    Ends setup r (.finish 0 file?) { r with file? := file? } .ready (successOf r)
  | unwaitable {event : SessionEvent} {fault : WaitFault} (hlaunched : r.launched = true)
    (hfault : ∀ digits, fault ≠ .untellable digits) :
    Ends setup r event r .failed (.error (.timeout fault))
  | expired {timeout : Timeout} (hlaunched : r.launched = true)
    (htimeout : r.job.timeout? = some timeout) :
    Ends setup r .expire r .cancelled (expiryOf r timeout)
  | abandoned {event : SessionEvent} :
    Ends setup r event r .cancelled
      (failureOf .cancelled (cancelledMessage r.job.target) [] none)

theorem Ends.job {r r' : Running} {event : SessionEvent} {state : BuildState}
    {outcome : BuildOutcome} (h : Ends setup r event r' state outcome) : r'.job = r.job := by
  cases h <;> rfl

theorem Ends.log {r r' : Running} {event : SessionEvent} {state : BuildState}
    {outcome : BuildOutcome} (h : Ends setup r event r' state outcome) : r'.log = r.log := by
  cases h <;> rfl

end Session

/-! ## Moves -/

/-- The request that an event makes, if it makes one. -/
def SessionEvent.request? : SessionEvent → Option BuildRequest
  | .submit request => some request
  | _ => none

/-- Whether an event is for the build that has the turn. -/
def SessionEvent.isOfTurn : SessionEvent → Bool
  | .submit _ | .proceed | .withdraw _ => false
  | _ => true

theorem SessionEvent.eq_submit {event : SessionEvent} {request : BuildRequest}
    (h : event.request? = some request) : event = .submit request := by
  cases event with
  | submit request' => rw [← Option.some.inj h]
  | _ => cases h

theorem SessionEvent.request?_of_isOfTurn {event : SessionEvent} (h : event.isOfTurn = true) :
    event.request? = none := by
  cases event with
  | submit request => cases h
  | _ => rfl

namespace Session

/-- What an event can make of a session. -/
inductive Moves (setup : BuildSetup) (s : Session) : SessionEvent → Session → Prop
  | refused {request : BuildRequest} {error : RequestError}
    (hcheck : check setup request s.nextJob = .error error) :
    Moves setup s (.submit request)
      ({ s with nextJob := s.nextJob + 1 }.note s.nextJob (.error (.request error)))
  | queued {request : BuildRequest} {job : Job} (hcheck : check setup request s.nextJob = .ok job) :
    Moves setup s (.submit request)
      { s with nextJob := s.nextJob + 1, waiting := s.waiting ++ [job] }
  | admitted {request : BuildRequest} {job : Job}
    (hcheck : check setup request s.nextJob = .ok job) (hfree : s.running? = none)
    (hwaiting : s.waiting = []) :
    Moves setup s (.submit request)
      ({ s with nextJob := s.nextJob + 1, waiting := [] }.begin setup job)
  | promoted {job : Job} {rest : List Job} (hfree : s.running? = none)
    (hwaiting : s.waiting = job :: rest) :
    Moves setup s .proceed ({ s with waiting := rest }.begin setup job)
  | withdrawn {number : Nat} (hwaiting : ∃ job ∈ s.waiting, job.number = number) :
    Moves setup s (.withdraw number)
      { s.note number (.error .withdrawn) with
        waiting := s.waiting.filter (fun job => job.number ≠ number) }
  | advanced {event : SessionEvent} {r r' : Running} (launches : List Launch)
    (hevent : event.request? = none) (hrunning : s.running? = some r) (hjob : r'.job = r.job)
    (hlog : r'.log = r.log) (hcancel : r.cancelRequested = true → r'.cancelRequested = true) :
    Moves setup s event { s with running? := some r', launches := launches }
  | ended {event : SessionEvent} {r r' : Running} {state : BuildState} {outcome : BuildOutcome}
    (hevent : event.request? = none) (hrunning : s.running? = some r)
    (hends : Ends setup r event r' state outcome) :
    Moves setup s event (s.conclude r' state outcome)
  | passed {event : SessionEvent} (hevent : event.request? = none) : Moves setup s event s

variable {setup : BuildSetup}

theorem submit_moves (s : Session) (request : BuildRequest) :
    Moves setup s (.submit request) (s.submit setup request) := by
  unfold submit
  dsimp only
  split
  · next error hcheck => exact .refused hcheck
  · next job hcheck =>
    split
    · next hfree =>
      simp only [Bool.and_eq_true, Option.isNone_iff_eq_none, List.isEmpty_iff] at hfree
      have hsame : { s with nextJob := s.nextJob + 1 }
          = { s with nextJob := s.nextJob + 1, waiting := [] } := by rw [← hfree.2]
      rw [hsame]
      exact .admitted hcheck hfree.1 hfree.2
    · exact .queued hcheck

theorem proceed_moves (s : Session) : Moves setup s .proceed (s.proceed setup) := by
  unfold proceed
  split
  · next job rest hfree hwaiting => exact .promoted hfree hwaiting
  · exact .passed rfl

theorem proceed_of_waiting {s : Session} (hfree : s.running? = none) {job : Job} {rest : List Job}
    (hwaiting : s.waiting = job :: rest) :
    s.proceed setup = { s with waiting := rest }.begin setup job := by
  unfold proceed
  split
  · next job' rest' _ hwaiting' =>
    rw [hwaiting] at hwaiting'
    cases hwaiting'
    rfl
  · next hnot => exact absurd hwaiting (hnot job rest hfree)

theorem proceed_of_nil {s : Session} (hwaiting : s.waiting = []) : s.proceed setup = s := by
  unfold proceed
  split
  · next hwaiting' =>
    rw [hwaiting] at hwaiting'
    cases hwaiting'
  · rfl

theorem withdraw_moves (s : Session) (number : Nat) :
    Moves setup s (.withdraw number) (s.withdraw number) := by
  unfold withdraw
  split
  · next hany =>
    obtain ⟨job, hjob, hnumber⟩ := List.any_eq_true.1 hany
    exact .withdrawn ⟨job, hjob, of_decide_eq_true hnumber⟩
  · exact .passed rfl

theorem expire_moves {s : Session} {r : Running} (hrunning : s.running? = some r)
    (hlaunched : r.launched = true) : Moves setup s .expire (s.expire r) := by
  unfold expire
  split
  · exact .passed rfl
  · next timeout htimeout =>
    split
    · next fault hfault =>
      refine .ended rfl hrunning (.unwaitable hlaunched ?_)
      rintro digits rfl
      cases timeout with
      | whole seconds =>
        rw [Timeout.fault?] at hfault
        split at hfault <;> cases hfault
      | real seconds => cases hfault
      | other kind => cases hfault
    · exact .ended rfl hrunning (.expired hlaunched htimeout)

/-- The ends that need a launched process, and those that come without one. -/
theorem advance_moves {s : Session} {r : Running} (hrunning : s.running? = some r)
    {event : SessionEvent} (hturn : event.isOfTurn = true) :
    Moves setup s event (s.advance setup r event) := by
  cases event with
  | submit | proceed | withdraw => cases hturn
  | abandon => exact .ended rfl hrunning .abandoned
  | cancel => exact .advanced s.launches rfl hrunning rfl rfl (fun _ => rfl)
  | leave file? => exact .advanced s.launches rfl hrunning rfl rfl id
  | launch =>
    rw [advance]
    split
    · exact .passed rfl
    · next hlaunched =>
      rw [Bool.not_eq_true] at hlaunched
      unfold launch
      split
      · next error herror => exact .ended rfl hrunning (.unlaunched hlaunched herror)
      · exact .advanced _ rfl hrunning rfl rfl id
  | line text =>
    rw [advance]
    split
    · exact .advanced s.launches rfl hrunning rfl rfl id
    · exact .passed rfl
  | finish exitCode file? =>
    rw [advance]
    split
    · next hlaunched =>
      unfold finish
      dsimp only
      split
      · next hcancel => exact .ended rfl hrunning (.stopped hlaunched hcancel)
      · next hcancel =>
        rw [Bool.not_eq_true] at hcancel
        split
        · next hcode => exact .ended rfl hrunning (.failed hlaunched hcancel hcode)
        · next hcode =>
          obtain rfl : exitCode = 0 := by simpa using hcode
          exact .ended rfl hrunning (.succeeded hlaunched hcancel)
    · exact .passed rfl
  | breakOff reason =>
    rw [advance]
    split
    · next hlaunched => exact .ended rfl hrunning (.unwaitable hlaunched (by rintro digits ⟨⟩))
    · exact .passed rfl
  | silence =>
    rw [advance]
    split
    · exact .ended rfl hrunning .abandoned
    · exact .passed rfl
  | expire =>
    rw [advance]
    split
    · next hlaunched => exact expire_moves hrunning hlaunched
    · exact .passed rfl

/-- While a build has the turn, what is not a request and withdraws no build happens to it. -/
theorem step_of_running {s : Session} {r : Running} (hrunning : s.running? = some r)
    {event : SessionEvent} (hturn : event.isOfTurn = true) :
    s.step setup event = s.advance setup r event := by
  cases event with
  | submit | proceed | withdraw => cases hturn
  | _ => simp [step, hrunning]

/-- The next turn is not given before the build that has it is over. -/
theorem proceed_of_running {s : Session} {r : Running} (hrunning : s.running? = some r) :
    s.proceed setup = s := by
  unfold proceed
  split
  · next hfree _ =>
    rw [hrunning] at hfree
    cases hfree
  · rfl

/-- While no build has the turn, what is for the one that has it does nothing. -/
theorem step_of_free {s : Session} (hfree : s.running? = none) {event : SessionEvent}
    (hturn : event.isOfTurn = true) : s.step setup event = s := by
  cases event with
  | submit | proceed | withdraw => cases hturn
  | _ => simp [step, hfree]

/-- **What an event does is one of the moves.** -/
theorem step_moves (setup : BuildSetup) (s : Session) (event : SessionEvent) :
    Moves setup s event (s.step setup event) := by
  cases hturn : event.isOfTurn with
  | true =>
    cases hrunning : s.running? with
    | some r =>
      rw [step_of_running hrunning hturn]
      exact advance_moves hrunning hturn
    | none =>
      rw [step_of_free hrunning hturn]
      exact .passed (SessionEvent.request?_of_isOfTurn hturn)
  | false =>
    cases event with
    | submit request => exact submit_moves s request
    | proceed => exact proceed_moves s
    | withdraw number => exact withdraw_moves s number
    | _ => cases hturn

/-- What is not for the build that has the turn lets it be, or gives a job its turn. -/
theorem step_lets_or_begins (setup : BuildSetup) (s : Session) {event : SessionEvent}
    (hturn : event.isOfTurn = false) :
    (s.step setup event).running? = s.running?
      ∨ ∃ (t : Session) (job : Job), t.running? = none
        ∧ s.step setup event = t.begin setup job := by
  cases event with
  | submit request =>
    have hmoves := step_moves setup s (.submit request)
    generalize s.step setup (.submit request) = u at hmoves ⊢
    cases hmoves with
    | refused | queued => exact .inl rfl
    | @admitted _ job _ hfree =>
      exact .inr ⟨{ s with nextJob := s.nextJob + 1, waiting := [] }, job, hfree, rfl⟩
    | advanced _ hnone | ended hnone | passed hnone => cases hnone
  | proceed =>
    show (s.proceed setup).running? = _ ∨ ∃ t job, _ ∧ s.proceed setup = _
    cases hrunning : s.running? with
    | some r => exact .inl (by rw [proceed_of_running hrunning, hrunning])
    | none =>
      cases hwaiting : s.waiting with
      | nil => exact .inl (by rw [proceed_of_nil hwaiting, hrunning])
      | cons job rest =>
        exact .inr ⟨{ s with waiting := rest }, job, hrunning, proceed_of_waiting hrunning hwaiting⟩
  | withdraw number =>
    refine .inl ?_
    show (s.withdraw number).running? = _
    unfold withdraw
    split <;> rfl
  | _ => cases hturn

/-! ## What is captured -/

/-- Whether all that is captured of builds that come to their end can be read for diagnostics. -/
def CapturesParse (setup : BuildSetup) (s : Session) (events : List SessionEvent) : Prop :=
  ∀ before exitCode file? after r, events = before ++ .finish exitCode file? :: after →
    (s.run setup before).running? = some r → r.launched = true →
      ∃ found, Diagnostic.ofOutput r.output.text = .ok found

theorem CapturesParse.init {s : Session} {event : SessionEvent} {events : List SessionEvent}
    (h : CapturesParse setup s (events ++ [event])) : CapturesParse setup s events := by
  intro before exitCode file? after r hevents
  exact h before exitCode file? (after ++ [event]) r (by rw [hevents]; simp)

/-- It is enough to look at each build after each number of events. -/
theorem capturesParse_of_take {s : Session} {events : List SessionEvent}
    (h : ∀ n < events.length, (s.run setup (events.take n)).running?.all
      (fun r => (Diagnostic.ofOutput r.output.text).toOption.isSome) = true) :
    CapturesParse setup s events := by
  intro before exitCode file? after r hevents hrunning _
  have hparse := h before.length (by simp [hevents])
  rw [hevents, List.take_left, hrunning, Option.all_some] at hparse
  cases hfound : Diagnostic.ofOutput r.output.text with
  | error fault => simp [hfound, Except.toOption] at hparse
  | ok found => exact ⟨found, rfl⟩

theorem failureOf_eq {output : Text} {found : List Diagnostic}
    (h : Diagnostic.ofOutput output = .ok found) (wrap : BuildFailure → BuildError)
    (message : Text) (exitCode? : Option Int) :
    failureOf wrap message output exitCode?
      = .error (wrap ⟨message, output, exitCode?, found⟩) := by
  rw [failureOf, BuildFailure.ofOutput, h]
  rfl

end Session

/-! ## A setup to build with -/

/-- A project, a tool to build it with, and a directory for logs that is there. -/
def plainSetup : BuildSetup :=
  ⟨⟨(FileTree.empty.add ["src", "App.csproj".toText] (.file [] false)).add ["bin", "dotnet"]
      (.file Runner.smallestProgram true), "/src"⟩,
    ⟨"/bin/dotnet", BuildTool.defaultVerbosity⟩, "/tmp",
    fun name => some (Disk.searchFault name)⟩

/-- A request for a build of the project. -/
def plainRequest : BuildRequest := ⟨some "App.csproj", "Debug", "AnyCPU", [], none⟩

end CompileTrace
