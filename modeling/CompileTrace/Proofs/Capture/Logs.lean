import CompileTrace.Capture.Build
import CompileTrace.Proofs.Build.Logs
import CompileTrace.Proofs.Table

set_option autoImplicit false

/-! # Logs of captures

The log of a build is handed over when the build returns a result: up to then the session removes it
if the build fails, and from then on the capture that asked for the build removes it, whatever
becomes of the reading. So nothing is left of a build once its capture is over
(`Capturer.no_log_left`), whatever happened to the session before and what else happens to it
meanwhile, except in two cases. A build that succeeds with output that cannot be read for
diagnostics gives an error after its log was handed over (`Capturer.log_left_unreadable`); and some
errors say that the log was left (`CaptureError.leavesLog`), since it cannot be removed or something
escaped from a listener that was told of the success. -/

namespace CompileTrace

/-- Whether a capture that gave an error may leave a log: the build did, or the log cannot be
    removed after it was read. -/
def CaptureError.leavesLog : CaptureError → Bool
  | .build error => error.leavesLog
  | .removal _ => true
  | .unfinished | .assembly _ => false

/-- The states that a capturer may come to: at the start there are listeners at most, then things
    happen to the session, and builds are captured. -/
inductive CaptureState.Reached (c : Capturer) : CaptureState → Prop
  | started (listeners : List Listener) (assembly : AssemblyState) :
    Reached c ⟨.startWith listeners, assembly⟩
  | passed {s : CaptureState} (h : Reached c s) (events : List SessionEvent) :
    Reached c { s with session := s.session.run c.setup events }
  | built {s : CaptureState} (h : Reached c s) (read : LogReading) (request : BuildRequest)
    (events : List SessionEvent) : Reached c (c.buildThrough read request events s).2

namespace Capturer

variable {c : Capturer}

/-! ## Handing over -/

/-- The session that is left when a log was read: the one before without the log, or the one before
    if the log cannot be removed. -/
theorem collect_session (c : Capturer) (read : LogReading) (result : BuildResult)
    (s : CaptureState) :
    ((∀ error, (c.collect read result s).1 ≠ .error (.removal error))
        ∧ (c.collect read result s).2.session = (s.removeLog result.log).session)
      ∨ ∃ fault, (c.collect read result s).1 = .error (.removal (.system fault result.log))
        ∧ result.log ∈ s.session.logs.map Prod.fst
        ∧ (c.collect read result s).2.session = s.session := by
  unfold collect
  dsimp only
  split
  · next fault hfault =>
    obtain ⟨file, hfile, -⟩ := Option.bind_eq_some_iff.1 hfault
    refine .inr ⟨fault, rfl, ?_, rfl⟩
    rw [← Table.isSome_get?_iff, hfile]
    rfl
  · exact .inl ⟨nofun, rfl⟩
  · exact .inl ⟨nofun, rfl⟩

/-- A capture whose build is over: the session after the build, without the log of its result if it
    gave one that could be removed. -/
theorem buildThrough_session (c : Capturer) (read : LogReading) (request : BuildRequest)
    (events : List SessionEvent) (s : CaptureState) :
    let session := (s.session.submit c.setup request).run c.setup events
    let ended := c.buildThrough read request events s
    (∃ error, session.outcome? s.session.nextJob = some (.error error)
        ∧ ended.1 = .error (.build error) ∧ ended.2.session = session)
      ∨ (∃ result, session.outcome? s.session.nextJob = some (.ok result)
        ∧ (∀ error, ended.1 ≠ .error (.removal error))
        ∧ ended.2.session
          = (CaptureState.removeLog { s with session := session } result.log).session)
      ∨ (∃ fault log, ended.1 = .error (.removal (.system fault log))
        ∧ log ∈ session.logs.map Prod.fst ∧ ended.2.session = session)
      ∨ (ended.1 = .error .unfinished ∧ ended.2.session = session) := by
  intro session ended
  simp only [ended]
  unfold buildThrough
  dsimp only
  cases houtcome : session.outcome? s.session.nextJob with
  | none => exact .inr (.inr (.inr ⟨rfl, rfl⟩))
  | some outcome =>
    cases outcome with
    | error error => exact .inl ⟨error, rfl, rfl, rfl⟩
    | ok result =>
      rcases c.collect_session read result { s with session := session } with
        ⟨hnot, hsession⟩ | ⟨fault, hfault, hmem, hsession⟩
      · exact .inr (.inl ⟨result, rfl, hnot, hsession⟩)
      · exact .inr (.inr (.inl ⟨fault, result.log, hfault, hmem, hsession⟩))

/-! ## States that are reached -/

/-- Whatever came before, builds stand in line, and logs are named by their builds. -/
theorem regular_of_reached {s : CaptureState} (h : s.Reached c) :
    s.session.InLine ∧ Session.Named c.setup s.session := by
  have hrun : ∀ {t : Session}, t.InLine ∧ t.Named c.setup → ∀ events,
      (t.run c.setup events).InLine ∧ (t.run c.setup events).Named c.setup :=
    fun ht events => ⟨Session.inLine_run c.setup ht.1 events, Session.named_run ht.1 ht.2 events⟩
  induction h with
  | started listeners =>
    exact ⟨Session.inLine_startWith listeners, Session.named_startWith c.setup listeners⟩
  | passed _ events ih => exact hrun ih events
  | @built s _ read request events ih =>
    have hended := hrun ih (.submit request :: events)
    rcases c.buildThrough_session read request events s with
      ⟨_, -, -, hsession⟩ | ⟨_, -, -, hsession⟩ | ⟨_, _, -, -, hsession⟩ | ⟨-, hsession⟩
    · rw [hsession]
      exact hended
    · -- fewer logs are left behind
      rw [hsession]
      exact ⟨hended.1, hended.2.running,
        fun n hn => hended.2.ended n (Session.mem_names_filter.1 hn).2⟩
    · rw [hsession]
      exact hended
    · rw [hsession]
      exact hended

theorem regular_of_submit {s : CaptureState} (h : s.Reached c) (request : BuildRequest) :
    (s.session.submit c.setup request).InLine
      ∧ Session.Named c.setup (s.session.submit c.setup request) :=
  regular_of_reached (h.passed [.submit request])

/-! ## Nothing is left -/

variable {s : CaptureState} {read : LogReading} {request : BuildRequest}
  {events : List SessionEvent}

/-- Once a capture is over, no log exists that its build ever had, unless its error says so. -/
theorem not_hasLog_buildThrough (h : s.Reached c)
    (hover : (c.buildThrough read request events s).1 ≠ .error .unfinished)
    (hgoes : ∀ error, (c.buildThrough read request events s).1 = .error error →
      error.leavesLog = false)
    (hparse : Session.SuccessParses c.setup (s.session.submit c.setup request) events
      s.session.nextJob)
    {before after : List SessionEvent} {r : Running} (hevents : events = before ++ after)
    (hrunning : ((s.session.submit c.setup request).run c.setup before).running? = some r)
    (hnumber : r.job.number = s.session.nextJob) :
    ¬ (c.buildThrough read request events s).2.session.HasLog r.log := by
  obtain ⟨hline, hnamed⟩ := regular_of_submit h request
  subst hevents
  rw [← hnumber] at hparse
  rcases c.buildThrough_session read request (before ++ after) s with
    ⟨error, houtcome, herror, hsession⟩ | ⟨result, houtcome, -, hsession⟩ |
    ⟨_, _, hremoval, -, -⟩ | ⟨hunfinished, -⟩
  · rw [← hnumber] at houtcome
    rw [hsession]
    rcases Session.gone_or_result_of_append hline hnamed hrunning hparse houtcome with
      ⟨_, herror', hgone⟩ | ⟨_, hok, -⟩
    · cases herror'
      exact hgone (hgoes _ herror)
    · cases hok
  · rw [← hnumber] at houtcome
    rw [hsession]
    rcases Session.gone_or_result_of_append hline hnamed hrunning hparse houtcome with
      ⟨_, herror, -⟩ | ⟨_, hok, hown⟩
    · cases herror
    · -- the log of the result is the one that is removed, and no other build has it
      cases hok
      have hname := (Session.named_run hline hnamed before).running r hrunning
      have hnamed' := Session.named_run hline hnamed (before ++ after)
      have hline' := Session.inLine_run c.setup hline (before ++ after)
      rintro (hmem | ⟨r', hr', hsame, -⟩)
      · exact (Session.mem_names_filter.1 hmem).1 hown.symm
      · refine hnamed'.log_ne hline' hr' ?_ (hsame.trans hname)
        rw [houtcome]
        exact nofun
  · have hleaves := hgoes _ hremoval
    cases hleaves
  · exact absurd hunfinished hover

/-- Once a capture is over, a log that exists and did not before belongs to another build, unless
    its error says that its own is left. -/
theorem owner_of_hasLog_buildThrough (h : s.Reached c)
    (hover : (c.buildThrough read request events s).1 ≠ .error .unfinished)
    (hgoes : ∀ error, (c.buildThrough read request events s).1 = .error error →
      error.leavesLog = false)
    (hparse : ∀ number, Session.SuccessParses c.setup (s.session.submit c.setup request) events
      number) {log : Text} (hlog : (c.buildThrough read request events s).2.session.HasLog log) :
    s.session.HasLog log
      ∨ (∃ r, (c.buildThrough read request events s).2.session.running? = some r ∧ r.log = log)
      ∨ (∃ other result, other ≠ s.session.nextJob
        ∧ (c.buildThrough read request events s).2.session.outcome? other = some (.ok result)
        ∧ result.log = log)
      ∨ ∃ other error, other ≠ s.session.nextJob
        ∧ (c.buildThrough read request events s).2.session.outcome? other = some (.error error)
        ∧ error.leavesLog = true ∧ Session.logPath c.setup other = log := by
  obtain ⟨hline, hnamed⟩ := regular_of_submit h request
  obtain ⟨hbefore, hnamed'⟩ := regular_of_reached h
  have hasked : ∀ log, (s.session.submit c.setup request).HasLog log →
      Session.OwnsLog c.setup s.session.HasLog (s.session.submit c.setup request) log :=
    Session.ownsLogs_step hbefore hnamed' (fun log hlog => .inl hlog) (.submit request)
      (by rintro r hr file? ⟨⟩)
  have howned := Session.ownsLogs_run hline hnamed hasked hparse log
  rcases c.buildThrough_session read request events s with
    ⟨error, houtcome, herror, hsession⟩ | ⟨result, houtcome, -, hsession⟩ |
    ⟨_, _, hremoval, -, -⟩ | ⟨hunfinished, -⟩
  · rw [hsession] at hlog ⊢
    rcases howned hlog with hold | hrunning | ⟨other, result, hother, hresult⟩ |
      ⟨other, left, hother, hleaves, hname⟩
    · exact .inl hold
    · exact .inr (.inl hrunning)
    · refine .inr (.inr (.inl ⟨other, result, ?_, hother, hresult⟩))
      rintro rfl
      rw [houtcome] at hother
      cases hother
    · refine .inr (.inr (.inr ⟨other, left, ?_, hother, hleaves, hname⟩))
      rintro rfl
      rw [houtcome] at hother
      cases hother
      exact Bool.false_ne_true ((hgoes _ herror).symm.trans hleaves)
  · rw [hsession] at hlog ⊢
    have hhas : ((s.session.submit c.setup request).run c.setup events).HasLog log := by
      rcases hlog with hmem | hrunning
      · exact .inl (Session.mem_names_filter.1 hmem).2
      · exact .inr hrunning
    rcases howned hhas with hold | hrunning | ⟨other, result', hother, hresult⟩ |
      ⟨other, left, hother, hleaves, hname⟩
    · exact .inl hold
    · exact .inr (.inl hrunning)
    · by_cases hne : other = s.session.nextJob
      · -- it is the log that was removed, so it is that of the build that has the turn now
        subst hne
        rw [houtcome] at hother
        cases hother
        rcases hlog with hmem | ⟨r, hr, hsame, -⟩
        · exact absurd hresult.symm (Session.mem_names_filter.1 hmem).1
        · exact .inr (.inl ⟨r, hr, hsame⟩)
      · exact .inr (.inr (.inl ⟨other, result', hne, hother, hresult⟩))
    · refine .inr (.inr (.inr ⟨other, left, ?_, hother, hleaves, hname⟩))
      rintro rfl
      rw [houtcome] at hother
      cases hother
  · have hleaves := hgoes _ hremoval
    cases hleaves
  · exact absurd hunfinished hover

/-- **No log outlives a failure**, as far as what is captured of builds that succeed can be read for
    diagnostics and no error says that a log is left. Once a build that had the turn has given an
    error, its log does not exist, and a log that exists then and did not before belongs to the
    build that has the turn, to a result that was returned, or to a build whose error says so. Once
    a capture is over, no log exists that its build ever had, and one that exists and did not before
    belongs to another build. A log that cannot be removed is left. -/
theorem no_log_left (h : s.Reached c) :
    (∀ events r error, s.session.running? = some r →
      (s.session.run c.setup events).outcome? r.job.number = some (.error error) →
        (Session.SuccessParses c.setup s.session events r.job.number → error.leavesLog = false →
          ¬ (s.session.run c.setup events).HasLog r.log)
        ∧ ∀ fault, error = .log fault → (s.session.run c.setup events).HasLog r.log)
    ∧ (∀ events, (∀ number, Session.SuccessParses c.setup s.session events number) →
      ∀ log, (s.session.run c.setup events).HasLog log →
        Session.OwnsLog c.setup s.session.HasLog (s.session.run c.setup events) log)
    ∧ ∀ read request events,
      let number := s.session.nextJob
      let asked := s.session.submit c.setup request
      let ended := c.buildThrough read request events s
      (∀ fault log, ended.1 = .error (.removal (.system fault log)) → ended.2.session.HasLog log)
      ∧ (ended.1 ≠ .error .unfinished →
        (∀ error, ended.1 = .error error → error.leavesLog = false) →
          (Session.SuccessParses c.setup asked events number →
            ∀ before after r, events = before ++ after →
              (asked.run c.setup before).running? = some r → r.job.number = number →
                ¬ ended.2.session.HasLog r.log)
          ∧ ((∀ n, Session.SuccessParses c.setup asked events n) →
            ∀ log, ended.2.session.HasLog log →
              s.session.HasLog log ∨ (∃ r, ended.2.session.running? = some r ∧ r.log = log)
                ∨ (∃ other result, other ≠ number
                  ∧ ended.2.session.outcome? other = some (.ok result) ∧ result.log = log)
                ∨ ∃ other error, other ≠ number
                  ∧ ended.2.session.outcome? other = some (.error error)
                  ∧ error.leavesLog = true ∧ Session.logPath c.setup other = log)) := by
  obtain ⟨hline, hnamed⟩ := regular_of_reached h
  refine ⟨?_, ?_, ?_⟩
  · intro events r error hrunning houtcome
    obtain ⟨hgone, hleft⟩ := Session.gone_or_result hline hnamed hrunning houtcome
    refine ⟨fun hparse hgoes => ?_, fun fault herror => hleft fault (by rw [herror])⟩
    rcases hgone hparse with ⟨_, herror, hmissing⟩ | ⟨_, hok, -⟩
    · cases herror
      exact hmissing hgoes
    · cases hok
  · intro events hparse
    exact Session.ownsLogs_run hline hnamed (fun log hlog => .inl hlog) hparse
  · intro read request events number asked ended
    refine ⟨?_, fun hover hgoes => ⟨fun hparse before after r hevents hrunning hnumber =>
        not_hasLog_buildThrough h hover hgoes hparse hevents hrunning hnumber,
      fun hparse log hlog => owner_of_hasLog_buildThrough h hover hgoes hparse hlog⟩⟩
    intro fault log hremoval
    rcases c.buildThrough_session read request events s with
      ⟨_, -, herror, -⟩ | ⟨_, -, hnot, -⟩ | ⟨_, _, hremoval', hmem, hsession⟩ | ⟨hunfinished, -⟩
    · cases herror.symm.trans hremoval
    · exact absurd hremoval (hnot _)
    · cases hremoval'.symm.trans hremoval
      exact .inl (hsession ▸ hmem)
    · cases hunfinished.symm.trans hremoval

/-- What captures builds of the project of a plain setup. -/
def plainCapturer : Capturer := ⟨plainSetup, 1024, 1000, none, plainSetup.disk.loader, csharp⟩

/-- What reads no log. -/
def readsNothing : LogReading := fun log _ => [.error (.unreadable log (.system .denied log))]

/-- What becomes of a capture of the project whose log cannot be read. -/
def unreadCapture (events : List SessionEvent) : Except CaptureError Capture × CaptureState :=
  plainCapturer.buildThrough readsNothing plainRequest events .initial

/-- A build that succeeds, and a log that cannot be read. -/
theorem no_log_left_unread :
    let events := [.launch, .line "App.cs(1,2): warning W1: m",
      .finish 0 (some (.ofContent [0x4C]))]
    let asked := CaptureState.initial.session.submit plainCapturer.setup plainRequest
    CaptureState.Reached plainCapturer .initial
      ∧ ((unreadCapture events).1 matches .error (.assembly _)) = true
      ∧ (asked.run plainCapturer.setup [.launch]).HasLog (Session.logPath plainSetup 0)
      ∧ ¬ (unreadCapture events).2.session.HasLog (Session.logPath plainSetup 0) := by
  intro events asked
  have hreached : CaptureState.Reached plainCapturer .initial := .started [] .initial
  have hassembly : ((unreadCapture events).1 matches .error (.assembly _)) = true := by
    decide +kernel
  have hover : (unreadCapture events).1 ≠ .error .unfinished := by
    intro hunfinished
    rw [hunfinished] at hassembly
    cases hassembly
  have hgoes : ∀ error, (unreadCapture events).1 = .error error → error.leavesLog = false := by
    intro error herror
    rw [herror] at hassembly
    cases error with
    | assembly => rfl
    | _ => cases hassembly
  have hparse : Session.CapturesParse plainCapturer.setup asked events :=
    Session.capturesParse_of_take (by decide +kernel)
  have hrunning : (asked.run plainCapturer.setup [.launch]).running?.any
      (fun r => r.job.number == 0 && r.log == Session.logPath plainSetup 0) = true := by
    decide +kernel
  obtain ⟨r, hr, hplain⟩ := Option.any_eq_true .. |>.1 hrunning
  simp only [Bool.and_eq_true, beq_iff_eq] at hplain
  have hgone := (((no_log_left hreached).2.2 readsNothing plainRequest events).2 hover hgoes).1
    (hparse.successParses 0) [.launch] _ r rfl hr hplain.1
  rw [hplain.2] at hgone
  refine ⟨hreached, hassembly, by decide +kernel, ?_⟩
  rw [unreadCapture]
  exact hgone

/-- A build that succeeds, with output that has the form of a diagnostic of no known severity: the
    capture gives an error and the log is left. -/
theorem log_left_unreadable :
    let events := [.launch, .line "warn\u0131ng X: m", .finish 0 (some (.ofContent [0x4C]))]
    CaptureState.Reached plainCapturer .initial
      ∧ ((unreadCapture events).1 matches .error (.build (.output _))) = true
      ∧ (unreadCapture events).2.session.HasLog (Session.logPath plainSetup 0) :=
  ⟨.started [] .initial, by decide +kernel, by decide +kernel⟩

end Capturer

end CompileTrace
