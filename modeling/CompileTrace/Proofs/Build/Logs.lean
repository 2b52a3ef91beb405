import CompileTrace.Proofs.Build.Order

set_option autoImplicit false

/-! # Who owns a log

Each build that has the turn has a log of its own, named by its number, so that no other build was
or will be given it (`Session.logPath_injective`, `Session.named_run`). A log that exists belongs to
the build that has the turn, to a result that was returned, or to a build whose error says why its
log was left (`BuildError.leavesLog`, `Session.ownsLogs_run`); and that of a build with another
error is gone for good (`Session.gone_or_result`). Both hold if what was captured of builds that
succeeded can be read for diagnostics. -/

namespace CompileTrace

/-- Whether a build with an error may leave its log: it cannot be removed, or something escapes from
    a listener that is told of a success. -/
def BuildError.leavesLog : BuildError → Bool
  | .log _ => true
  | .escaped state _ => state = .ready
  | _ => false

theorem Text.ofNat_injective : Function.Injective Text.ofNat := by
  intro n m h
  calc
    n = Nat.ofDigitChars 10 (Nat.toDigits 10 n) 0 := Nat.ofDigitChars_ten_toDigits.symm
    _ = Nat.ofDigitChars 10 (Nat.toDigits 10 m) 0 := by
      rw [show Nat.toDigits 10 n = Nat.toDigits 10 m from ofChars_injective h]
    _ = m := Nat.ofDigitChars_ten_toDigits

namespace Session

variable {setup : BuildSetup}

/-! ## Names of logs -/

/-- No two logs have one path. -/
theorem logPath_injective (setup : BuildSetup) : Function.Injective (logPath setup) := by
  have hname : ∀ n, Path.isAbsolute ("buildcapture-" ++ Text.ofNat n ++ ".binlog") = false :=
    fun _ => rfl
  intro n m h
  simp only [logPath, Path.join, hname, Bool.false_eq_true, if_false] at h
  split at h <;> exact Text.ofNat_injective (by simpa using h)

/-- Whether a log exists: a build left it behind, or the one that has the turn has it. -/
def HasLog (s : Session) (log : Text) : Prop :=
  log ∈ s.logs.map Prod.fst ∨ ∃ r ∈ s.running?, r.log = log ∧ r.file?.isSome

instance (s : Session) (log : Text) : Decidable (s.HasLog log) :=
  inferInstanceAs (Decidable (_ ∨ _))

theorem mem_names_put {logs : Table LogFile} {name log : Text} {file : LogFile} :
    log ∈ (logs.put name file).map Prod.fst ↔ log = name ∨ log ∈ logs.map Prod.fst := by
  rw [Table.names_put]
  split
  · next hname =>
    constructor
    · exact .inr
    · rintro (rfl | h)
      · exact hname
      · exact h
  · simp [or_comm]

theorem mem_names_filter {logs : Table LogFile} {name log : Text} :
    log ∈ (logs.filter (fun entry => entry.1 ≠ name)).map Prod.fst
      ↔ log ≠ name ∧ log ∈ logs.map Prod.fst := by
  simp [and_comm]

theorem hasLog_of_free {s : Session} (hfree : s.running? = none) (log : Text) :
    s.HasLog log ↔ log ∈ s.logs.map Prod.fst := by
  simp [HasLog, hfree]

section

variable {s : Session} {r : Running} {log : Text}

theorem mem_names_keepLog :
    log ∈ (s.keepLog r).map Prod.fst
      ↔ (log = r.log ∧ r.file?.isSome) ∨ log ∈ s.logs.map Prod.fst := by
  unfold keepLog
  cases r.file? with
  | none => simp
  | some file => simp [mem_names_put]

/-- A build that is over adds its log to those left behind, if it keeps it. -/
theorem mem_names_conclude {state : BuildState} {outcome : BuildOutcome} :
    log ∈ (s.conclude r state outcome).logs.map Prod.fst
      ↔ ((s.endingOf r state outcome).keepsLog ∧ log = r.log ∧ r.file?.isSome)
        ∨ log ∈ s.logs.map Prod.fst := by
  rw [conclude, release_logs]
  split
  · next hkeeps => rw [mem_names_keepLog, hkeeps, eq_self, true_and]
  · next hkeeps => simp [hkeeps]

end

/-! ## Ends -/

/-- Whether what is captured of the build of a number can be read for diagnostics, if the build
    succeeds. -/
def SuccessParses (setup : BuildSetup) (s : Session) (events : List SessionEvent) (number : Nat) :
    Prop :=
  ∀ before file? after r, events = before ++ .finish 0 file? :: after →
    (s.run setup before).running? = some r → r.job.number = number → r.launched = true →
      r.cancelRequested = false → ∃ found, Diagnostic.ofOutput r.output.text = .ok found

theorem CapturesParse.successParses {s : Session} {events : List SessionEvent}
    (h : CapturesParse setup s events) (number : Nat) : SuccessParses setup s events number := by
  intro before file? after r hevents hrunning _ hlaunched _
  exact h before 0 file? after r hevents hrunning hlaunched

theorem SuccessParses.tail {s : Session} {event : SessionEvent} {events : List SessionEvent}
    {number : Nat} (h : SuccessParses setup s (event :: events) number) :
    SuccessParses setup (s.step setup event) events number := by
  intro before file? after r hevents hrunning
  exact h (event :: before) file? after r (by rw [hevents]; rfl) hrunning

theorem SuccessParses.drop {s : Session} {before after : List SessionEvent} {number : Nat}
    (h : SuccessParses setup s (before ++ after) number) :
    SuccessParses setup (s.run setup before) after number := by
  induction before generalizing s with
  | nil => exact h
  | cons event rest ih => exact ih h.tail

theorem failureOf_eq_error (wrap : BuildFailure → BuildError) (message output : Text)
    (exitCode? : Option Int) (hwrap : ∀ failure, (wrap failure).leavesLog = false) :
    ∃ error, failureOf wrap message output exitCode? = .error error ∧ error.leavesLog = false := by
  unfold failureOf
  split
  · exact ⟨_, rfl, hwrap _⟩
  · exact ⟨_, rfl, rfl⟩

theorem expiryOf_eq_error (r : Running) (timeout : Timeout) :
    ∃ error, expiryOf r timeout = .error error ∧ error.leavesLog = false := by
  unfold expiryOf
  split
  · exact ⟨_, rfl, rfl⟩
  · exact failureOf_eq_error _ _ _ _ (fun _ => rfl)

/-- The outcome of a build with an exit code of zero: a result that has its log, or the fault in
    its output. -/
theorem successOf_cases (r : Running) :
    (∃ result, successOf r = .ok result ∧ result.log = r.log)
      ∨ ∃ fault, Diagnostic.ofOutput r.output.text = .error fault
        ∧ successOf r = .error (.output fault) := by
  unfold successOf
  dsimp only
  cases hparse : Diagnostic.ofOutput r.output.text with
  | ok found =>
    rw [BuildResult.withDiagnostics_eq hparse]
    exact .inl ⟨_, rfl, rfl⟩
  | error fault =>
    refine .inr ⟨fault, rfl, ?_⟩
    rw [BuildResult.withDiagnostics, List.isEmpty_nil, if_pos rfl, hparse]
    rfl

/-- A build comes to its end with an error that says nothing of its log, or with a result that has
    it and then it is ready; and if it is ready, only output that cannot be read gives an error. -/
theorem Ends.error_or_result {r r' : Running} {event : SessionEvent} {state : BuildState}
    {outcome : BuildOutcome} (h : Ends setup r event r' state outcome) :
    (∃ error, outcome = .error error ∧ error.leavesLog = false
        ∧ (state = .ready → ∃ file? fault, event = .finish 0 file? ∧ r.launched = true
          ∧ r.cancelRequested = false ∧ Diagnostic.ofOutput r.output.text = .error fault))
      ∨ ∃ result, outcome = .ok result ∧ result.log = r.log := by
  have hother : ∀ {outcome : BuildOutcome} {P : Prop},
      (∃ error, outcome = .error error ∧ error.leavesLog = false) → state ≠ .ready →
        ∃ error, outcome = .error error ∧ error.leavesLog = false ∧ (state = .ready → P) := by
    rintro outcome P ⟨error, herror, hleaves⟩ hstate
    exact ⟨error, herror, hleaves, fun hready => absurd hready hstate⟩
  cases h with
  | unlaunched | unwaitable => exact .inl (hother ⟨_, rfl, rfl⟩ nofun)
  | stopped | failed | abandoned =>
    exact .inl (hother (failureOf_eq_error _ _ _ _ (fun _ => rfl)) nofun)
  | expired => exact .inl (hother (expiryOf_eq_error ..) nofun)
  | succeeded hlaunched hcancel =>
    rcases successOf_cases r with hresult | ⟨fault, hfault, hsuccess⟩
    · exact .inr hresult
    · exact .inl ⟨_, hsuccess, rfl, fun _ => ⟨_, fault, rfl, hlaunched, hcancel, hfault⟩⟩

/-- **A build that is over leaves its log if its error says so, or if it has a result**, which has
    the log. -/
theorem leaves_or_result {s : Session} {r r' : Running} {event : SessionEvent}
    {state : BuildState} {outcome : BuildOutcome} (h : Ends setup r event r' state outcome)
    (hparse : ∀ file?, event = .finish 0 file? → r.launched = true → r.cancelRequested = false →
      ∃ found, Diagnostic.ofOutput r.output.text = .ok found) :
    (∃ error, (s.endingOf r' state outcome).outcome = .error error
        ∧ (s.endingOf r' state outcome).keepsLog = error.leavesLog)
      ∨ ∃ result, (s.endingOf r' state outcome).outcome = .ok result ∧ result.log = r.log := by
  rcases endingOf_cases s r' state outcome with ⟨fault, -, -, hending⟩ | hending
  · rw [hending]
    exact .inl ⟨_, rfl, rfl⟩
  · rw [hending]
    cases hescape : s.escape? state with
    | some words =>
      refine .inl ⟨.escaped state words, ?_, rfl⟩
      simp only [outcomeAfter, hescape]
    | none =>
      rw [outcomeAfter_eq hescape]
      rcases h.error_or_result with ⟨error, herror, hleaves, hready⟩ | hresult
      · refine .inl ⟨error, herror, ?_⟩
        rw [hleaves]
        refine decide_eq_false (fun hstate => ?_)
        obtain ⟨file?, fault, hevent, hlaunched, hcancel, hfault⟩ := hready hstate
        obtain ⟨found, hfound⟩ := hparse file? hevent hlaunched hcancel
        rw [hfault] at hfound
        cases hfound
      · exact .inr hresult

/-- A log that cannot be removed is kept. -/
theorem keeps_of_log {s : Session} {r r' : Running} {event : SessionEvent} {state : BuildState}
    {outcome : BuildOutcome} (h : Ends setup r event r' state outcome) {error : FileError}
    (herror : (s.endingOf r' state outcome).outcome = .error (.log error)) :
    (s.endingOf r' state outcome).keepsLog = true ∧ r'.file?.isSome := by
  rcases endingOf_cases s r' state outcome with ⟨fault, -, hfault, hending⟩ | hending
  · obtain ⟨file, hfile, -⟩ := Option.bind_eq_some_iff.1 hfault
    rw [hending, hfile]
    exact ⟨rfl, rfl⟩
  · rw [hending] at herror
    cases hescape : s.escape? state with
    | some words =>
      simp only [outcomeAfter, hescape] at herror
      cases herror
    | none =>
      rw [outcomeAfter_eq hescape] at herror
      rcases h.error_or_result with ⟨own, hown, hleaves, -⟩ | ⟨result, hresult, -⟩
      · cases hown.symm.trans herror
        cases hleaves
      · cases hresult.symm.trans herror

/-! ## Names of logs that exist -/

/-- The build that has the turn has the log of its number, and a log that was left behind is that of
    no build that is in line or yet to come. -/
structure Named (setup : BuildSetup) (s : Session) : Prop where
  running : ∀ r, s.running? = some r → r.log = logPath setup r.job.number
  ended : ∀ n, logPath setup n ∈ s.logs.map Prod.fst → s.outcome? n ≠ none

section

variable {s : Session}

/-- What was left behind stays over when other builds get outcomes. -/
theorem over_of_append {t : Session} {more : List (Nat × BuildOutcome)}
    (hmore : t.outcomes = s.outcomes ++ more) {n : Nat} (h : s.outcome? n ≠ none) :
    t.outcome? n ≠ none := by
  obtain ⟨outcome, houtcome⟩ := Option.ne_none_iff_exists'.1 h
  rw [outcome?_of_append hmore houtcome]
  exact nofun

theorem outcome?_of_running (hline : s.InLine) {r : Running} (hrunning : s.running? = some r) :
    s.outcome? r.job.number = none := by
  rw [InLine, inLine_of_running hrunning] at hline
  exact hline.noOutcome r.job List.mem_cons_self

theorem Named.begin (h : Named setup s) (hfree : s.running? = none) {job : Job}
    (hjob : job.IsChecked) : Named setup (s.begin setup job) := by
  rcases begin_cases setup s hjob with hbegin | ⟨error, -, hbegin⟩
  · rw [hbegin]
    refine ⟨?_, ?_⟩
    · rintro r ⟨⟩
      rfl
    · simpa [outcome?] using h.ended
  · rw [hbegin]
    refine ⟨?_, ?_⟩
    · intro r hr
      rw [show ((s.enter .building).note job.number (.error error)).running?
        = (s.enter .building).running? from rfl, enter_running?, hfree] at hr
      cases hr
    · intro n hn
      refine over_of_append (s := s) (by rw [note, enter_outcomes]) (h.ended n ?_)
      simpa [note] using hn

theorem Named.conclude (h : Named setup s) (hline : s.InLine) {r r' : Running}
    (hrunning : s.running? = some r) (hjob : r'.job = r.job) (hlog : r'.log = r.log)
    (state : BuildState) (outcome : BuildOutcome) :
    Named setup (s.conclude r' state outcome) := by
  refine ⟨nofun, ?_⟩
  intro n hn
  rcases mem_names_conclude.1 hn with ⟨-, hname, -⟩ | hn
  · -- the log that is added is that of the build that is over
    rw [hlog, h.running r hrunning] at hname
    rw [logPath_injective setup hname, outcome?_conclude hline hrunning hjob]
    exact nofun
  · exact over_of_append (conclude_outcomes ..) (h.ended n hn)

theorem named_step (hline : s.InLine) (h : Named setup s) (event : SessionEvent) :
    Named setup (s.step setup event) := by
  have hmoves := step_moves setup s event
  generalize s.step setup event = t at hmoves
  cases hmoves with
  | refused | withdrawn =>
    exact ⟨h.running, fun n hn => over_of_append (s := s) rfl (h.ended n hn)⟩
  | queued | passed => exact ⟨h.running, h.ended⟩
  | @admitted request job hcheck hfree =>
    have hnext : Named setup { s with nextJob := s.nextJob + 1, waiting := [] } :=
      ⟨h.running, h.ended⟩
    exact hnext.begin hfree (check_eq_ok hcheck).2
  | @promoted job rest hfree hwaiting =>
    have hnext : Named setup { s with waiting := rest } := ⟨h.running, h.ended⟩
    exact hnext.begin hfree (hline.checked_of_waiting hwaiting)
  | @advanced _ r r' _ _ hrunning hjob hlog =>
    refine ⟨?_, h.ended⟩
    rintro r₀ ⟨⟩
    rw [hlog, hjob, h.running r hrunning]
  | ended _ hrunning hends => exact h.conclude hline hrunning hends.job hends.log ..

/-- **Logs are named by their builds** at all times. -/
theorem named_run (hline : s.InLine) (h : Named setup s) (events : List SessionEvent) :
    Named setup (s.run setup events) :=
  run_keeps (fun _ event hline h => named_step hline h event) hline h events

theorem named_startWith (setup : BuildSetup) (listeners : List Listener) :
    Named setup (startWith listeners) := by
  constructor <;> nofun

/-- The log of a build that has the turn is not among those that were left behind. -/
theorem Named.not_mem_logs (h : Named setup s) (hline : s.InLine) {r : Running}
    (hrunning : s.running? = some r) : r.log ∉ s.logs.map Prod.fst := by
  rw [h.running r hrunning]
  exact fun hmem => h.ended _ hmem (outcome?_of_running hline hrunning)

/-- The log of a build that is over is not that of the one that has the turn. -/
theorem Named.log_ne (h : Named setup s) (hline : s.InLine) {r : Running}
    (hrunning : s.running? = some r) {n : Nat} (hover : s.outcome? n ≠ none) :
    r.log ≠ logPath setup n := by
  rw [h.running r hrunning]
  rintro hsame
  obtain rfl := logPath_injective setup hsame
  exact hover (outcome?_of_running hline hrunning)

end

/-! ## Logs that exist -/

/-- Who has a log: it was there before, or the build that has the turn writes it, or a result that
    was returned tells of it, or it is that of a build whose error says that it was left. -/
def OwnsLog (setup : BuildSetup) (old : Text → Prop) (s : Session) (log : Text) : Prop :=
  old log ∨ (∃ r, s.running? = some r ∧ r.log = log)
    ∨ (∃ number result, s.outcome? number = some (.ok result) ∧ result.log = log)
    ∨ ∃ number error, s.outcome? number = some (.error error) ∧ error.leavesLog = true
      ∧ logPath setup number = log

variable {s : Session} {old : Text → Prop}

/-- What is had is had later, if the build that has the turn keeps it. -/
theorem OwnsLog.mono {log : Text} (h : OwnsLog setup old s log) {t : Session}
    (hkeeps : ∀ r, s.running? = some r → r.log = log →
      ∃ r', t.running? = some r' ∧ r'.log = r.log)
    {more : List (Nat × BuildOutcome)} (hmore : t.outcomes = s.outcomes ++ more) :
    OwnsLog setup old t log := by
  rcases h with h | ⟨r, hr, rfl⟩ | ⟨n, result, hn, hlog⟩ | ⟨n, error, hn, hlog⟩
  · exact .inl h
  · exact .inr (.inl (hkeeps r hr rfl))
  · exact .inr (.inr (.inl ⟨n, result, outcome?_of_append hmore hn, hlog⟩))
  · exact .inr (.inr (.inr ⟨n, error, outcome?_of_append hmore hn, hlog⟩))

/-- A build that is given its turn has the log that is made for it. -/
theorem begin_ownsLogs (hfree : s.running? = none) {job : Job} (hjob : job.IsChecked)
    (h : ∀ log, s.HasLog log → OwnsLog setup old s log) {log : Text}
    (hlog : (s.begin setup job).HasLog log) : OwnsLog setup old (s.begin setup job) log := by
  obtain ⟨more, hmore⟩ := begin_outcomes setup s job
  have hbefore : log ∈ s.logs.map Prod.fst → OwnsLog setup old (s.begin setup job) log :=
    fun hmem => (h log (.inl hmem)).mono (by simp [hfree]) hmore
  rcases begin_cases setup s hjob with hbegin | ⟨error, -, hbegin⟩
  · rw [hbegin] at hlog hbefore ⊢
    rcases hlog with hmem | ⟨r, hr, hname, -⟩
    · exact hbefore (by simpa using hmem)
    · exact .inr (.inl ⟨r, hr, hname⟩)
  · refine hbefore ?_
    rw [hbegin] at hlog
    have hfree' : ((s.enter .building).note job.number (.error error)).running? = none := by
      rw [← hfree, ← enter_running? s .building]
      rfl
    rw [hasLog_of_free hfree'] at hlog
    simpa [note] using hlog

/-- A build that is over leaves its log to its result, or with an error that says so. -/
theorem conclude_ownsLogs (hline : s.InLine) (hnamed : Named setup s) {r r' : Running}
    (hrunning : s.running? = some r) (h : ∀ log, s.HasLog log → OwnsLog setup old s log)
    {event : SessionEvent} {state : BuildState} {outcome : BuildOutcome}
    (hends : Ends setup r event r' state outcome)
    (hparse : ∀ file?, event = .finish 0 file? → r.launched = true → r.cancelRequested = false →
      ∃ found, Diagnostic.ofOutput r.output.text = .ok found) {log : Text}
    (hlog : (s.conclude r' state outcome).HasLog log) :
    OwnsLog setup old (s.conclude r' state outcome) log := by
  have hended := outcome?_conclude hline hrunning hends.job state outcome
  rw [hasLog_of_free (conclude_running? ..), mem_names_conclude] at hlog
  rcases hlog with ⟨hkeeps, hname, -⟩ | hmem
  · rw [hends.log] at hname
    subst hname
    rcases leaves_or_result (s := s) hends hparse with
      ⟨error, herror, hleaves⟩ | ⟨result, hresult, hown⟩
    · rw [herror] at hended
      rw [hkeeps] at hleaves
      exact .inr (.inr (.inr ⟨_, error, hended, hleaves.symm, (hnamed.running r hrunning).symm⟩))
    · rw [hresult] at hended
      exact .inr (.inr (.inl ⟨_, result, hended, hown⟩))
  · refine (h log (.inl hmem)).mono ?_ (conclude_outcomes ..)
    rintro r₀ hr₀ rfl
    exact absurd hmem (hnamed.not_mem_logs hline hr₀)

theorem ownsLogs_step (hline : s.InLine) (hnamed : Named setup s)
    (h : ∀ log, s.HasLog log → OwnsLog setup old s log) (event : SessionEvent)
    (hparse : ∀ r, s.running? = some r → ∀ file?, event = .finish 0 file? → r.launched = true →
      r.cancelRequested = false → ∃ found, Diagnostic.ofOutput r.output.text = .ok found) :
    ∀ log, (s.step setup event).HasLog log → OwnsLog setup old (s.step setup event) log := by
  intro log hlog
  have hmoves := step_moves setup s event
  generalize s.step setup event = t at hmoves hlog
  cases hmoves with
  | refused | withdrawn => exact (h log hlog).mono (fun r hr _ => ⟨r, hr, rfl⟩) rfl
  | queued => exact (h log hlog).mono (fun r hr _ => ⟨r, hr, rfl⟩) (List.append_nil _).symm
  | @admitted request job hcheck hfree =>
    exact begin_ownsLogs (s := { s with nextJob := s.nextJob + 1, waiting := [] }) hfree
      (check_eq_ok hcheck).2 h hlog
  | @promoted job rest hfree hwaiting =>
    exact begin_ownsLogs (s := { s with waiting := rest }) hfree
      (hline.checked_of_waiting hwaiting) h hlog
  | @advanced _ r r' _ _ hrunning _ hlog' =>
    rcases hlog with hmem | ⟨r₀, hr₀, hname, -⟩
    · refine (h log (.inl hmem)).mono ?_ (List.append_nil _).symm
      intro r₀ hr₀ _
      rw [hrunning] at hr₀
      cases hr₀
      exact ⟨r', rfl, hlog'⟩
    · exact .inr (.inl ⟨r₀, hr₀, hname⟩)
  | ended _ hrunning hends =>
    exact conclude_ownsLogs hline hnamed hrunning h hends (hparse _ hrunning) hlog
  | passed => exact h log hlog

/-- **A log that exists is had by somebody** at all times. -/
theorem ownsLogs_run (hline : s.InLine) (hnamed : Named setup s)
    (h : ∀ log, s.HasLog log → OwnsLog setup old s log)
    {events : List SessionEvent} (hparse : ∀ number, SuccessParses setup s events number) :
    ∀ log, (s.run setup events).HasLog log → OwnsLog setup old (s.run setup events) log := by
  induction events generalizing s with
  | nil => exact h
  | cons event rest ih =>
    refine ih ((step_moves setup s event).stays_inLine hline) (named_step hline hnamed event)
      (ownsLogs_step hline hnamed h event ?_) (fun number => (hparse number).tail)
    rintro r hrunning file? rfl
    exact hparse r.job.number [] file? rest r rfl hrunning rfl

/-! ## Logs that are left, and logs that are gone -/

/-- A log that was left behind stays there. -/
theorem mem_logs_step (event : SessionEvent) {log : Text} (h : log ∈ s.logs.map Prod.fst) :
    log ∈ (s.step setup event).logs.map Prod.fst := by
  have hbegin : ∀ (t : Session) (job : Job), log ∈ t.logs.map Prod.fst →
      log ∈ (t.begin setup job).logs.map Prod.fst := by
    intro t job ht
    rw [← enter_logs t .building] at ht
    simp only [begin]
    split
    · exact ht
    · exact ht
    · split
      · exact mem_names_put.2 (.inr ht)
      · exact ht
  have hmoves := step_moves setup s event
  generalize s.step setup event = t at hmoves
  cases hmoves with
  | refused | queued | withdrawn | advanced | passed => exact h
  | admitted | promoted => exact hbegin _ _ h
  | ended => exact mem_names_conclude.2 (.inr h)

theorem mem_logs_run {log : Text} (h : log ∈ s.logs.map Prod.fst) (events : List SessionEvent) :
    log ∈ (s.run setup events).logs.map Prod.fst := by
  induction events generalizing s with
  | nil => exact h
  | cons event rest ih => exact ih (mem_logs_step event h)

/-- Whether the build of a number is over, and its log does not exist. -/
structure Gone (setup : BuildSetup) (n : Nat) (s : Session) : Prop where
  ended : s.outcome? n ≠ none
  missing : ¬ s.HasLog (logPath setup n)

variable {n : Nat}

/-- The logs that were left behind are as before, and the one of the build that has the turn is that
    of another build. -/
theorem Gone.keep {t : Session} (h : Gone setup n s) (hline : t.InLine) (hnamed : Named setup t)
    {more : List (Nat × BuildOutcome)} (hmore : t.outcomes = s.outcomes ++ more)
    (hlogs : logPath setup n ∈ t.logs.map Prod.fst → logPath setup n ∈ s.logs.map Prod.fst) :
    Gone setup n t := by
  have hover := over_of_append hmore h.ended
  refine ⟨hover, ?_⟩
  rintro (hmem | ⟨r, hr, hname, -⟩)
  · exact h.missing (.inl (hlogs hmem))
  · exact hnamed.log_ne hline hr hover hname

/-- A build that gives its turn up at once leaves no log. -/
theorem begin_logs {job : Job} (hjob : job.IsChecked) :
    (s.begin setup job).logs = s.logs := by
  rcases begin_cases setup s hjob with hbegin | ⟨error, -, hbegin⟩
  · rw [hbegin]
    exact enter_logs ..
  · rw [hbegin]
    exact enter_logs ..

theorem Gone.step (hline : s.InLine) (hnamed : Named setup s) (h : Gone setup n s)
    (event : SessionEvent) : Gone setup n (s.step setup event) := by
  have hmoves := step_moves setup s event
  have hline' := hmoves.stays_inLine hline
  have hnamed' := named_step hline hnamed event
  obtain ⟨more, hmore⟩ := hmoves.outcomes
  refine h.keep hline' hnamed' hmore ?_
  clear hline' hnamed' hmore
  generalize s.step setup event = t at hmoves
  cases hmoves with
  | refused | queued | withdrawn | advanced | passed => exact id
  | admitted hcheck =>
    rw [begin_logs (check_eq_ok hcheck).2]
    exact id
  | promoted _ hwaiting =>
    rw [begin_logs (hline.checked_of_waiting hwaiting)]
    exact id
  | ended _ hrunning hends =>
    intro hmem
    rcases mem_names_conclude.1 hmem with ⟨-, hname, -⟩ | hmem
    · exact absurd (hends.log ▸ hname).symm (hnamed.log_ne hline hrunning h.ended)
    · exact hmem

/-- **A log that is gone does not come back.** -/
theorem Gone.run (hline : s.InLine) (hnamed : Named setup s) (h : Gone setup n s)
    (events : List SessionEvent) : Gone setup n (s.run setup events) := by
  induction events generalizing s with
  | nil => exact h
  | cons event rest ih =>
    exact ih ((step_moves setup s event).stays_inLine hline) (named_step hline hnamed event)
      (h.step hline hnamed event)

/-- **What becomes of the log of a build that has the turn**: once the build has an outcome, that is
    an error that says that the log is left, or another error and the log is gone, or a result that
    has the log, if what was captured of the build can be read in case it succeeds. One that cannot
    be removed is left in any case. -/
theorem gone_or_result (hline : s.InLine) (hnamed : Named setup s) {events : List SessionEvent}
    {r : Running} (hrunning : s.running? = some r) {outcome : BuildOutcome}
    (houtcome : (s.run setup events).outcome? r.job.number = some outcome) :
    (SuccessParses setup s events r.job.number →
      (∃ error, outcome = .error error
          ∧ (error.leavesLog = false → ¬ (s.run setup events).HasLog r.log))
        ∨ ∃ result, outcome = .ok result ∧ result.log = r.log)
      ∧ ∀ error, outcome = .error (.log error) → (s.run setup events).HasLog r.log := by
  obtain ⟨last, r', state, ended, before, event, after, hend, rfl⟩ :=
    exists_end setup hline hrunning houtcome
  have hline' := inLine_run setup hline before
  have hnamed' := named_run hline hnamed before
  have hlog : last.log = r.log := hend.continues.log
  have hnumber : last.job.number = r.job.number := by rw [hend.continues.job]
  refine ⟨fun hparse => ?_, fun error herror => ?_⟩
  · have hparse' : ∀ file?, event = .finish 0 file? → last.launched = true →
        last.cancelRequested = false →
          ∃ found, Diagnostic.ofOutput last.output.text = .ok found := by
      rintro file? rfl
      exact hparse before file? after last hend.events hend.running hnumber
    rcases leaves_or_result (s := s.run setup before) hend.ends hparse' with
      ⟨error, herror, hleaves⟩ | ⟨result, hresult, hown⟩
    · refine .inl ⟨error, herror, fun hgoes => ?_⟩
      -- the log was removed when the build ended, and no later build is given its name
      have hgone : Gone setup last.job.number ((s.run setup before).conclude r' state ended) := by
        refine ⟨?_, ?_⟩
        · rw [outcome?_conclude hline' hend.running hend.ends.job]
          exact nofun
        · rw [hasLog_of_free (conclude_running? ..), mem_names_conclude, hleaves, hgoes,
            ← hnamed'.running last hend.running]
          simpa using hnamed'.not_mem_logs hline' hend.running
      have hline'' := (step_moves setup (s.run setup before) event).stays_inLine hline'
      have hnamed'' := named_step hline' hnamed' event
      rw [hend.step] at hline'' hnamed''
      rw [hend.run_eq, ← hlog, hnamed'.running last hend.running]
      exact (hgone.run hline'' hnamed'' after).missing
    · exact .inr ⟨result, hresult, hown.trans hlog⟩
  · rw [hend.run_eq, ← hlog, ← hend.ends.log]
    obtain ⟨hkeeps, hfile⟩ := keeps_of_log hend.ends herror
    exact .inl (mem_logs_run (mem_names_conclude.2 (.inl ⟨hkeeps, rfl, hfile⟩)) after)

/-- The same of a build that had the turn at some time. -/
theorem gone_or_result_of_append (hline : s.InLine) (hnamed : Named setup s)
    {before after : List SessionEvent} {r : Running}
    (hrunning : (s.run setup before).running? = some r)
    (hparse : SuccessParses setup s (before ++ after) r.job.number) {outcome : BuildOutcome}
    (houtcome : (s.run setup (before ++ after)).outcome? r.job.number = some outcome) :
    (∃ error, outcome = .error error
        ∧ (error.leavesLog = false → ¬ (s.run setup (before ++ after)).HasLog r.log))
      ∨ ∃ result, outcome = .ok result ∧ result.log = r.log := by
  rw [run_append] at houtcome ⊢
  exact (gone_or_result (inLine_run setup hline before) (named_run hline hnamed before) hrunning
    houtcome).1 hparse.drop

end Session

end CompileTrace
