import CompileTrace.Proofs.Build.Listeners
import CompileTrace.Proofs.Build.Requests

set_option autoImplicit false

/-! # What listeners are told

Over any run, a session goes to two states for each build that was found in order and was not
withdrawn: one for its turn and one for its end, which tells how the build ended. It goes to none
for a build that was refused or withdrawn, and between turns it is not building
(`Session.told_in_turns`). One thing keeps it from going to the second state: a build whose log
cannot be removed is over without one (`Session.told_stuck`), so that the session stays in the state
of building, and the turn of the next build is not told.

The state and the outcome of a build agree as long as what was captured of it can be read for
diagnostics. -/

namespace CompileTrace

/-- The state that a session goes to when a build ends with an outcome, if it goes to one. -/
def BuildOutcome.endState? : BuildOutcome → Option BuildState
  | .ok _ => some .ready
  | .error (.cancelled _) | .error (.timeout (.untellable _)) => some .cancelled
  | .error (.log _) => none
  | .error _ => some .failed

namespace Session

variable {setup : BuildSetup}

/-! ## States one after the other -/

/-- The states of a list that listeners are told of one after the other: those that differ from the
    one before. -/
def changesFrom (before : BuildState) : List BuildState → List BuildState
  | [] => []
  | state :: rest =>
    if before = state then changesFrom before rest else state :: changesFrom state rest

theorem changesFrom_concat (before state : BuildState) (states : List BuildState) :
    changesFrom before (states ++ [state])
      = changesFrom before states
        ++ if states.getLast?.getD before = state then [] else [state] := by
  induction states generalizing before with
  | nil =>
    rw [List.nil_append, changesFrom, changesFrom, changesFrom, List.nil_append]
    rfl
  | cons first rest ih =>
    have hlast : ∀ other, (first :: rest).getLast?.getD other = rest.getLast?.getD first := by
      intro other
      cases rest <;> simp [List.getLast?_cons]
    rw [List.cons_append, changesFrom, changesFrom, hlast]
    split
    · next hsame => rw [ih, hsame]
    · rw [ih, List.cons_append]

/-! ## Ends -/

/-- The outcome of a build tells the state that it ended in, if what was captured can be read. -/
theorem Ends.endState? {r r' : Running} {event : SessionEvent} {state : BuildState}
    {outcome : BuildOutcome} (h : Ends setup r event r' state outcome)
    (hparse : ∀ exitCode file?, event = .finish exitCode file? → r.launched = true →
      ∃ found, Diagnostic.ofOutput r.output.text = .ok found) :
    outcome.endState? = some state := by
  have hnothing : Diagnostic.ofOutput [] = .ok [] := rfl
  cases h with
  | unlaunched => rfl
  | @unwaitable _ fault _ hfault =>
    cases fault with
    | untellable digits => exact absurd rfl (hfault digits)
    | _ => rfl
  | @expired timeout =>
    unfold expiryOf
    split
    · rfl
    · dsimp only
      rw [failureOf_eq hnothing]
      rfl
  | abandoned =>
    rw [failureOf_eq hnothing]
    rfl
  | stopped hlaunched | failed hlaunched =>
    obtain ⟨found, hfound⟩ := hparse _ _ rfl hlaunched
    rw [failureOf_eq hfound]
    rfl
  | succeeded hlaunched =>
    obtain ⟨found, hfound⟩ := hparse _ _ rfl hlaunched
    simp only [successOf, BuildResult.withDiagnostics_eq hfound]
    rfl

/-- The same of the state that a calm session goes to when it is done with the build. -/
theorem Ends.endState?_endingOf {s : Session} (hcalm : s.IsCalm) {r r' : Running}
    {event : SessionEvent} {state : BuildState} {outcome : BuildOutcome}
    (h : Ends setup r event r' state outcome)
    (hparse : ∀ exitCode file?, event = .finish exitCode file? → r.launched = true →
      ∃ found, Diagnostic.ofOutput r.output.text = .ok found) :
    (s.endingOf r' state outcome).outcome.endState? = (s.endingOf r' state outcome).state? := by
  rcases endingOf_cases s r' state outcome with ⟨fault, -, -, hending⟩ | hending
  · rw [hending]
    rfl
  · rw [hending, outcomeAfter_eq (escape?_of_calm hcalm state)]
    exact h.endState? hparse

/-! ## Accounts -/

/-- The states that a session goes to for some builds that are over and one that may have the
    turn. -/
def visited (ended : List (Job × BuildOutcome)) (running? : Option Running) : List BuildState :=
  ended.flatMap (fun build => .building :: build.2.endState?.toList)
    ++ (running?.map (fun _ => BuildState.building)).toList

/-- What a session has to show after some events, given the builds that are over and the numbers of
    those that were withdrawn. The first and those in line are the jobs that were found in order and
    not withdrawn, a state was told of each turn and of each end, as far as it changed, and each
    build that is over or was withdrawn has its outcome. -/
structure Account (setup : BuildSetup) (events : List SessionEvent) (s : Session)
    (ended : List (Job × BuildOutcome)) (withdrawn : List Nat) : Prop where
  accepted : (accepted setup events).filter (fun job => job.number ∉ withdrawn)
    = ended.map Prod.fst ++ s.inLine
  told : s.told = changesFrom .idle (visited ended s.running?)
  state : s.state = (visited ended s.running?).getLast?.getD .idle
  outcome : ∀ build ∈ ended, s.outcome? build.1.number = some build.2
  withdrawn : ∀ n ∈ withdrawn, (∃ job ∈ Session.accepted setup events, job.number = n)
    ∧ s.outcome? n = some (.error .withdrawn)

section

variable {s : Session} {ended : List (Job × BuildOutcome)} {withdrawn : List Nat}
  {done : List SessionEvent}

/-- What was told when the session went to another state. -/
theorem Account.told_enter (h : Account setup done s ended withdrawn) (state : BuildState) :
    (s.enter state).told = changesFrom .idle (visited ended s.running? ++ [state]) := by
  rw [enter_told, changesFrom_concat, ← h.state, ← h.told]
  split
  · rw [List.append_nil]
  · rfl

/-- What is no request leaves the requests as they are. -/
theorem Account.unasked (h : Account setup done s ended withdrawn) {event : SessionEvent}
    (hevent : event.request? = none) : Account setup (done ++ [event]) s ended withdrawn where
  accepted := by rw [accepted_concat_of_none done hevent, h.accepted]
  told := h.told
  state := h.state
  outcome := h.outcome
  withdrawn := by
    rw [accepted_concat_of_none done hevent]
    exact h.withdrawn

/-- A request that is refused changes nothing but that it has an outcome. -/
theorem Account.refuse (h : Account setup done s ended withdrawn)
    (hnumber : s.nextJob = (requests done).length) {request : BuildRequest} {error : RequestError}
    (hcheck : check setup request s.nextJob = .error error) :
    Account setup (done ++ [.submit request])
      ({ s with nextJob := s.nextJob + 1 }.note s.nextJob (.error (.request error))) ended
      withdrawn := by
  have haccepted : Session.accepted setup (done ++ [.submit request])
      = Session.accepted setup done := by
    rw [accepted_concat_submit, ← hnumber, hcheck]
    exact List.append_nil _
  refine ⟨?_, h.told, h.state, ?_, ?_⟩
  · rw [haccepted, h.accepted]
    rfl
  · exact fun build hbuild => outcome?_of_append rfl (h.outcome build hbuild)
  · intro n hn
    rw [haccepted]
    exact ⟨(h.withdrawn n hn).1, outcome?_of_append rfl (h.withdrawn n hn).2⟩

/-- A request in order puts its job in line. -/
theorem Account.queue (h : Account setup done s ended withdrawn)
    (hnumber : s.nextJob = (requests done).length) {request : BuildRequest} {job : Job}
    (hcheck : check setup request s.nextJob = .ok job) :
    Account setup (done ++ [.submit request])
      { s with nextJob := s.nextJob + 1, waiting := s.waiting ++ [job] } ended withdrawn := by
  have haccepted : Session.accepted setup (done ++ [.submit request])
      = Session.accepted setup done ++ [job] := by
    rw [accepted_concat_submit, ← hnumber, hcheck]
    rfl
  refine ⟨?_, h.told, h.state, h.outcome, ?_⟩
  · -- the number is new, so it is not that of a build that was withdrawn
    have hnew : job.number ∉ withdrawn := by
      intro hmem
      obtain ⟨other, hother, hsame⟩ := (h.withdrawn _ hmem).1
      have hbelow := number_lt_of_mem_accepted hother
      rw [hsame, (check_eq_ok hcheck).1, hnumber] at hbelow
      exact Nat.lt_irrefl _ hbelow
    rw [haccepted, List.filter_append, h.accepted,
      List.filter_eq_self.2 (by simpa using hnew)]
    simp [inLine]
  · intro n hn
    rw [haccepted]
    obtain ⟨⟨other, hother, hsame⟩, houtcome⟩ := h.withdrawn n hn
    exact ⟨⟨other, List.mem_append_left _ hother, hsame⟩, houtcome⟩

/-- The first in line is given its turn, and listeners are told of it. -/
theorem Account.turn (hlogs : setup.logFault? = none) (h : Account setup done s ended withdrawn)
    (hcalm : s.IsCalm) (hfree : s.running? = none) {job : Job} {rest : List Job}
    (hwaiting : s.waiting = job :: rest) (hchecked : job.IsChecked) :
    Account setup done ({ s with waiting := rest }.begin setup job) ended withdrawn := by
  have htold := h.told_enter .building
  have hvisited : visited ended s.running? ++ [.building]
      = visited ended (some (fresh setup job)) := by
    rw [hfree, visited, visited]
    simp
  have hsame : ({ s with waiting := rest }.enter .building).told = (s.enter .building).told := by
    rw [enter_told, enter_told]
  rw [begin_eq hchecked (escape?_of_calm (s := { s with waiting := rest }) hcalm .building) hlogs]
  refine ⟨?_, ?_, ?_, ?_, ?_⟩
  · rw [h.accepted, inLine_of_free hfree, hwaiting]
    simp [inLine, fresh]
  · rw [hvisited] at htold
    exact hsame.trans htold
  · simp [visited]
  · simpa [outcome?] using h.outcome
  · simpa [outcome?] using h.withdrawn

/-- The build that has the turn is over, and listeners are told how it ended. -/
theorem Account.finish (h : Account setup done s ended withdrawn) (hline : s.InLine)
    {r r' : Running} (hrunning : s.running? = some r) (hjob : r'.job = r.job) {state : BuildState}
    {outcome : BuildOutcome}
    (hstate : (s.endingOf r' state outcome).outcome.endState?
      = (s.endingOf r' state outcome).state?) :
    Account setup done (s.conclude r' state outcome)
      (ended ++ [(r.job, (s.endingOf r' state outcome).outcome)]) withdrawn := by
  have hended := outcome?_conclude hline hrunning hjob state outcome
  have houtcomes := conclude_outcomes s r' state outcome
  have hvisited : visited (ended ++ [(r.job, (s.endingOf r' state outcome).outcome)]) none
      = visited ended s.running? ++ (s.endingOf r' state outcome).state?.toList := by
    rw [hrunning, visited, visited, ← hstate]
    simp
  refine ⟨?_, ?_, ?_, ?_, ?_⟩
  · rw [h.accepted, inLine_of_running hrunning, inLine_of_free (conclude_running? ..)]
    simp
  · rw [conclude_running?, hvisited, conclude, release_told]
    cases (s.endingOf r' state outcome).state? with
    | none => simpa using h.told
    | some entered =>
      have htold := h.told_enter entered
      rw [enter_told] at htold
      exact htold
  · rw [conclude_running?, hvisited, conclude, release_state]
    cases (s.endingOf r' state outcome).state? with
    | none => simpa using h.state
    | some entered => simp
  · intro build hbuild
    rcases List.mem_append.1 hbuild with hbuild | hbuild
    · exact outcome?_of_append houtcomes (h.outcome build hbuild)
    · rw [List.mem_singleton.1 hbuild]
      exact hended
  · intro n hn
    exact ⟨(h.withdrawn n hn).1, outcome?_of_append houtcomes (h.withdrawn n hn).2⟩

/-- The build that has the turn goes on. -/
theorem Account.advance (h : Account setup done s ended withdrawn) {r r' : Running}
    (hrunning : s.running? = some r) (hjob : r'.job = r.job) (launches : List Launch) :
    Account setup done { s with running? := some r', launches := launches } ended withdrawn := by
  have hvisited : visited ended (some r') = visited ended s.running? := by
    rw [hrunning, visited, visited]
    rfl
  refine ⟨?_, ?_, ?_, h.outcome, h.withdrawn⟩
  · rw [h.accepted, inLine_of_running hrunning, inLine_of_running rfl, hjob]
  · rw [hvisited]
    exact h.told
  · rw [hvisited]
    exact h.state

/-- A build that waits is withdrawn. -/
theorem Account.withdraw (h : Account setup done s ended withdrawn) (hline : s.InLine) {n : Nat}
    (hwaiting : ∃ job ∈ s.waiting, job.number = n) :
    Account setup done
      { s.note n (.error .withdrawn) with
        waiting := s.waiting.filter (fun job => job.number ≠ n) } ended (withdrawn ++ [n]) := by
  have hlines := withdraw_inLine hline hwaiting
  obtain ⟨job, hjob, hn⟩ := hwaiting
  have hinLine : job ∈ s.inLine := List.mem_append_right _ hjob
  have hnone : s.outcome? n = none := hn ▸ hline.noOutcome job hinLine
  have hnoted : ({ s.note n (.error .withdrawn) with
      waiting := s.waiting.filter (fun job => job.number ≠ n) } : Session).outcomes
        = s.outcomes ++ [(n, .error .withdrawn)] := rfl
  refine ⟨?_, h.told, h.state, ?_, ?_⟩
  · -- a build that is over has an outcome, so it is not the one that is withdrawn
    have hover : ∀ build ∈ ended, build.1.number ≠ n := by
      rintro build hbuild rfl
      rw [h.outcome build hbuild] at hnone
      cases hnone
    calc (Session.accepted setup done).filter (fun job => job.number ∉ withdrawn ++ [n])
        = ((Session.accepted setup done).filter (fun job => job.number ∉ withdrawn)).filter
            (fun job => job.number ≠ n) := by
          rw [List.filter_filter]
          refine List.filter_congr (fun other _ => ?_)
          simp [and_comm]
      _ = (ended.map Prod.fst ++ s.inLine).filter (fun job => job.number ≠ n) := by rw [h.accepted]
      _ = ended.map Prod.fst ++ s.inLine.filter (fun job => job.number ≠ n) := by
          rw [List.filter_append, List.filter_eq_self.2]
          intro other hother
          obtain ⟨build, hbuild, rfl⟩ := List.mem_map.1 hother
          exact decide_eq_true (hover build hbuild)
      _ = _ := by
          rw [← hlines]
          rfl
  · exact fun build hbuild => outcome?_of_append rfl (h.outcome build hbuild)
  · intro m hm
    rcases List.mem_append.1 hm with hm | hm
    · exact ⟨(h.withdrawn m hm).1, outcome?_of_append rfl (h.withdrawn m hm).2⟩
    · obtain rfl := List.mem_singleton.1 hm
      have haccepted : job ∈ (Session.accepted setup done).filter
          (fun job => job.number ∉ withdrawn) := by
        rw [h.accepted]
        exact List.mem_append_right _ hinLine
      refine ⟨⟨job, (List.mem_filter.1 haccepted).1, hn⟩, ?_⟩
      rw [outcome?_concat hnoted, show s.outcomes.lookup m = none from hnone]
      simp

/-- **Each event keeps the accounts.** -/
theorem Account.step (hlogs : setup.logFault? = none) (h : Account setup done s ended withdrawn)
    (hcalm : s.IsCalm) (hnumber : s.nextJob = (requests done).length) (hline : s.InLine)
    {event : SessionEvent}
    (hparse : ∀ r, s.running? = some r → ∀ exitCode file?, event = .finish exitCode file? →
      r.launched = true → ∃ found, Diagnostic.ofOutput r.output.text = .ok found) :
    ∃ ended' withdrawn',
      Account setup (done ++ [event]) (s.step setup event) ended' withdrawn' := by
  have hmoves := step_moves setup s event
  generalize s.step setup event = t at hmoves
  cases hmoves with
  | refused hcheck => exact ⟨ended, withdrawn, h.refuse hnumber hcheck⟩
  | queued hcheck => exact ⟨ended, withdrawn, h.queue hnumber hcheck⟩
  | @admitted request job hcheck hfree hwaiting =>
    -- the job is put in line, and is the first there
    have hqueued := h.queue hnumber hcheck
    have hfirst : s.waiting ++ [job] = job :: [] := by rw [hwaiting, List.nil_append]
    have hturn := hqueued.turn hlogs hcalm hfree hfirst (check_eq_ok hcheck).2
    exact ⟨ended, withdrawn, hturn⟩
  | @promoted job rest hfree hwaiting =>
    have hturn := h.turn hlogs hcalm hfree hwaiting (hline.checked_of_waiting hwaiting)
    exact ⟨ended, withdrawn, hturn.unasked rfl⟩
  | withdrawn hwaiting => exact ⟨ended, _, (h.withdraw hline hwaiting).unasked rfl⟩
  | advanced launches hevent hrunning hjob =>
    exact ⟨ended, withdrawn, (h.advance hrunning hjob launches).unasked hevent⟩
  | ended hevent hrunning hends =>
    have hstate := hends.endState?_endingOf hcalm (hparse _ hrunning)
    exact ⟨_, withdrawn, (h.finish hline hrunning hends.job hstate).unasked hevent⟩
  | passed hevent => exact ⟨ended, withdrawn, h.unasked hevent⟩

end

/-- **Any run keeps the accounts.** -/
theorem exists_account (hlogs : setup.logFault? = none) {listeners : List Listener}
    (hcalm : ∀ l ∈ listeners, l.IsCalm) {events : List SessionEvent}
    (hparse : CapturesParse setup (startWith listeners) events) :
    ∃ ended withdrawn,
      Account setup events ((startWith listeners).run setup events) ended withdrawn := by
  induction events using List.reverseRecOn with
  | nil =>
    refine ⟨[], [], ?_⟩
    constructor <;> first | rfl | nofun
  | append_singleton done event ih =>
    obtain ⟨ended, withdrawn, h⟩ := ih hparse.init
    have hline := inLine_run setup (inLine_startWith listeners) done
    have hcalm' := isCalm_run setup (isCalm_startWith hcalm) done
    rw [run_append, run_cons, run_nil]
    refine h.step hlogs hcalm' (nextJob_run setup listeners done) hline ?_
    rintro r hrunning exitCode file? rfl
    exact hparse done exitCode file? [] r rfl hrunning

/-- If each build that is over left the state of building, all states are told, two for each. -/
theorem changesFrom_visited {ended : List (Job × BuildOutcome)}
    (h : ∀ build ∈ ended, build.2.endState? ≠ none) (running? : Option Running) :
    changesFrom .idle (visited ended running?) = visited ended running? := by
  have hnot : ∀ (outcome : BuildOutcome) state, outcome.endState? = some state →
      state ≠ .building := by
    rintro outcome state hstate rfl
    unfold BuildOutcome.endState? at hstate
    split at hstate <;> cases hstate
  have hfrom : ∀ (ended : List (Job × BuildOutcome)) (before : BuildState), before ≠ .building →
      (∀ build ∈ ended, build.2.endState? ≠ none) →
        changesFrom before (visited ended running?) = visited ended running? := by
    intro ended
    induction ended with
    | nil =>
      intro before hbefore _
      cases running? with
      | none => rfl
      | some r => simp [visited, changesFrom, hbefore]
    | cons build rest ih =>
      intro before hbefore hall
      rw [List.forall_mem_cons] at hall
      obtain ⟨state, hstate⟩ := Option.ne_none_iff_exists'.1 hall.1
      have hother := hnot _ state hstate
      have hsplit : visited (build :: rest) running?
          = .building :: state :: visited rest running? := by
        simp [visited, hstate]
      rw [hsplit, changesFrom, if_neg hbefore, changesFrom, if_neg (Ne.symm hother),
        ih state hother hall.2]
  exact hfrom ended .idle nofun h

theorem endState?_ne_none_iff (outcome : BuildOutcome) :
    outcome.endState? ≠ none ↔ ∀ error, outcome ≠ .error (.log error) := by
  unfold BuildOutcome.endState?
  split
  case h_4 => simp
  all_goals simp_all

/-! ## Whole runs -/

/-- **What listeners are told over a run**, if logs can be made, listeners are calm and what is
    captured can be read. For each build that was found in order, is over and was not withdrawn the
    session went to the state of building and to one that tells how the build ended, for a build
    that has the turn to the former, and for what was refused or withdrawn to none; and listeners
    were told of each change. As long as each log that should go can be removed, these are all
    changes, and the session is building exactly while a build has the turn. A request that is
    refused changes nothing but that it has an outcome, a command line can be put together for one
    that is not, and listeners make no difference. -/
theorem told_in_turns (hlogs : setup.logFault? = none) {listeners : List Listener}
    (hcalm : ∀ l ∈ listeners, l.IsCalm) (events : List SessionEvent)
    (hparse : CapturesParse setup (startWith listeners) events) :
    let s := (startWith listeners).run setup events
    (∃ ended withdrawn, Account setup events s ended withdrawn
        ∧ ((∀ build ∈ ended, ∀ error, build.2 ≠ .error (.log error)) →
          s.told = visited ended s.running?))
      ∧ (∀ q ∈ requests events, ∀ error, check setup q.1 q.2 = .error error →
        s.outcome? q.2 = some (.error (.request error)))
      ∧ s.StateTells
      ∧ Tells listeners s
      ∧ s.deaf = start.run setup events
      ∧ (∀ request error, check setup request s.nextJob = .error error →
        s.step setup (.submit request)
          = { s with
              nextJob := s.nextJob + 1
              outcomes := s.outcomes ++ [(s.nextJob, .error (.request error))] })
      ∧ ∀ request number job log, check setup request number = .ok job →
        ∃ command,
          checkedCommand setup.tool job.target log job.properties.asGiven = .ok command := by
  intro s
  have hline := inLine_startWith listeners
  have hcalm' := isCalm_startWith hcalm
  refine ⟨?_, fun q hq error herror => outcome?_of_refused listeners hq herror,
    stateTells_run hlogs hcalm' hline (stateTells_startWith listeners) events,
    tells_run hcalm' (tells_startWith listeners) events, deaf_run hcalm' events, ?_, ?_⟩
  · obtain ⟨ended, withdrawn, h⟩ := exists_account hlogs hcalm hparse
    refine ⟨ended, withdrawn, h, fun hremoved => ?_⟩
    rw [h.told]
    exact changesFrom_visited
      (fun build hbuild => (endState?_ne_none_iff _).2 (hremoved build hbuild)) _
  · intro request error hcheck
    simp only [step, submit, hcheck, note]
  · intro request number job log hcheck
    exact ⟨_, checkedCommand_asGiven (check_eq_ok hcheck).2 setup.tool job.target log⟩

/-- A build that waits for another one, a request that is refused in between, a request to stop, and
    a listener that always fails. -/
theorem told_in_turns_stopped :
    let events : List SessionEvent :=
      [.submit plainRequest, .submit { plainRequest with target? := none }, .submit plainRequest,
        .submit plainRequest, .launch, .line "App.cs(1,2): warning W1: m", .withdraw 2,
        .finish 0 none, .proceed, .launch, .cancel, .finish 0 none]
    let s := (startWith [.failing]).run plainSetup events
    plainSetup.logFault? = none
      ∧ CapturesParse plainSetup (startWith [.failing]) events
      ∧ (∃ ended withdrawn, Account plainSetup events s ended withdrawn)
      ∧ s.told = [.building, .ready, .building, .cancelled] := by
  intro events s
  have hlogs : plainSetup.logFault? = none := by decide +kernel
  have hcalm : ∀ l ∈ [Listener.failing], l.IsCalm := by simpa using Listener.isCalm_failing
  have hparse : CapturesParse plainSetup (startWith [.failing]) events :=
    capturesParse_of_take (by decide +kernel)
  obtain ⟨ended, withdrawn, h, -⟩ := (told_in_turns hlogs hcalm events hparse).1
  exact ⟨hlogs, hparse, ⟨ended, withdrawn, h⟩, by decide +kernel⟩

/-- A build that leaves a directory at the path of its log and fails: the session stays in the state
    of building without a build, and neither the end of that build nor the turn of the next one is
    told. -/
theorem told_stuck :
    let stuck : LogFile := ⟨[], some .isDirectory, some .isDirectory⟩
    let fails : List SessionEvent :=
      [.submit plainRequest, .submit plainRequest, .launch, .finish 1 (some stuck)]
    let s := start.run plainSetup fails
    let t := s.run plainSetup [.proceed, .launch, .finish 1 none]
    let log := logPath plainSetup 0
    plainSetup.logFault? = none
      ∧ (accepted plainSetup fails).length = 2
      ∧ s.outcome? 0 = some (.error (.log (.system .isDirectory log)))
      ∧ s.logs.map Prod.fst = [log] ∧ s.running? = none ∧ s.state = .building ∧ s.told = [.building]
      ∧ (t.outcome? 1).isSome = true ∧ t.told = [.building, .failed] := by
  decide +kernel

end Session

end CompileTrace
