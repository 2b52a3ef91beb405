import CompileTrace.Proofs.Build.Alone

set_option autoImplicit false

/-! # Requests to stop

A request to stop meets the build that has the turn and no other (`Session.cancel_meets_running`).
That build gives no result and does not fail with an exit code from then on, whatever happens
(`Session.isStopped_or_hidden`); and every other build goes as it would have gone without the
request. What keeps a build that was asked to stop from counting as cancelled is that it cannot be
launched or waited for, that what is captured of it cannot be read for diagnostics
(`Session.cancel_unreadable`), that its log cannot be removed, or that the time that it took too
long by cannot be told. -/

namespace CompileTrace

/-- Whether a build ended as one that was asked to stop may end: it was cancelled, or it could not
    be launched, or it could not be waited for. -/
def BuildOutcome.isStopped : BuildOutcome → Bool
  | .error (.cancelled _) | .error (.launch _ _) => true
  | .error (.timeout (.untellable _)) => false
  | .error (.timeout _) => true
  | _ => false

/-- Whether a build that was asked to stop was done with, but cannot count as cancelled: its log
    cannot be removed, or the time that it was waited for cannot be told. -/
def BuildOutcome.isHidden : BuildOutcome → Bool
  | .error (.log _) | .error (.timeout (.untellable _)) => true
  | _ => false

namespace Session

variable {setup : BuildSetup}

/-! ## The build that is met -/

theorem isStopped_failureOf {message output : Text} {exitCode? : Option Int}
    {found : List Diagnostic} (h : Diagnostic.ofOutput output = .ok found) :
    (failureOf .cancelled message output exitCode?).isStopped = true := by
  rw [failureOf_eq h]
  rfl

/-- A build that was asked to stop ends so, unless the time that it took too long by cannot be told,
    or it came to its end by itself and left an output that cannot be read. -/
theorem Ends.isStopped_or_hidden {r r' : Running} {event : SessionEvent} {state : BuildState}
    {outcome : BuildOutcome} (h : Ends setup r event r' state outcome)
    (hcancel : r.cancelRequested = true) :
    state ≠ .ready
      ∧ (outcome.isStopped = true ∨ outcome.isHidden = true
        ∨ ∃ fault exitCode file?, outcome = .error (.output fault)
          ∧ event = .finish exitCode file? ∧ r.launched = true
          ∧ Diagnostic.ofOutput r.output.text = .error fault) := by
  have hnothing : Diagnostic.ofOutput [] = .ok [] := rfl
  cases h with
  | unlaunched => exact ⟨nofun, .inl rfl⟩
  | @unwaitable _ fault _ hfault =>
    refine ⟨nofun, .inl ?_⟩
    cases fault with
    | untellable digits => exact absurd rfl (hfault digits)
    | _ => rfl
  | expired =>
    refine ⟨nofun, ?_⟩
    unfold expiryOf
    split
    · exact .inr (.inl rfl)
    · exact .inl (isStopped_failureOf hnothing)
  | abandoned => exact ⟨nofun, .inl (isStopped_failureOf hnothing)⟩
  | stopped hlaunched =>
    refine ⟨nofun, ?_⟩
    cases hparse : Diagnostic.ofOutput r.output.text with
    | ok found => exact .inl (isStopped_failureOf hparse)
    | error fault =>
      refine .inr (.inr ⟨fault, _, _, ?_, rfl, hlaunched, rfl⟩)
      rw [failureOf, BuildFailure.ofOutput, hparse]
      rfl
  | failed _ hnot | succeeded _ hnot =>
    rw [hcancel] at hnot
    cases hnot

/-- The build that was met by a request to stop. -/
theorem step_cancel {s : Session} {r : Running} (hrunning : s.running? = some r) :
    s.step setup .cancel = { s with running? := some { r with cancelRequested := true } } := by
  rw [step_of_running hrunning rfl]
  rfl

variable {s : Session} {r : Running} {later : List SessionEvent} {outcome : BuildOutcome}

/-- **A build that is asked to stop gives no result**, and does not fail with an exit code. -/
theorem isStopped_or_hidden (hcalm : s.IsCalm) (hline : s.InLine) (hrunning : s.running? = some r)
    (houtcome : ((s.step setup .cancel).run setup later).outcome? r.job.number = some outcome) :
    (outcome.isStopped = true ∨ outcome.isHidden = true ∨ ∃ fault, outcome = .error (.output fault))
      ∧ (CapturesParse setup (s.step setup .cancel) later →
        outcome.isStopped = true ∨ outcome.isHidden = true) := by
  have hline' : (s.step setup .cancel).InLine := (step_moves setup s .cancel).stays_inLine hline
  have hasked : (s.step setup .cancel).running? = some { r with cancelRequested := true } := by
    rw [step_cancel hrunning]
  obtain ⟨last, r', state, ended, before, event, after, hend, rfl⟩ :=
    exists_end setup hline' hasked houtcome
  have hcalm' := isCalm_run setup (isCalm_step setup hcalm .cancel) before
  rcases endingOf_cases ((s.step setup .cancel).run setup before) r' state ended with
    ⟨fault, -, -, hending⟩ | hending
  · rw [hending]
    exact ⟨.inr (.inl rfl), fun _ => .inr rfl⟩
  · rw [hending, outcomeAfter_eq (escape?_of_calm hcalm' state)]
    rcases (hend.ends.isStopped_or_hidden (hend.continues.cancel rfl)).2 with
      hstopped | hhidden | ⟨fault, exitCode, file?, hfault, rfl, hlaunched, houtput⟩
    · exact ⟨.inl hstopped, fun _ => .inl hstopped⟩
    · exact ⟨.inr (.inl hhidden), fun _ => .inr hhidden⟩
    · refine ⟨.inr (.inr ⟨fault, hfault⟩), fun hparse => ?_⟩
      obtain ⟨found, hfound⟩ :=
        hparse before exitCode file? after last hend.events hend.running hlaunched
      rw [houtput] at hfound
      cases hfound

/-- It has an outcome once its turn is over. -/
theorem exists_outcome (hline : s.InLine) (hrunning : s.running? = some r)
    (hover : (s.run setup later).hasTurn r.job.number = false) :
    ∃ outcome, (s.run setup later).outcome? r.job.number = some outcome := by
  rcases keeps_or_ends setup hrunning later with ⟨r', hrunning', hr'⟩ |
    ⟨last, r', state, ended, before, event, after, hend⟩
  · have hturn := hasTurn_of_running hrunning'
    rw [hr'.job, hover] at hturn
    cases hturn
  · exact ⟨_, hend.outcome? hline⟩

/-! ## The other builds -/

/-- The session in which the build that has the turn is asked to stop after some events. -/
theorem run_cancel (setup : BuildSetup) (s : Session) (past later : List SessionEvent) :
    s.run setup (past ++ .cancel :: later)
      = ((s.run setup past).step setup .cancel).run setup later := by
  rw [run_append, run_cons]

/-- A request to stop is met by no other build. -/
theorem ownEvents_cancel {past later : List SessionEvent} {s : Session}
    (hrunning : (s.run setup past).running? = some r) {n : Nat} (hn : n ≠ r.job.number) :
    ownEvents setup n s (past ++ .cancel :: later)
      = ownEvents setup n s past
        ++ ownEvents setup n ((s.run setup past).step setup .cancel) later := by
  have hnot : (s.run setup past).meets n .cancel = false := by
    rw [meets_of_isOfTurn _ _ rfl, Bool.eq_false_iff, Ne, hasTurn_iff hrunning]
    exact hn
  rw [ownEvents_append, ownEvents, hnot, if_neg Bool.false_ne_true, List.nil_append]

/-- A build that had the turn was not withdrawn and will not be. -/
theorem withdraw_notMem_of_running {listeners : List Listener} {past : List SessionEvent}
    (hlogs : setup.logFault? = none) (hcalm : ∀ l ∈ listeners, l.IsCalm)
    (hrunning : ((startWith listeners).run setup past).running? = some r)
    (later : List SessionEvent) :
    .withdraw r.job.number
      ∉ ownEvents setup r.job.number (startWith listeners) (past ++ later) := by
  have hline := inLine_run setup (inLine_startWith listeners) past
  have hmem : r.job ∈ ((startWith listeners).run setup past).inLine := by
    rw [inLine_of_running hrunning]
    exact List.mem_cons_self
  rw [ownEvents_append, List.mem_append, not_or]
  refine ⟨?_, withdraw_notMem_ownEvents (hline.below _ hmem) ?_ later⟩
  · -- it would have an outcome by now
    intro hin
    obtain ⟨turned, hserved⟩ := served_run hlogs hcalm past
    obtain ⟨job, hlast, hnumber⟩ := hserved.named r hrunning
    have hturned := hserved.mem_line (List.mem_append_left _ (List.mem_of_getLast? hlast))
    rw [hnumber] at hturned
    exact hturned.2 hin
  · exact fun job hjob => hline.number_ne_of_waiting hrunning hjob

section

variable {listeners : List Listener} {past later later' : List SessionEvent}
  (hlogs : setup.logFault? = none) (hcalm : ∀ l ∈ listeners, l.IsCalm)
  (hrunning : ((startWith listeners).run setup past).running? = some r)
  (hrequests : later.filterMap SessionEvent.request? = later'.filterMap SessionEvent.request?)

include hrequests in
/-- Runs with a request to stop and without it are whole runs with the same requests for builds. -/
theorem requests_cancel :
    (past ++ .cancel :: later).filterMap SessionEvent.request?
      = (past ++ later').filterMap SessionEvent.request? := by
  rw [List.filterMap_append, List.filterMap_append, ← hrequests]
  rfl

include hrunning in
/-- They are the same up to the request to stop, which no other build meets. -/
theorem ownEvents_eq_of_met {n : Nat} (hn : n ≠ r.job.number)
    (hsame : ownEvents setup n (((startWith listeners).run setup past).step setup .cancel) later
      = ownEvents setup n ((startWith listeners).run setup past) later') :
    ownEvents setup n (startWith listeners) (past ++ .cancel :: later)
      = ownEvents setup n (startWith listeners) (past ++ later') := by
  rw [ownEvents_cancel hrunning hn, ownEvents_append]
  exact congrArg _ hsame

include hlogs hcalm hrunning hrequests

/-- A build that meets the same without the request to stop has the same outcome. -/
theorem outcome?_eq_of_met {n : Nat} (hn : n ≠ r.job.number)
    (hsame : ownEvents setup n (((startWith listeners).run setup past).step setup .cancel) later
      = ownEvents setup n ((startWith listeners).run setup past) later') :
    ((((startWith listeners).run setup past).step setup .cancel).run setup later).outcome? n
      = (((startWith listeners).run setup past).run setup later').outcome? n := by
  have heq := outcome?_eq_of_own hlogs hcalm (requests_cancel hrequests)
    (ownEvents_eq_of_met hrunning hn hsame)
  rwa [run_cancel, run_append] at heq

/-- If all other builds meet the same, and as many wait, the sessions go on alike. -/
theorem alike_of_met
    (hsame : ∀ n ≠ r.job.number,
      ownEvents setup n (((startWith listeners).run setup past).step setup .cancel) later
        = ownEvents setup n ((startWith listeners).run setup past) later')
    (hlength :
      ((((startWith listeners).run setup past).step setup .cancel).run setup later).waiting.length
        = (((startWith listeners).run setup past).run setup later').waiting.length)
    (hover : ((((startWith listeners).run setup past).step setup .cancel).run setup later).hasTurn
      r.job.number = false)
    (hover' : (((startWith listeners).run setup past).run setup later').hasTurn
      r.job.number = false) :
    Alike ((((startWith listeners).run setup past).step setup .cancel).run setup later)
      (((startWith listeners).run setup past).run setup later') := by
  have hkept := withdraw_notMem_of_running hlogs hcalm hrunning
  have hall : (past ++ .cancel :: later).filterMap SessionEvent.request?
      = (past ++ later').filterMap SessionEvent.request? := requests_cancel hrequests
  have heq := alike_of_own hlogs hcalm hall
  rw [run_cancel, run_append] at heq
  refine heq hlength (fun m => ?_) (fun m hm => ?_)
  · by_cases hm : m = r.job.number
    · rw [hm]
      exact iff_of_false (hkept _) (hkept _)
    · rw [ownEvents_eq_of_met hrunning hm (hsame m hm)]
  · -- the build that was met may have met something else, but it has not the turn any more
    have hm' : m ≠ r.job.number := by
      rintro rfl
      rcases hm with hm | hm
      · exact Bool.false_ne_true (hover.symm.trans hm)
      · exact Bool.false_ne_true (hover'.symm.trans hm)
    exact ownEvents_eq_of_met hrunning hm' (hsame m hm')

end

/-- **A request to stop meets the build that has the turn, and no other.** It is answered as met if
    a build has the turn, and if and only if unless a log could not be removed; and else nothing
    happens. The build that is met ends as one that is asked to stop ends, once its turn is over, as
    far as what is captured can be read, its log can be removed and its time can be told. And
    compared with any way in which things might have gone without the request to stop, with the
    same requests and the same events for the other builds, every other build has the same outcome,
    and once as many builds wait, whatever happens from then on. -/
theorem cancel_meets_running (hlogs : setup.logFault? = none) {listeners : List Listener}
    (hcalm : ∀ l ∈ listeners, l.IsCalm) (past : List SessionEvent) :
    let s := (startWith listeners).run setup past
    let asked := s.step setup .cancel
    ((∃ r, s.running? = some r) → s.answersCancel = true)
      ∧ (s.answersCancel = true → (∃ r, s.running? = some r) ∨ s.Stuck)
      ∧ (s.running? = none → asked = s)
      ∧ ∀ r, s.running? = some r →
        (∀ later outcome, (asked.run setup later).outcome? r.job.number = some outcome →
          (outcome.isStopped = true ∨ outcome.isHidden = true
              ∨ ∃ fault, outcome = .error (.output fault))
            ∧ (CapturesParse setup asked later →
              outcome.isStopped = true ∨ outcome.isHidden = true))
        ∧ (∀ later, (asked.run setup later).hasTurn r.job.number = false →
          ∃ outcome, (asked.run setup later).outcome? r.job.number = some outcome)
        ∧ ∀ later later', later.filterMap SessionEvent.request?
            = later'.filterMap SessionEvent.request? →
          (∀ n ≠ r.job.number, ownEvents setup n asked later = ownEvents setup n s later' →
            (asked.run setup later).outcome? n = (s.run setup later').outcome? n)
          ∧ ((∀ n ≠ r.job.number, ownEvents setup n asked later = ownEvents setup n s later') →
            (asked.run setup later).waiting.length = (s.run setup later').waiting.length →
            (asked.run setup later).hasTurn r.job.number = false →
            (s.run setup later').hasTurn r.job.number = false →
            ∀ after, ∀ n ≠ r.job.number,
              ((asked.run setup later).run setup after).outcome? n
                = ((s.run setup later').run setup after).outcome? n) := by
  intro s asked
  have hline : s.InLine := inLine_run setup (inLine_startWith listeners) past
  have hcalm' : s.IsCalm := isCalm_run setup (isCalm_startWith hcalm) past
  have htells : s.StateTells := stateTells_run hlogs (isCalm_startWith hcalm)
    (inLine_startWith listeners) (stateTells_startWith listeners) past
  have hanswers : s.answersCancel = true ↔ s.state = .building := decide_eq_true_iff
  refine ⟨?_, ?_, ?_, ?_⟩
  · exact fun hrunning => hanswers.2 (htells.building (Option.ne_none_iff_exists'.2 hrunning))
  · exact fun hanswered =>
      (htells.running_or_stuck (hanswers.1 hanswered)).imp_left Option.ne_none_iff_exists'.1
  · intro hfree
    exact step_of_free hfree rfl
  · intro r hrunning
    refine ⟨fun later outcome houtcome => isStopped_or_hidden hcalm' hline hrunning houtcome,
      ?_, ?_⟩
    · have hline' : asked.InLine := (step_moves setup s .cancel).stays_inLine hline
      have hasked : asked.running? = some { r with cancelRequested := true } := by
        rw [show asked = _ from step_cancel hrunning]
      intro later hover
      obtain ⟨outcome, houtcome⟩ := exists_outcome hline' hasked hover
      exact ⟨outcome, houtcome⟩
    · intro later later' hrequests
      have houtcome := fun n hn =>
        outcome?_eq_of_met (n := n) hlogs hcalm hrunning hrequests hn
      refine ⟨houtcome, fun hsame hlength hover hover' after n hn => ?_⟩
      have halike := alike_of_met hlogs hcalm hrunning hrequests hsame hlength hover hover'
      exact (halike.run after).outcome? (houtcome n hn (hsame n hn))

/-- A build that is asked to stop before its process is launched, while another one waits: the first
    ends as one that is asked to stop although its exit code is zero, and the second as it does
    without the request. -/
theorem cancel_meets_running_waiting :
    let s := (startWith []).run plainSetup [.submit plainRequest, .submit plainRequest]
    let asked := s.step plainSetup .cancel
    let later : List SessionEvent := [.launch, .finish 0 none, .proceed, .launch, .finish 0 none]
    plainSetup.logFault? = none
      ∧ (∃ r, s.running? = some r)
      ∧ (∃ outcome, (asked.run plainSetup later).outcome? 0 = some outcome
        ∧ outcome.isStopped = true)
      ∧ (asked.run plainSetup later).outcome? 1 = (s.run plainSetup later).outcome? 1 := by
  intro s asked later
  have hlogs : plainSetup.logFault? = none := by decide +kernel
  obtain ⟨-, -, -, hmet⟩ := @cancel_meets_running plainSetup hlogs [] nofun
    [.submit plainRequest, .submit plainRequest]
  have hturn : s.hasTurn 0 = true := by decide +kernel
  obtain ⟨r, hrunning, hnumber⟩ := Option.any_eq_true .. |>.1 hturn
  rw [beq_iff_eq] at hnumber
  obtain ⟨hstops, hends, hothers⟩ := hmet r hrunning
  rw [hnumber] at hstops hends hothers
  have hparse : CapturesParse plainSetup asked later := capturesParse_of_take (by decide +kernel)
  have hover : (asked.run plainSetup later).hasTurn 0 = false := by decide +kernel
  have hsame : ownEvents plainSetup 1 asked later = ownEvents plainSetup 1 s later := by
    decide +kernel
  obtain ⟨outcome, houtcome⟩ := hends later hover
  have hshown : ((asked.run plainSetup later).outcome? 0).all (fun o => !o.isHidden) = true := by
    decide +kernel
  rw [houtcome, Option.all_some, Bool.not_eq_true'] at hshown
  have hstopped := ((hstops later outcome houtcome).2 hparse).resolve_right
    (ne_true_of_eq_false hshown)
  exact ⟨hlogs, ⟨r, hrunning⟩, ⟨outcome, houtcome, hstopped⟩,
    (hothers later later rfl).1 1 (by decide) hsame⟩

/-- A build that is asked to stop and leaves an output that has the form of a diagnostic of no known
    severity: it does not end as one that is asked to stop. -/
theorem cancel_unreadable :
    let s := start.run plainSetup
      [.submit plainRequest, .launch, .line "warn\u0131ng X: m"]
    let ended := (s.step plainSetup .cancel).run plainSetup [.finish (-9) none]
    s.answersCancel = true
      ∧ (ended.outcome? 0).any (fun outcome => !outcome.isStopped) = true := by
  decide +kernel

end Session

end CompileTrace
