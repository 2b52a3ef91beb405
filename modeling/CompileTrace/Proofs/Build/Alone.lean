import CompileTrace.Proofs.Build.Listeners
import CompileTrace.Proofs.Build.Requests

set_option autoImplicit false

/-! # Builds by themselves

What becomes of a build depends on what it is asked to do and on what happens to it, which is to say
while it has the turn, or when it is withdrawn before, and on nothing else
(`Session.outcome?_eq_of_own`): each build of a session goes as it goes in a session of its own,
told the same events (`Session.served_run`). What a session does from some point on depends on the
build that has the turn, on those that wait and on the number that is next (`Session.Alike.run`).

All of this is said of calm sessions: something that escapes from a listener is told in the outcome
of the build that has the turn. -/

namespace CompileTrace

namespace Session

variable {setup : BuildSetup}

/-! ## What an event makes of a build -/

/-- What an event makes of a session in which the build of a number has the turn: the build goes on
    in some way or gives its turn up, and outcomes of that build are added. -/
structure Leads (s t : Session) (number : Nat) (next? : Option Running)
    (more : List (Nat × BuildOutcome)) : Prop where
  running : t.running? = next?
  keeps : ∀ r, next? = some r → r.job.number = number
  outcomes : t.outcomes = s.outcomes ++ more
  mine : ∀ entry ∈ more, entry.1 = number
  waiting : t.waiting = s.waiting
  nextJob : t.nextJob = s.nextJob

/-- Calm sessions are done with a build in the same way. -/
theorem endingOf_of_calm {s : Session} (hcalm : s.IsCalm) (r : Running) (state : BuildState)
    (outcome : BuildOutcome) : s.endingOf r state outcome = start.endingOf r state outcome := by
  have hstart : start.IsCalm := nofun
  simp only [endingOf, outcomeAfter, escape?_of_calm hcalm, escape?_of_calm hstart]

theorem leads_conclude {s : Session} (hcalm : s.IsCalm) {r r' : Running} (hjob : r'.job = r.job)
    (state : BuildState) (outcome : BuildOutcome) :
    Leads s (s.conclude r' state outcome) r.job.number none
      [(r.job.number, (start.endingOf r' state outcome).outcome)] where
  running := conclude_running? ..
  keeps := by simp
  outcomes := by rw [conclude_outcomes, hjob, endingOf_of_calm hcalm]
  mine := by simp
  waiting := conclude_waiting ..
  nextJob := conclude_nextJob ..

theorem leads_goOn (s : Session) {r r' : Running} (hjob : r'.job = r.job)
    (launches : List Launch) :
    Leads s { s with running? := some r', launches := launches } r.job.number (some r') [] :=
  ⟨rfl, by simp [hjob], (List.append_nil _).symm, by simp, rfl, rfl⟩

theorem leads_stay {s : Session} {r : Running} (hrunning : s.running? = some r) :
    Leads s s r.job.number (some r) [] :=
  ⟨hrunning, by simp, (List.append_nil _).symm, by simp, rfl, rfl⟩

/-- **What an event makes of the build that has the turn does not depend on the rest of the
    session.** -/
theorem exists_leads (setup : BuildSetup) (r : Running) (event : SessionEvent) :
    ∃ next? more, ∀ s : Session, s.IsCalm → s.running? = some r →
      Leads s (s.advance setup r event) r.job.number next? more := by
  have hstay : ∃ next? more, ∀ s : Session, s.IsCalm → s.running? = some r →
      Leads s s r.job.number next? more :=
    ⟨some r, [], fun s _ hrunning => leads_stay hrunning⟩
  have hconclude : ∀ r' : Running, r'.job = r.job → ∀ state outcome, ∃ next? more,
      ∀ s : Session, s.IsCalm → s.running? = some r →
        Leads s (s.conclude r' state outcome) r.job.number next? more :=
    fun r' hjob state outcome => ⟨none, _, fun s hcalm _ => leads_conclude hcalm hjob state outcome⟩
  cases event with
  | submit | proceed | withdraw => exact hstay
  | abandon =>
    simp only [advance, abandon]
    exact hconclude r rfl ..
  | cancel => exact ⟨some _, [], fun s _ _ => leads_goOn s rfl s.launches⟩
  | leave file? => exact ⟨some _, [], fun s _ _ => leads_goOn s rfl s.launches⟩
  | launch =>
    simp only [advance]
    split
    · exact hstay
    · unfold launch
      split
      · exact hconclude r rfl ..
      · exact ⟨some _, [], fun s _ _ => leads_goOn s rfl _⟩
  | line text =>
    simp only [advance]
    split
    · exact ⟨some _, [], fun s _ _ => leads_goOn s rfl s.launches⟩
    · exact hstay
  | finish exitCode file? =>
    simp only [advance]
    split
    · unfold finish
      dsimp only
      repeat' split
      all_goals exact hconclude { r with file? := file? } rfl ..
    · exact hstay
  | breakOff reason =>
    simp only [advance]
    split
    · exact hconclude r rfl ..
    · exact hstay
  | silence =>
    simp only [advance]
    split
    · exact hconclude r rfl ..
    · exact hstay
  | expire =>
    simp only [advance]
    split
    · unfold expire
      repeat' split
      · exact hstay
      all_goals exact hconclude r rfl ..
    · exact hstay

/-! ## Sessions that go on in the same way -/

/-- Whether the same build has the turn in two calm sessions, the same builds wait for theirs, and
    the same number is next. -/
structure Alike (s t : Session) : Prop where
  calm : s.IsCalm ∧ t.IsCalm
  running : s.running? = t.running?
  waiting : s.waiting = t.waiting
  nextJob : s.nextJob = t.nextJob

/-- Whether two sessions came to two that are alike and added the same outcomes on the way. -/
structure InStep (s t s' t' : Session) : Prop where
  alike : Alike s' t'
  added : ∃ more, s'.outcomes = s.outcomes ++ more ∧ t'.outcomes = t.outcomes ++ more

theorem InStep.trans {s t s' t' s'' t'' : Session} (h : InStep s t s' t')
    (h' : InStep s' t' s'' t'') : InStep s t s'' t'' := by
  obtain ⟨more, hs, ht⟩ := h.added
  obtain ⟨more', hs', ht'⟩ := h'.added
  exact ⟨h'.alike, more ++ more', by rw [hs', hs, List.append_assoc],
    by rw [ht', ht, List.append_assoc]⟩

/-- An outcome that is the same before is the same after. -/
theorem InStep.outcome? {s t s' t' : Session} (h : InStep s t s' t') {n : Nat}
    (hsame : s.outcome? n = t.outcome? n) : s'.outcome? n = t'.outcome? n := by
  obtain ⟨more, hs, ht⟩ := h.added
  rw [Session.outcome?, Session.outcome?] at hsame ⊢
  rw [hs, ht, List.lookup_append, List.lookup_append, hsame]

theorem isCalm_enter {s : Session} (h : s.IsCalm) (state : BuildState) : (s.enter state).IsCalm :=
  isCalm_of_listeners (enter_listeners s state) h

theorem InStep.enter {s t s' t' : Session} (h : InStep s t s' t') (state : BuildState) :
    InStep s t (s'.enter state) (t'.enter state) where
  alike := ⟨⟨isCalm_enter h.alike.calm.1 state, isCalm_enter h.alike.calm.2 state⟩,
    by simp [h.alike.running], by simp [h.alike.waiting], by simp [h.alike.nextJob]⟩
  added := by simpa using h.added

theorem InStep.note {s t s' t' : Session} (h : InStep s t s' t') (number : Nat)
    (outcome : BuildOutcome) : InStep s t (s'.note number outcome) (t'.note number outcome) where
  alike := ⟨h.alike.calm, h.alike.running, h.alike.waiting, h.alike.nextJob⟩
  added := by
    obtain ⟨more, hs, ht⟩ := h.added
    exact ⟨more ++ [(number, outcome)], by simp [Session.note, hs], by simp [Session.note, ht]⟩

namespace Alike

variable {s t : Session}

theorem inStep (h : Alike s t) : InStep s t s t :=
  ⟨h, [], (List.append_nil _).symm, (List.append_nil _).symm⟩

theorem begin (h : Alike s t) (job : Job) :
    InStep s t (s.begin setup job) (t.begin setup job) := by
  have hbuilding := h.inStep.enter .building
  simp only [Session.begin, escape?_of_calm h.calm.1, escape?_of_calm h.calm.2]
  cases setup.logFault? with
  | some error => exact hbuilding.note ..
  | none =>
    dsimp only
    have hcalm := hbuilding.alike.calm
    cases checkedCommand setup.tool job.target (logPath setup job.number)
      job.properties.asGiven with
    | error error =>
      have hnoted := hbuilding.note job.number (.error (.request error))
      exact ⟨⟨hcalm, hnoted.alike.running, hnoted.alike.waiting, hnoted.alike.nextJob⟩,
        hnoted.added⟩
    | ok command =>
      exact ⟨⟨hcalm, rfl, hbuilding.alike.waiting, hbuilding.alike.nextJob⟩, hbuilding.added⟩

theorem submit (h : Alike s t) (request : BuildRequest) :
    InStep s t (s.submit setup request) (t.submit setup request) := by
  have hnext : InStep s t { s with nextJob := s.nextJob + 1 } { t with nextJob := t.nextJob + 1 } :=
    ⟨⟨h.calm, h.running, h.waiting, by rw [h.nextJob]⟩, h.inStep.added⟩
  simp only [Session.submit, h.nextJob, h.running, h.waiting] at hnext ⊢
  split
  · exact hnext.note ..
  · split
    · exact hnext.trans (hnext.alike.begin _)
    · exact ⟨⟨h.calm, rfl, rfl, rfl⟩, hnext.added⟩

theorem proceed (h : Alike s t) : InStep s t (s.proceed setup) (t.proceed setup) := by
  cases hrunning : t.running? with
  | some r =>
    rw [proceed_of_running hrunning, proceed_of_running (h.running.trans hrunning)]
    exact h.inStep
  | none =>
    cases hwaiting : t.waiting with
    | nil =>
      rw [proceed_of_nil hwaiting, proceed_of_nil (h.waiting.trans hwaiting)]
      exact h.inStep
    | cons job rest =>
      have hnext : InStep s t { s with waiting := rest } { t with waiting := rest } :=
        ⟨⟨h.calm, h.running, rfl, h.nextJob⟩, h.inStep.added⟩
      rw [proceed_of_waiting hrunning hwaiting,
        proceed_of_waiting (h.running.trans hrunning) (h.waiting.trans hwaiting)]
      exact hnext.trans (hnext.alike.begin job)

theorem withdraw (h : Alike s t) (number : Nat) :
    InStep s t (s.withdraw number) (t.withdraw number) := by
  simp only [Session.withdraw, h.waiting]
  split
  · have hnoted := h.inStep.note number (.error .withdrawn)
    exact ⟨⟨h.calm, h.running, rfl, h.nextJob⟩, hnoted.added⟩
  · exact h.inStep

/-- **An event does the same to sessions that are alike.** -/
theorem step (h : Alike s t) (event : SessionEvent) :
    InStep s t (s.step setup event) (t.step setup event) := by
  cases hturn : event.isOfTurn with
  | false =>
    cases event with
    | submit request => exact h.submit request
    | proceed => exact h.proceed
    | withdraw number => exact h.withdraw number
    | _ => cases hturn
  | true =>
    cases hrunning : t.running? with
    | none =>
      rw [step_of_free hrunning hturn, step_of_free (h.running.trans hrunning) hturn]
      exact h.inStep
    | some r =>
      have hrunning' := h.running.trans hrunning
      obtain ⟨next?, more, hleads⟩ := exists_leads setup r event
      have hs := hleads s h.calm.1 hrunning'
      have ht := hleads t h.calm.2 hrunning
      have hcalm := And.intro (isCalm_step setup h.calm.1 event)
        (isCalm_step setup h.calm.2 event)
      rw [step_of_running hrunning hturn, step_of_running hrunning' hturn] at hcalm ⊢
      exact ⟨⟨hcalm, hs.running.trans ht.running.symm, by rw [hs.waiting, ht.waiting, h.waiting],
        by rw [hs.nextJob, ht.nextJob, h.nextJob]⟩, more, hs.outcomes, ht.outcomes⟩

/-- **Sessions that are alike go on in the same way.** -/
theorem run (h : Alike s t) (events : List SessionEvent) :
    InStep s t (s.run setup events) (t.run setup events) := by
  induction events generalizing s t with
  | nil => exact h.inStep
  | cons event rest ih => exact (h.step event).trans (ih (h.step event).alike)

end Alike

/-! ## What happens to a build -/

/-- Whether the build of a number has the turn. -/
def hasTurn (s : Session) (number : Nat) : Bool := s.running?.any (fun r => r.job.number == number)

theorem hasTurn_iff {s : Session} {r : Running} (hrunning : s.running? = some r) {n : Nat} :
    s.hasTurn n = true ↔ n = r.job.number := by
  rw [hasTurn, hrunning, Option.any_some, beq_iff_eq]
  exact eq_comm

theorem hasTurn_of_running {s : Session} {r : Running} (hrunning : s.running? = some r) :
    s.hasTurn r.job.number = true := (hasTurn_iff hrunning).2 rfl

/-- Whether an event happens to the build of a number: it is for the build that has the turn, or it
    withdraws the build while it waits. -/
def meets (s : Session) (number : Nat) : SessionEvent → Bool
  | .withdraw n => n == number && s.waiting.any (fun job => job.number = n)
  | event => event.isOfTurn && s.hasTurn number

theorem meets_of_isOfTurn (s : Session) (number : Nat) {event : SessionEvent}
    (hturn : event.isOfTurn = true) : s.meets number event = s.hasTurn number := by
  cases event with
  | submit | proceed | withdraw => cases hturn
  | _ => exact Bool.true_and _

/-- The events that happen to the build of a number. -/
def ownEvents (setup : BuildSetup) (number : Nat) : Session → List SessionEvent → List SessionEvent
  | _, [] => []
  | s, event :: rest =>
    (if s.meets number event then [event] else [])
      ++ ownEvents setup number (s.step setup event) rest

theorem ownEvents_append (setup : BuildSetup) (number : Nat) (s : Session)
    (before after : List SessionEvent) :
    ownEvents setup number s (before ++ after)
      = ownEvents setup number s before
        ++ ownEvents setup number (s.run setup before) after := by
  induction before generalizing s with
  | nil => rfl
  | cons event rest ih =>
    rw [List.cons_append, ownEvents, ownEvents, ih, run_cons, List.append_assoc]

theorem ownEvents_concat (number : Nat) (s : Session) (done : List SessionEvent)
    (event : SessionEvent) :
    ownEvents setup number s (done ++ [event])
      = ownEvents setup number s done
        ++ (if (s.run setup done).meets number event then [event] else []) := by
  rw [ownEvents_append, ownEvents, ownEvents, List.append_nil]

/-- What an event adds to the builds that wait has a new number. -/
theorem mem_waiting_step {s : Session} {event : SessionEvent} {job : Job}
    (hjob : job ∈ (s.step setup event).waiting) : job ∈ s.waiting ∨ job.number = s.nextJob := by
  have hbegin : ∀ (t : Session) (job : Job), (t.begin setup job).waiting = t.waiting := by
    intro t job
    simp only [begin]
    repeat' split
    all_goals exact enter_waiting ..
  have hmoves := step_moves setup s event
  generalize s.step setup event = t at hmoves hjob
  cases hmoves with
  | refused | advanced | passed => exact .inl hjob
  | queued hcheck =>
    rcases List.mem_append.1 hjob with hjob | hjob
    · exact .inl hjob
    · rw [List.mem_singleton.1 hjob]
      exact .inr (check_eq_ok hcheck).1
  | admitted =>
    rw [hbegin] at hjob
    cases hjob
  | promoted _ hwaiting =>
    rw [hbegin] at hjob
    rw [hwaiting]
    exact .inl (List.mem_cons_of_mem _ hjob)
  | withdrawn => exact .inl (List.mem_filter.1 hjob).1
  | ended =>
    rw [conclude_waiting] at hjob
    exact .inl hjob

/-- A build that does not wait is not withdrawn any more. -/
theorem withdraw_notMem_ownEvents {s : Session} {n : Nat} (hbelow : n < s.nextJob)
    (hnot : ∀ job ∈ s.waiting, job.number ≠ n) (events : List SessionEvent) :
    .withdraw n ∉ ownEvents setup n s events := by
  induction events generalizing s with
  | nil => nofun
  | cons event rest ih =>
    have hnext : n < (s.step setup event).nextJob := by
      rw [nextJob_step]
      omega
    rw [ownEvents, List.mem_append, not_or]
    refine ⟨?_, ih hnext ?_⟩
    · intro hmem
      split at hmem
      · next hmeets =>
        rw [← List.mem_singleton.1 hmem, meets, Bool.and_eq_true, List.any_eq_true] at hmeets
        obtain ⟨-, job, hjob, hnumber⟩ := hmeets
        exact hnot job hjob (of_decide_eq_true hnumber)
      · cases hmem
    · intro job hjob
      rcases mem_waiting_step hjob with hjob | hnumber
      · exact hnot job hjob
      · omega

/-! ## Each build by itself -/

/-- A session in which one build is given its turn and meets some events. -/
def alone (setup : BuildSetup) (job : Job) (events : List SessionEvent) : Session :=
  (start.begin setup job).run setup events

theorem alone_concat (job : Job) (events : List SessionEvent) (event : SessionEvent) :
    alone setup job (events ++ [event]) = (alone setup job events).step setup event := by
  rw [alone, run_append]
  rfl

theorem isCalm_alone (job : Job) (events : List SessionEvent) :
    (alone setup job events).IsCalm := by
  have hbegun : (start.begin setup job).IsCalm := by
    have hstart : start.IsCalm := nofun
    have hentered := isCalm_enter hstart .building
    simp only [begin]
    repeat' split
    all_goals exact hentered
  exact isCalm_run setup hbegun events

section

variable (hlogs : setup.logFault? = none)

include hlogs

/-- At first the build is as it is when it gets its turn in any other session. -/
theorem alone_nil_running? {job : Job} (hjob : job.IsChecked) :
    (alone setup job []).running? = some (fresh setup job) := by
  have hstart : start.IsCalm := nofun
  rw [alone, run_nil, begin_eq hjob (escape?_of_calm hstart _) hlogs]

theorem alone_nil_outcome? {job : Job} (hjob : job.IsChecked) (n : Nat) :
    (alone setup job []).outcome? n = none := by
  have hstart : start.IsCalm := nofun
  rw [alone, run_nil, begin_eq hjob (escape?_of_calm hstart _) hlogs, outcome?]
  simp [start]

end

/-- Whether the jobs of a session that were given their turn went as they go by themselves, told the
    events that happened to them: all jobs but those that were withdrawn had their turn or wait for
    it, and the one that has the turn is the last that was given one. -/
structure Served (setup : BuildSetup) (jobs : List Job) (own : Nat → List SessionEvent)
    (s : Session) (turned : List Job) : Prop where
  line : jobs.filter (fun job => .withdraw job.number ∉ own job.number) = turned ++ s.waiting
  quiet : ∀ job ∈ s.waiting, own job.number = []
  unknown : ∀ n, (∀ job ∈ jobs, job.number ≠ n) → own n = []
  running : s.running?
    = turned.getLast?.bind (fun job => (alone setup job (own job.number)).running?)
  named : ∀ r, s.running? = some r → ∃ job, turned.getLast? = some job ∧ job.number = r.job.number
  outcome : ∀ job ∈ jobs, .withdraw job.number ∉ own job.number →
    s.outcome? job.number = (alone setup job (own job.number)).outcome? job.number
  withdrawn : ∀ job ∈ jobs, .withdraw job.number ∈ own job.number →
    s.outcome? job.number = some (.error .withdrawn)

section

variable {jobs turned : List Job} {own : Nat → List SessionEvent} {s : Session}

/-- The builds that had their turn or wait for it are jobs that were not withdrawn. -/
theorem Served.mem_line (h : Served setup jobs own s turned) {job : Job}
    (hjob : job ∈ turned ++ s.waiting) :
    job ∈ jobs ∧ .withdraw job.number ∉ own job.number := by
  rw [← h.line, List.mem_filter] at hjob
  exact ⟨hjob.1, of_decide_eq_true hjob.2⟩

/-- A request that is refused. -/
theorem Served.refuse (h : Served setup jobs own s turned)
    (hbelow : ∀ job ∈ jobs, job.number < s.nextJob) (outcome : BuildOutcome) :
    Served setup jobs own ({ s with nextJob := s.nextJob + 1 }.note s.nextJob outcome) turned := by
  have hsame : ∀ job ∈ jobs,
      ({ s with nextJob := s.nextJob + 1 }.note s.nextJob outcome).outcome? job.number
        = s.outcome? job.number := by
    intro job hjob
    rw [outcome?_concat rfl, if_neg (Nat.ne_of_lt (hbelow job hjob)), Option.or_none]
    rfl
  refine ⟨h.line, h.quiet, h.unknown, h.running, h.named, ?_, ?_⟩
  · intro job hjob
    rw [hsame job hjob]
    exact h.outcome job hjob
  · intro job hjob
    rw [hsame job hjob]
    exact h.withdrawn job hjob

/-- A request in order. -/
theorem Served.queue (hlogs : setup.logFault? = none) (h : Served setup jobs own s turned)
    {job : Job} (hchecked : job.IsChecked) (hbelow : ∀ other ∈ jobs, other.number ≠ job.number)
    (hnone : s.outcome? job.number = none) :
    Served setup (jobs ++ [job]) own
      { s with nextJob := s.nextJob + 1, waiting := s.waiting ++ [job] } turned := by
  have hown : own job.number = [] := h.unknown _ hbelow
  refine ⟨?_, ?_, ?_, h.running, h.named, ?_, ?_⟩
  · have hkept : [job].filter (fun job => .withdraw job.number ∉ own job.number) = [job] := by
      rw [List.filter_eq_self]
      intro other hother
      rw [List.mem_singleton.1 hother, hown]
      rfl
    rw [List.filter_append, h.line, hkept, List.append_assoc]
  · intro other hother
    rcases List.mem_append.1 hother with hother | hother
    · exact h.quiet other hother
    · rw [List.mem_singleton.1 hother, hown]
  · intro n hn
    exact h.unknown n (fun other hother => hn other (List.mem_append_left _ hother))
  · intro other hother
    rcases List.mem_append.1 hother with hother | hother
    · exact h.outcome other hother
    · rw [List.mem_singleton.1 hother, hown, alone_nil_outcome? hlogs hchecked]
      exact fun _ => hnone
  · intro other hother
    rcases List.mem_append.1 hother with hother | hother
    · exact h.withdrawn other hother
    · rw [List.mem_singleton.1 hother, hown]
      nofun

/-- The first in line is given its turn. -/
theorem Served.begin (hlogs : setup.logFault? = none) (h : Served setup jobs own s turned)
    (hcalm : s.IsCalm) {job : Job} {rest : List Job} (hwaiting : s.waiting = job :: rest)
    (hchecked : job.IsChecked) :
    Served setup jobs own ({ s with waiting := rest }.begin setup job) (turned ++ [job]) := by
  have hquiet := h.quiet
  rw [hwaiting, List.forall_mem_cons] at hquiet
  rw [begin_eq hchecked (escape?_of_calm (s := { s with waiting := rest }) hcalm _) hlogs]
  refine ⟨?_, ?_, h.unknown, ?_, ?_, ?_, ?_⟩
  · rw [h.line, hwaiting]
    simp
  · intro other hother
    exact hquiet.2 other (by simpa using hother)
  · rw [List.getLast?_concat, Option.bind_some, hquiet.1, alone_nil_running? hlogs hchecked]
  · rintro r ⟨⟩
    exact ⟨job, List.getLast?_concat, rfl⟩
  · simpa [outcome?] using h.outcome
  · simpa [outcome?] using h.withdrawn

/-- The build that has the turn meets an event, and so does it by itself. -/
theorem Served.advance (h : Served setup jobs own s turned) (hcalm : s.IsCalm)
    (hline : s.InLine) (hdistinct : (jobs.map Job.number).Nodup) {r : Running}
    (hrunning : s.running? = some r) {event : SessionEvent} (hturn : event.isOfTurn = true) :
    Served setup jobs (fun n => own n ++ (if s.hasTurn n then [event] else []))
      (s.step setup event) turned := by
  obtain ⟨job, hlast, hnumber⟩ := h.named r hrunning
  have hjob : job ∈ jobs :=
    (h.mem_line (List.mem_append_left _ (List.mem_of_getLast? hlast))).1
  have halone : (alone setup job (own job.number)).running? = some r := by
    have hsame := h.running
    rw [hlast, Option.bind_some] at hsame
    rw [← hsame, hrunning]
  obtain ⟨next?, more, hleads⟩ := exists_leads setup r event
  have hs := hleads s hcalm hrunning
  have ha := hleads _ (isCalm_alone job (own job.number)) halone
  rw [← step_of_running hrunning hturn] at hs
  rw [← step_of_running halone hturn, ← alone_concat] at ha
  have hmem : ∀ n, .withdraw n ∈ own n ++ (if s.hasTurn n then [event] else [])
      ↔ .withdraw n ∈ own n := by
    intro n
    rw [List.mem_append, or_iff_left]
    intro hmem
    split at hmem
    · rw [← List.mem_singleton.1 hmem] at hturn
      cases hturn
    · cases hmem
  have hown : own job.number ++ (if s.hasTurn job.number then [event] else [])
      = own job.number ++ [event] := by
    rw [if_pos ((hasTurn_iff hrunning).2 hnumber)]
  refine ⟨?_, ?_, ?_, ?_, ?_, ?_, ?_⟩
  · rw [hs.waiting, ← h.line]
    exact List.filter_congr (fun other _ => by simp only [hmem])
  · intro other hother
    rw [hs.waiting] at hother
    have hne := mt (hasTurn_iff hrunning).1 (hline.number_ne_of_waiting hrunning hother)
    rw [h.quiet other hother, if_neg hne, List.nil_append]
  · intro n hn
    have hne := mt (hasTurn_iff hrunning).1 (fun hsame => hn job hjob (hnumber.trans hsame.symm))
    rw [h.unknown n hn, if_neg hne, List.nil_append]
  · rw [hlast, Option.bind_some, hown, hs.running, ha.running]
  · intro r' hr'
    rw [hs.running] at hr'
    exact ⟨job, hlast, hnumber.trans (hs.keeps r' hr').symm⟩
  · intro other hother hkept
    have hbefore := h.outcome other hother (fun hin => hkept ((hmem _).2 hin))
    rw [outcome?, outcome?] at hbefore
    by_cases hsame : other.number = r.job.number
    · -- numbers are distinct, so it is the same job
      obtain rfl : other = job :=
        List.inj_on_of_nodup_map hdistinct hother hjob (hsame.trans hnumber.symm)
      rw [hown, outcome?, hs.outcomes, outcome?, ha.outcomes, List.lookup_append,
        List.lookup_append, hbefore]
    · have hnone : more.lookup other.number = none := by
        rw [List.lookup_eq_none_iff]
        intro entry hentry
        rw [hs.mine entry hentry]
        simpa using hsame
      rw [if_neg (mt (hasTurn_iff hrunning).1 hsame), List.append_nil, outcome?, hs.outcomes,
        List.lookup_append, hnone, Option.or_none, hbefore]
      rfl
  · intro other hother hin
    exact outcome?_step (h.withdrawn other hother ((hmem _).1 hin)) event

/-- A build that waits is withdrawn. -/
theorem Served.withdraw (h : Served setup jobs own s turned) (hline : s.InLine)
    (hdistinct : (jobs.map Job.number).Nodup) {n : Nat}
    (hwaiting : ∃ job ∈ s.waiting, job.number = n) :
    Served setup jobs
      (fun m => own m ++ (if n == m then [.withdraw n] else []))
      { s.note n (.error .withdrawn) with
        waiting := s.waiting.filter (fun job => job.number ≠ n) } turned := by
  obtain ⟨job, hjob, rfl⟩ := hwaiting
  have hnone : s.outcomes.lookup job.number = none :=
    hline.noOutcome job (List.mem_append_right _ hjob)
  have hmem : ∀ m, .withdraw m ∈ own m ++ (if job.number == m then [.withdraw job.number] else [])
      ↔ .withdraw m ∈ own m ∨ m = job.number := by
    intro m
    by_cases hm : job.number = m
    · simp [hm]
    · simp [hm, Ne.symm hm]
  have hsame : ∀ other : Job, other.number ≠ job.number →
      own other.number ++ (if job.number == other.number then [.withdraw job.number] else [])
        = own other.number := by
    intro other hother
    rw [if_neg (by simpa using Ne.symm hother), List.append_nil]
  -- a build that had its turn is not the one that waits
  have hturned : ∀ other ∈ turned, other.number ≠ job.number := by
    intro other hother
    have hnodup := (List.filter_sublist (l := jobs)
      (p := fun job => .withdraw job.number ∉ own job.number)).map Job.number |>.nodup hdistinct
    rw [h.line, List.map_append, List.nodup_append] at hnodup
    exact hnodup.2.2 _ (List.mem_map_of_mem hother) _ (List.mem_map_of_mem hjob)
  have houtcome : ∀ m, m ≠ job.number →
      (s.note job.number (.error .withdrawn)).outcomes.lookup m = s.outcome? m := by
    intro m hm
    rw [note]
    dsimp only
    rw [List.lookup_append, List.lookup_cons, beq_eq_false_iff_ne.2 hm]
    exact Option.or_none
  refine ⟨?_, ?_, ?_, ?_, h.named, ?_, ?_⟩
  · calc jobs.filter (fun other => .withdraw other.number ∉ own other.number
            ++ (if job.number == other.number then [.withdraw job.number] else []))
        = (jobs.filter (fun other => .withdraw other.number ∉ own other.number)).filter
            (fun other => other.number ≠ job.number) := by
          rw [List.filter_filter]
          refine List.filter_congr (fun other _ => ?_)
          simp only [hmem, not_or, Bool.decide_and, Bool.and_comm, ne_eq]
      _ = turned ++ s.waiting.filter (fun other => other.number ≠ job.number) := by
          rw [h.line, List.filter_append, List.filter_eq_self.2]
          exact fun other hother => decide_eq_true (hturned other hother)
  · intro other hother
    obtain ⟨hother, hne⟩ := List.mem_filter.1 hother
    rw [hsame other (of_decide_eq_true hne)]
    exact h.quiet other hother
  · intro m hm
    have hjobs := (h.mem_line (List.mem_append_right _ hjob)).1
    rw [if_neg (by simpa using hm job hjobs), List.append_nil]
    exact h.unknown m hm
  · refine h.running.trans ?_
    cases hlast : turned.getLast? with
    | none => rfl
    | some last =>
      rw [Option.bind_some, Option.bind_some,
        hsame last (hturned last (List.mem_of_getLast? hlast))]
  · intro other hother hkept
    rw [hmem, not_or] at hkept
    rw [hsame other hkept.2, ← h.outcome other hother hkept.1]
    exact houtcome _ hkept.2
  · intro other hother hin
    by_cases hother' : other.number = job.number
    · rw [hother', outcome?_concat rfl, hnone]
      simp
    · rw [hmem] at hin
      exact (houtcome _ hother').trans (h.withdrawn other hother (hin.resolve_right hother'))

/-! ### Over a run -/

/-- A request changes nothing for the builds in line. -/
theorem Served.submit (hlogs : setup.logFault? = none) (h : Served setup jobs own s turned)
    (hcalm : s.IsCalm) (hline : s.InLine) (hbelow : ∀ job ∈ jobs, job.number < s.nextJob)
    (request : BuildRequest) :
    ∃ turned', Served setup (jobs ++ (check setup request s.nextJob).toOption.toList) own
      (s.step setup (.submit request)) turned' := by
  have hqueue : ∀ job, check setup request s.nextJob = .ok job → Served setup (jobs ++ [job]) own
      { s with nextJob := s.nextJob + 1, waiting := s.waiting ++ [job] } turned := by
    intro job hcheck
    obtain ⟨hnumber, hjob⟩ := check_eq_ok hcheck
    refine h.queue hlogs hjob ?_ ?_
    · intro other hother
      rw [hnumber]
      exact Nat.ne_of_lt (hbelow other hother)
    · rw [hnumber]
      exact hline.later _ (Nat.le_refl _)
  have hmoves := step_moves setup s (.submit request)
  generalize s.step setup (.submit request) = t at hmoves
  cases hmoves with
  | refused hcheck =>
    rw [hcheck]
    exact ⟨turned, by simpa [Except.toOption] using h.refuse hbelow _⟩
  | queued hcheck =>
    rw [hcheck]
    exact ⟨turned, hqueue _ hcheck⟩
  | @admitted _ job hcheck hfree hwaiting =>
    -- the job is put in line, and is the first there
    have hfirst : s.waiting ++ [job] = job :: [] := by rw [hwaiting, List.nil_append]
    rw [hcheck]
    exact ⟨_, (hqueue job hcheck).begin hlogs hcalm hfirst (check_eq_ok hcheck).2⟩
  | advanced _ hnone | ended hnone | passed hnone => cases hnone

/-- The next turn changes nothing for the builds that had one. -/
theorem Served.proceed (hlogs : setup.logFault? = none) (h : Served setup jobs own s turned)
    (hcalm : s.IsCalm) (hline : s.InLine) :
    ∃ turned', Served setup jobs own (s.step setup .proceed) turned' := by
  rw [show s.step setup .proceed = s.proceed setup from rfl]
  cases hrunning : s.running? with
  | some r =>
    rw [proceed_of_running hrunning]
    exact ⟨turned, h⟩
  | none =>
    cases hwaiting : s.waiting with
    | nil =>
      rw [proceed_of_nil hwaiting]
      exact ⟨turned, h⟩
    | cons job rest =>
      rw [proceed_of_waiting hrunning hwaiting]
      exact ⟨_, h.begin hlogs hcalm hwaiting (hline.checked_of_waiting hwaiting)⟩

/-- An event is met by the build that has the turn, if one has it, or withdraws one that waits, if
    it does. -/
theorem Served.meet (h : Served setup jobs own s turned) (hcalm : s.IsCalm) (hline : s.InLine)
    (hdistinct : (jobs.map Job.number).Nodup) {event : SessionEvent}
    (hrequest : event.request? = none) (hproceed : event ≠ .proceed) :
    Served setup jobs (fun n => own n ++ (if s.meets n event then [event] else []))
      (s.step setup event) turned := by
  cases hturn : event.isOfTurn with
  | true =>
    simp only [meets_of_isOfTurn s _ hturn]
    cases hrunning : s.running? with
    | some r => exact h.advance hcalm hline hdistinct hrunning hturn
    | none =>
      have hnone : ∀ n, s.hasTurn n = false := by simp [hasTurn, hrunning]
      rw [step_of_free hrunning hturn]
      simpa [hnone] using h
  | false =>
    cases event with
    | submit request => cases hrequest
    | proceed => exact absurd rfl hproceed
    | withdraw n =>
      simp only [meets, step, Session.withdraw]
      split
      · next hany =>
        have hwaiting : ∃ job ∈ s.waiting, job.number = n := by simpa using hany
        simp only [hany, Bool.and_true]
        exact h.withdraw hline hdistinct hwaiting
      · next hany => simpa [hany] using h
    | _ => cases hturn

end

/-- **Whatever happens, each build goes as it goes by itself.** -/
theorem served_run (hlogs : setup.logFault? = none) {listeners : List Listener}
    (hcalm : ∀ l ∈ listeners, l.IsCalm) (events : List SessionEvent) :
    ∃ turned, Served setup (accepted setup events)
      (fun n => ownEvents setup n (startWith listeners) events)
      ((startWith listeners).run setup events) turned := by
  induction events using List.reverseRecOn with
  | nil => exact ⟨[], rfl, nofun, fun _ _ => rfl, rfl, nofun, nofun, nofun⟩
  | append_singleton done event ih =>
    obtain ⟨turned, h⟩ := ih
    have hline := inLine_run setup (inLine_startWith listeners) done
    have hcalm' := isCalm_run setup (isCalm_startWith hcalm) done
    have hnumber := nextJob_run setup listeners done
    rw [run_append, run_cons, run_nil]
    simp only [ownEvents_concat]
    cases hrequest : event.request? with
    | some request =>
      obtain rfl := SessionEvent.eq_submit hrequest
      have hnot : ∀ n, ((startWith listeners).run setup done).meets n (.submit request) = false :=
        fun _ => rfl
      simp only [hnot, Bool.false_eq_true, if_false, List.append_nil]
      rw [accepted_concat_submit, ← hnumber]
      refine h.submit hlogs hcalm' hline (fun job hjob => ?_) request
      rw [hnumber]
      exact number_lt_of_mem_accepted hjob
    | none =>
      rw [accepted_concat_of_none done hrequest]
      by_cases hproceed : event = .proceed
      · subst hproceed
        have hnot : ∀ n, ((startWith listeners).run setup done).meets n .proceed = false :=
          fun _ => rfl
        simp only [hnot, Bool.false_eq_true, if_false, List.append_nil]
        exact h.proceed hlogs hcalm' hline
      · exact ⟨turned, h.meet hcalm' hline (accepted_nodup setup done) hrequest hproceed⟩

/-! ## Two runs -/

section

variable {listeners : List Listener} {events events' : List SessionEvent}

/-- **The outcome of a build depends on the requests and on what happens to it**, and on nothing
    else. -/
theorem outcome?_eq_of_own (hlogs : setup.logFault? = none) (hcalm : ∀ l ∈ listeners, l.IsCalm)
    (hrequests : events.filterMap SessionEvent.request? = events'.filterMap SessionEvent.request?)
    {n : Nat}
    (hown : ownEvents setup n (startWith listeners) events
      = ownEvents setup n (startWith listeners) events') :
    ((startWith listeners).run setup events).outcome? n
      = ((startWith listeners).run setup events').outcome? n := by
  rcases number_cases setup events n with hn | ⟨q, hq, rfl, error, herror⟩ | ⟨job, hjob, rfl⟩
  · -- there is no such request
    have hnone : ∀ events, (requests events).length ≤ n →
        ((startWith listeners).run setup events).outcome? n = none := by
      intro events hn
      rw [← nextJob_run setup listeners] at hn
      exact (inLine_run setup (inLine_startWith listeners) events).later n hn
    rw [hnone events hn, hnone events' (by rw [← requests_congr hrequests]; exact hn)]
  · rw [outcome?_of_refused listeners hq herror,
      outcome?_of_refused listeners (by rw [← requests_congr hrequests]; exact hq) herror]
  · obtain ⟨_, hserved⟩ := served_run hlogs hcalm events
    obtain ⟨_, hserved'⟩ := served_run hlogs hcalm events'
    rw [← accepted_congr hrequests] at hserved'
    by_cases hin : .withdraw job.number ∈ ownEvents setup job.number (startWith listeners) events
    · rw [hserved.withdrawn job hjob hin, hserved'.withdrawn job hjob (hown ▸ hin)]
    · rw [hserved.outcome job hjob hin, hserved'.outcome job hjob (hown ▸ hin), hown]

/-- Runs in which as many builds wait, the same ones were withdrawn, and the build that has the turn
    met the same, lead to sessions that are alike. -/
theorem alike_of_own (hlogs : setup.logFault? = none) (hcalm : ∀ l ∈ listeners, l.IsCalm)
    (hrequests : events.filterMap SessionEvent.request? = events'.filterMap SessionEvent.request?)
    (hlength : ((startWith listeners).run setup events).waiting.length
      = ((startWith listeners).run setup events').waiting.length)
    (hwithdrawn : ∀ n, .withdraw n ∈ ownEvents setup n (startWith listeners) events
      ↔ .withdraw n ∈ ownEvents setup n (startWith listeners) events')
    (hown : ∀ n, ((startWith listeners).run setup events).hasTurn n = true
        ∨ ((startWith listeners).run setup events').hasTurn n = true →
      ownEvents setup n (startWith listeners) events
        = ownEvents setup n (startWith listeners) events') :
    Alike ((startWith listeners).run setup events) ((startWith listeners).run setup events') := by
  obtain ⟨turned, hserved⟩ := served_run hlogs hcalm events
  obtain ⟨turned', hserved'⟩ := served_run hlogs hcalm events'
  rw [← accepted_congr hrequests] at hserved'
  -- all builds but those that were withdrawn had their turn or wait, so the same ones wait
  have hline : turned ++ ((startWith listeners).run setup events).waiting
      = turned' ++ ((startWith listeners).run setup events').waiting := by
    rw [← hserved.line, ← hserved'.line]
    exact List.filter_congr (fun job _ => by simp only [hwithdrawn])
  obtain ⟨hturned, hwaiting⟩ := List.append_inj' hline hlength
  subst hturned
  refine ⟨⟨isCalm_run setup (isCalm_startWith hcalm) _,
    isCalm_run setup (isCalm_startWith hcalm) _⟩, ?_,
    hwaiting, ?_⟩
  · cases hlast : turned.getLast? with
    | none => rw [hserved.running, hserved'.running, hlast, Option.bind_none, Option.bind_none]
    | some job =>
      -- the last build that was given a turn met the same, if it still has it in one of the two
      have hsame : ∀ r, (((startWith listeners).run setup events).running? = some r
            ∨ ((startWith listeners).run setup events').running? = some r) →
          ((startWith listeners).run setup events).running?
            = ((startWith listeners).run setup events').running? := by
        intro r hr
        have hnumber : job.number = r.job.number := by
          rcases hr with hr | hr
          · obtain ⟨last, hlast', hnumber⟩ := hserved.named r hr
            cases hlast.symm.trans hlast'
            exact hnumber
          · obtain ⟨last, hlast', hnumber⟩ := hserved'.named r hr
            cases hlast.symm.trans hlast'
            exact hnumber
        have hturn := hown r.job.number (hr.imp hasTurn_of_running hasTurn_of_running)
        rw [hserved.running, hserved'.running, hlast, Option.bind_some, Option.bind_some, hnumber,
          hturn]
      cases hrunning : ((startWith listeners).run setup events).running? with
      | some r => rw [← hrunning, hsame r (.inl hrunning)]
      | none =>
        cases hrunning' : ((startWith listeners).run setup events').running? with
        | some r' => rw [← hrunning', ← hrunning, hsame r' (.inr hrunning')]
        | none => rfl
  · rw [nextJob_run, nextJob_run, requests_congr hrequests]

end

end Session

end CompileTrace
