import CompileTrace.Proofs.Build.Steps

set_option autoImplicit false

/-! # The order of builds

Builds that are not over stand in line, the one that has the turn first. Whatever happens, they have
distinct numbers, none of which was given an outcome yet, and their properties were checked
(`Session.inLine_run`). An outcome that was noted stays (`Session.outcome?_run`), and a build that
has the turn keeps it until it is over (`Session.keeps_or_ends`). -/

namespace CompileTrace

namespace Session

variable {setup : BuildSetup}

/-- The builds that are not over: the one that has the turn, and those that wait for theirs. -/
def inLine (s : Session) : List Job := (s.running?.map Running.job).toList ++ s.waiting

/-! ## Outcomes -/

theorem outcome?_concat {s : Session} {outcomes : List (Nat × BuildOutcome)} {number : Nat}
    {outcome : BuildOutcome} (h : s.outcomes = outcomes ++ [(number, outcome)]) (n : Nat) :
    s.outcome? n = (outcomes.lookup n).or (if n = number then some outcome else none) := by
  rw [outcome?, h, List.lookup_append, List.lookup_cons]
  by_cases hn : n = number
  · simp [hn]
  · simp [beq_eq_false_iff_ne.2 hn, hn]

/-- An outcome stays when others are added. -/
theorem outcome?_of_append {s t : Session} {more : List (Nat × BuildOutcome)}
    (hmore : t.outcomes = s.outcomes ++ more) {n : Nat} {outcome : BuildOutcome}
    (h : s.outcome? n = some outcome) : t.outcome? n = some outcome := by
  rw [outcome?] at h
  rw [outcome?, hmore, List.lookup_append, h, Option.some_or]

/-- A build that gets its turn, or gives it up, changes the outcomes by its own at most. -/
theorem begin_outcomes (setup : BuildSetup) (s : Session) (job : Job) :
    ∃ more, (s.begin setup job).outcomes = s.outcomes ++ more := by
  simp only [begin]
  split
  · exact ⟨_, by rw [note, enter_outcomes]⟩
  · exact ⟨_, by rw [note, enter_outcomes]⟩
  · split
    · exact ⟨_, by rw [note, enter_outcomes]⟩
    · exact ⟨[], by simp⟩

/-- Outcomes are only added. -/
theorem Moves.outcomes {s t : Session} {event : SessionEvent} (h : Moves setup s event t) :
    ∃ more, t.outcomes = s.outcomes ++ more := by
  cases h with
  | refused | withdrawn => exact ⟨_, rfl⟩
  | queued | advanced | passed => exact ⟨[], (List.append_nil _).symm⟩
  | admitted | promoted => exact begin_outcomes _ _ _
  | ended => exact ⟨_, conclude_outcomes ..⟩

theorem outcome?_step {s : Session} {n : Nat} {outcome : BuildOutcome}
    (h : s.outcome? n = some outcome) (event : SessionEvent) :
    (s.step setup event).outcome? n = some outcome := by
  obtain ⟨more, hmore⟩ := (step_moves setup s event).outcomes
  exact outcome?_of_append hmore h

/-- **An outcome that was noted stays.** -/
theorem outcome?_run (setup : BuildSetup) {s : Session} {n : Nat} {outcome : BuildOutcome}
    (h : s.outcome? n = some outcome) (events : List SessionEvent) :
    (s.run setup events).outcome? n = some outcome := by
  induction events generalizing s with
  | nil => exact h
  | cons event rest ih => exact ih (outcome?_step h event)

/-! ## Numbers -/

/-- What holds of builds in line, the next number and the outcomes noted so far. -/
structure Line (jobs : List Job) (next : Nat) (outcomes : List (Nat × BuildOutcome)) : Prop where
  checked : ∀ job ∈ jobs, job.IsChecked
  below : ∀ job ∈ jobs, job.number < next
  noOutcome : ∀ job ∈ jobs, outcomes.lookup job.number = none
  distinct : (jobs.map Job.number).Nodup
  later : ∀ n, next ≤ n → outcomes.lookup n = none

namespace Line

variable {jobs : List Job} {next : Nat} {outcomes : List (Nat × BuildOutcome)}

theorem nil : Line [] 0 [] := by
  constructor <;> simp

/-- A number is used up, and a build of that number may stand in line last. -/
theorem push (h : Line jobs next outcomes) {job : Job} (hnumber : job.number = next)
    (hchecked : job.IsChecked) : Line (jobs ++ [job]) (next + 1) outcomes := by
  have hmem : ∀ other ∈ jobs ++ [job], other ∈ jobs ∨ other = job := by simp
  refine ⟨?_, ?_, ?_, ?_, fun n hn => h.later n (by omega)⟩
  · intro other hother
    rcases hmem other hother with hother | rfl
    · exact h.checked other hother
    · exact hchecked
  · intro other hother
    rcases hmem other hother with hother | rfl
    · exact Nat.lt_succ_of_lt (h.below other hother)
    · omega
  · intro other hother
    rcases hmem other hother with hother | rfl
    · exact h.noOutcome other hother
    · exact h.later _ (by omega)
  · rw [List.map_append, List.map_singleton, List.nodup_append]
    refine ⟨h.distinct, by simp, ?_⟩
    intro n hn m hm hsame
    obtain ⟨other, hother, rfl⟩ := List.mem_map.1 hn
    have := h.below other hother
    simp only [List.mem_singleton] at hm
    omega

theorem lookup_concat_of_ne {n number : Nat} {outcome : BuildOutcome} (hne : n ≠ number)
    (h : outcomes.lookup n = none) : (outcomes ++ [(number, outcome)]).lookup n = none := by
  simp [List.lookup_append, h, List.lookup_cons, beq_eq_false_iff_ne.2 hne]

/-- A number is used up by an outcome at once. -/
theorem refuse (h : Line jobs next outcomes) (outcome : BuildOutcome) :
    Line jobs (next + 1) (outcomes ++ [(next, outcome)]) := by
  refine ⟨h.checked, fun job hjob => Nat.lt_succ_of_lt (h.below job hjob), ?_, h.distinct, ?_⟩
  · intro job hjob
    exact lookup_concat_of_ne (Nat.ne_of_lt (h.below job hjob)) (h.noOutcome job hjob)
  · intro n hn
    exact lookup_concat_of_ne (by omega) (h.later n (by omega))

/-- A build in line is over. -/
theorem remove (h : Line jobs next outcomes) {number : Nat} (hbelow : number < next)
    (outcome : BuildOutcome) :
    Line (jobs.filter (fun job => job.number ≠ number)) next (outcomes ++ [(number, outcome)]) where
  checked job hjob := h.checked job (List.mem_filter.1 hjob).1
  below job hjob := h.below job (List.mem_filter.1 hjob).1
  noOutcome job hjob :=
    lookup_concat_of_ne (by simpa using (List.mem_filter.1 hjob).2)
      (h.noOutcome job (List.mem_filter.1 hjob).1)
  distinct := (List.filter_sublist.map Job.number).nodup h.distinct
  later n hn := lookup_concat_of_ne (by omega) (h.later n hn)

theorem filter_cons_of_nodup {job : Job} (h : ((job :: jobs).map Job.number).Nodup) :
    (job :: jobs).filter (fun other => other.number ≠ job.number) = jobs := by
  rw [List.map_cons, List.nodup_cons] at h
  rw [List.filter_cons_of_neg (by simp), List.filter_eq_self]
  intro other hother
  refine decide_eq_true (fun hsame => h.1 ?_)
  exact hsame ▸ List.mem_map.2 ⟨other, hother, rfl⟩

/-- The first in line is over. -/
theorem pop {job : Job} (h : Line (job :: jobs) next outcomes) (outcome : BuildOutcome) :
    Line jobs next (outcomes ++ [(job.number, outcome)]) := by
  have hrest := h.remove (h.below job List.mem_cons_self) outcome
  rwa [filter_cons_of_nodup h.distinct] at hrest

end Line

/-- What holds of a session at all times. -/
def InLine (s : Session) : Prop := Line s.inLine s.nextJob s.outcomes

theorem inLine_of_running {s : Session} {r : Running} (h : s.running? = some r) :
    s.inLine = r.job :: s.waiting := by
  simp [inLine, h]

theorem inLine_of_free {s : Session} (h : s.running? = none) : s.inLine = s.waiting := by
  simp [inLine, h]

/-- A build that waits is not the one that has the turn. -/
theorem InLine.number_ne_of_waiting {s : Session} (h : s.InLine) {r : Running}
    (hrunning : s.running? = some r) {job : Job} (hjob : job ∈ s.waiting) :
    job.number ≠ r.job.number := by
  intro hsame
  have hdistinct := h.distinct
  rw [inLine_of_running hrunning, List.map_cons, List.nodup_cons] at hdistinct
  exact hdistinct.1 (List.mem_map.2 ⟨job, hjob, hsame⟩)

/-- A build that is given its turn stays in line, or else it is over. -/
theorem begin_inLine {s : Session} (hfree : s.running? = none) {job : Job}
    (h : Line (job :: s.waiting) s.nextJob s.outcomes) : (s.begin setup job).InLine := by
  rcases begin_cases setup s (h.checked job List.mem_cons_self) with hbegin | ⟨error, -, hbegin⟩
  · rw [hbegin]
    simpa [InLine, inLine, fresh] using h
  · rw [hbegin]
    simpa [InLine, inLine, note, hfree] using h.pop (.error error)

/-- A waiting build that is withdrawn leaves the line. -/
theorem withdraw_inLine {s : Session} (h : s.InLine) {number : Nat}
    (hwaiting : ∃ job ∈ s.waiting, job.number = number) :
    ({ s with waiting := s.waiting.filter (fun job => job.number ≠ number) } : Session).inLine
      = s.inLine.filter (fun job => job.number ≠ number) := by
  obtain ⟨job, hjob, rfl⟩ := hwaiting
  cases hrunning : s.running? with
  | none => simp [inLine, hrunning]
  | some r =>
    have hne : r.job.number ≠ job.number := (h.number_ne_of_waiting hrunning hjob).symm
    simp [inLine, hrunning, hne]

theorem Moves.stays_inLine {s t : Session} {event : SessionEvent} (h : Moves setup s event t)
    (hs : s.InLine) : t.InLine := by
  cases h with
  | refused => exact hs.refuse _
  | queued hcheck =>
    obtain ⟨hnumber, hchecked⟩ := check_eq_ok hcheck
    have hpush := hs.push hnumber hchecked
    rwa [inLine, List.append_assoc] at hpush
  | @admitted request job hcheck hfree hwaiting =>
    obtain ⟨hnumber, hchecked⟩ := check_eq_ok hcheck
    rw [InLine, inLine_of_free hfree, hwaiting] at hs
    exact begin_inLine (s := { s with nextJob := s.nextJob + 1, waiting := [] }) hfree
      (hs.push hnumber hchecked)
  | @promoted job rest hfree hwaiting =>
    rw [InLine, inLine_of_free hfree, hwaiting] at hs
    exact begin_inLine (s := { s with waiting := rest }) hfree hs
  | @withdrawn number hwaiting =>
    have hline := withdraw_inLine hs hwaiting
    obtain ⟨job, hjob, hnumber⟩ := hwaiting
    have hbelow := hs.below job (List.mem_append_right _ hjob)
    rw [hnumber] at hbelow
    have hremoved := hs.remove hbelow (.error .withdrawn)
    rw [← hline] at hremoved
    exact hremoved
  | advanced _ _ hrunning hjob =>
    rw [InLine, inLine_of_running hrunning] at hs
    rwa [InLine, inLine_of_running rfl, hjob]
  | ended _ hrunning hends =>
    rw [InLine, inLine_of_running hrunning] at hs
    rw [InLine, inLine_of_free (conclude_running? ..), conclude_waiting, conclude_nextJob,
      conclude_outcomes, hends.job]
    exact hs.pop _
  | passed => exact hs

/-- **Builds stand in line at all times.** -/
theorem inLine_run (setup : BuildSetup) {s : Session} (h : s.InLine) (events : List SessionEvent) :
    (s.run setup events).InLine := by
  induction events generalizing s with
  | nil => exact h
  | cons event rest ih => exact ih ((step_moves setup s event).stays_inLine h)

theorem inLine_startWith (listeners : List Listener) : (startWith listeners).InLine := Line.nil

theorem InLine.checked_of_waiting {s : Session} (h : s.InLine) {job : Job} {rest : List Job}
    (hwaiting : s.waiting = job :: rest) : job.IsChecked := by
  refine h.checked job ?_
  rw [inLine, hwaiting]
  exact List.mem_append_right _ List.mem_cons_self

/-- What each event keeps while builds stand in line, any run keeps. -/
theorem run_keeps {P : Session → Prop}
    (hstep : ∀ s event, s.InLine → P s → P (s.step setup event)) {s : Session} (hline : s.InLine)
    (h : P s) (events : List SessionEvent) : P (s.run setup events) := by
  induction events generalizing s with
  | nil => exact h
  | cons event rest ih =>
    exact ih ((step_moves setup s event).stays_inLine hline) (hstep s event hline h)

/-! ## Turns -/

/-- Whether a build is another one at a later time: its job and its log are the same, and it was not
    forgotten that it was asked to stop. -/
structure Running.Continues (r r' : Running) : Prop where
  job : r'.job = r.job
  log : r'.log = r.log
  cancel : r.cancelRequested = true → r'.cancelRequested = true

theorem Running.Continues.refl (r : Running) : Running.Continues r r := ⟨rfl, rfl, id⟩

theorem Running.Continues.trans {r r' r'' : Running} (h : Running.Continues r r')
    (h' : Running.Continues r' r'') : Running.Continues r r'' :=
  ⟨h'.job.trans h.job, h'.log.trans h.log, fun hr => h'.cancel (h.cancel hr)⟩

/-- One event lets a build keep its turn or ends it. -/
theorem Moves.keeps_or_ends {s t : Session} {event : SessionEvent} (h : Moves setup s event t)
    {r : Running} (hrunning : s.running? = some r) :
    (∃ r', t.running? = some r' ∧ Running.Continues r r')
      ∨ ∃ r' state outcome, Ends setup r event r' state outcome
        ∧ t = s.conclude r' state outcome := by
  cases h with
  | refused | queued | withdrawn | passed => exact .inl ⟨r, hrunning, .refl r⟩
  | admitted _ hfree | promoted hfree =>
    rw [hrunning] at hfree
    cases hfree
  | @advanced _ r₀ r' _ _ hr₀ hjob hlog hcancel =>
    obtain rfl : r₀ = r := Option.some.inj (hr₀.symm.trans hrunning)
    exact .inl ⟨r', rfl, hjob, hlog, hcancel⟩
  | @ended _ r₀ r' state outcome _ hr₀ hends =>
    obtain rfl : r₀ = r := Option.some.inj (hr₀.symm.trans hrunning)
    exact .inr ⟨r', state, outcome, hends, rfl⟩

/-- How a build that had the turn was over after some events: one of them ended it. -/
structure EndsIn (setup : BuildSetup) (s : Session) (r : Running) (events : List SessionEvent)
    (last r' : Running) (state : BuildState) (outcome : BuildOutcome)
    (before : List SessionEvent) (event : SessionEvent) (after : List SessionEvent) : Prop where
  events : events = before ++ event :: after
  running : (s.run setup before).running? = some last
  continues : Running.Continues r last
  ends : Ends setup last event r' state outcome
  step : (s.run setup before).step setup event = (s.run setup before).conclude r' state outcome

/-- **A build keeps its turn until it is over**: after some events it still has it, or one of them
    ended it. -/
theorem keeps_or_ends (setup : BuildSetup) {s : Session} {r : Running}
    (hrunning : s.running? = some r) (events : List SessionEvent) :
    (∃ r', (s.run setup events).running? = some r' ∧ Running.Continues r r')
      ∨ ∃ last r' state outcome before event after,
        EndsIn setup s r events last r' state outcome before event after := by
  induction events generalizing s r with
  | nil => exact .inl ⟨r, hrunning, .refl r⟩
  | cons event rest ih =>
    rcases (step_moves setup s event).keeps_or_ends hrunning with
      ⟨r₁, hrunning₁, hr₁⟩ | ⟨r', state, outcome, hends, hstep⟩
    · rcases ih hrunning₁ with ⟨r₂, hrunning₂, hr₂⟩ |
        ⟨last, r', state, outcome, before, event', after, hend⟩
      · exact .inl ⟨r₂, hrunning₂, hr₁.trans hr₂⟩
      · refine .inr ⟨last, r', state, outcome, event :: before, event', after, ?_⟩
        exact ⟨by rw [hend.events, List.cons_append], hend.running, hr₁.trans hend.continues,
          hend.ends, hend.step⟩
    · exact .inr ⟨r, r', state, outcome, [], event, rest, rfl, hrunning, .refl r, hends, hstep⟩

/-- A build that is over has the outcome that it ended with. -/
theorem outcome?_conclude {s : Session} (h : s.InLine) {r r' : Running}
    (hrunning : s.running? = some r) (hjob : r'.job = r.job) (state : BuildState)
    (outcome : BuildOutcome) :
    (s.conclude r' state outcome).outcome? r.job.number
      = some (s.endingOf r' state outcome).outcome := by
  rw [InLine, inLine_of_running hrunning] at h
  have hnone := h.noOutcome r.job List.mem_cons_self
  rw [outcome?_concat (conclude_outcomes ..), hnone, hjob]
  simp

variable {s : Session} {r last r' : Running} {state : BuildState} {outcome : BuildOutcome}
  {before after : List SessionEvent} {event : SessionEvent} {events : List SessionEvent}

theorem EndsIn.run_eq (h : EndsIn setup s r events last r' state outcome before event after) :
    s.run setup events = ((s.run setup before).conclude r' state outcome).run setup after := by
  rw [h.events, run_append, run_cons, h.step]

theorem EndsIn.outcome? (h : EndsIn setup s r events last r' state outcome before event after)
    (hline : s.InLine) : (s.run setup events).outcome? r.job.number
      = some ((s.run setup before).endingOf r' state outcome).outcome := by
  have hended := outcome?_run setup (outcome?_conclude (inLine_run setup hline before) h.running
    h.ends.job state outcome) after
  rwa [← h.run_eq, h.continues.job] at hended

/-- **A build that had the turn and has an outcome ended with it**, at one of the events. -/
theorem exists_end (setup : BuildSetup) (hline : s.InLine) (hrunning : s.running? = some r)
    {ended : BuildOutcome} (houtcome : (s.run setup events).outcome? r.job.number = some ended) :
    ∃ last r' state outcome before event after,
      EndsIn setup s r events last r' state outcome before event after
        ∧ ended = ((s.run setup before).endingOf r' state outcome).outcome := by
  rcases keeps_or_ends setup hrunning events with ⟨r', hrunning', hr'⟩ |
    ⟨last, r', state, outcome, before, event, after, hend⟩
  · -- a build in line has no outcome
    have hnone := (inLine_run setup hline events).noOutcome r'.job (by
      rw [inLine_of_running hrunning']
      exact List.mem_cons_self)
    rw [hr'.job] at hnone
    rw [Session.outcome?, hnone] at houtcome
    cases houtcome
  · rw [hend.outcome? hline, Option.some.injEq] at houtcome
    exact ⟨last, r', state, outcome, before, event, after, hend, houtcome.symm⟩

end Session

end CompileTrace
