import CompileTrace.Proofs.Build.Order

set_option autoImplicit false

/-! # Listeners

Listeners may fail, and nothing depends on that. Only what escapes from one can keep a session from
going on, so most is said of calm listeners, from which nothing ever does
(`Listener.IsCalm`). Calm listeners are told of each state that the session goes to
(`Session.tells_run`), and the session goes as it goes without them (`Session.deaf_run`). It is
building exactly while a build has the turn, unless it was left there by a build whose log could not
be removed (`Session.stateTells_run`). -/

namespace CompileTrace

/-- Whether nothing ever escapes from a listener, though it may fail. -/
def Listener.IsCalm (listener : Listener) : Prop :=
  ∀ heard state words, listener.react heard state ≠ .escapes words

/-- A listener that always fails. -/
def Listener.failing : Listener := ⟨fun _ _ => .fails⟩

theorem Listener.isCalm_failing : failing.IsCalm := by
  rintro heard state words ⟨⟩

namespace Session

variable {setup : BuildSetup}

/-! ## Telling -/

theorem tellAll_listeners (state : BuildState) (audience : List Audience) :
    (tellAll state audience).audience.map Audience.listener
      = audience.map Audience.listener := by
  induction audience with
  | nil => rfl
  | cons a rest ih =>
    rw [tellAll]
    split
    · rw [List.map_cons, List.map_cons, ih]
    · rw [List.map_cons, List.map_cons, ih]
    · rfl

/-- Nothing escapes when calm listeners are told of a state, and each of them is told. -/
theorem tellAll_of_calm (state : BuildState) {audience : List Audience}
    (h : ∀ a ∈ audience, a.listener.IsCalm) :
    (tellAll state audience).escaped? = none
      ∧ (tellAll state audience).audience
        = audience.map (fun a => { a with heard := a.heard ++ [state] }) := by
  induction audience with
  | nil => exact ⟨rfl, rfl⟩
  | cons a rest ih =>
    rw [List.forall_mem_cons] at h
    obtain ⟨hescaped, haudience⟩ := ih h.2
    rw [tellAll]
    split
    · exact ⟨hescaped, by rw [List.map_cons, ← haudience]⟩
    · exact ⟨hescaped, by rw [List.map_cons, ← haudience]⟩
    · next words hwords => exact absurd hwords (h.1 a.heard state words)

/-! ## Calm sessions -/

/-- Whether nothing escapes from the listeners of a session. -/
def IsCalm (s : Session) : Prop := ∀ a ∈ s.audience, a.listener.IsCalm

theorem isCalm_startWith {listeners : List Listener} (h : ∀ l ∈ listeners, l.IsCalm) :
    (startWith listeners).IsCalm := by
  simpa [IsCalm, startWith] using h

theorem isCalm_of_listeners {s t : Session}
    (hsame : t.audience.map Audience.listener = s.audience.map Audience.listener)
    (h : s.IsCalm) : t.IsCalm := by
  have hall : ∀ listener ∈ t.audience.map Audience.listener, listener.IsCalm := by
    rw [hsame]
    simpa [IsCalm] using h
  simpa [IsCalm] using hall

theorem escape?_of_calm {s : Session} (h : s.IsCalm) (state : BuildState) :
    s.escape? state = none := by
  unfold escape?
  split
  · rfl
  · exact (tellAll_of_calm state h).1

/-- The listeners of a session that an event leads to were told of one state at most. -/
theorem Moves.audience {s t : Session} {event : SessionEvent} (h : Moves setup s event t) :
    (t.told = s.told ∧ t.audience = s.audience)
      ∨ ∃ state, t.told = (s.enter state).told ∧ t.audience = (s.enter state).audience := by
  have hbegin : ∀ (job : Job) (waiting : List Job) (next : Nat),
      let u := ({ s with waiting := waiting, nextJob := next }.begin setup job)
      u.told = (s.enter .building).told ∧ u.audience = (s.enter .building).audience := by
    intro job waiting next u
    have henter : ({ s with waiting := waiting, nextJob := next }.enter .building)
        = { s.enter .building with waiting := waiting, nextJob := next } := by
      unfold enter
      split <;> rfl
    simp only [u, begin, henter]
    repeat' split
    all_goals exact ⟨rfl, rfl⟩
  cases h with
  | refused | queued | withdrawn | advanced | passed => exact .inl ⟨rfl, rfl⟩
  | admitted | promoted => exact .inr ⟨.building, hbegin ..⟩
  | @ended _ _ r' state outcome =>
    rw [conclude, release]
    cases hstate : (s.endingOf r' state outcome).state? with
    | none => exact .inl ⟨rfl, rfl⟩
    | some entered => exact .inr ⟨entered, rfl, rfl⟩

theorem enter_listeners (s : Session) (state : BuildState) :
    (s.enter state).audience.map Audience.listener = s.audience.map Audience.listener := by
  unfold enter
  split
  · rfl
  · exact tellAll_listeners state s.audience

theorem isCalm_step (setup : BuildSetup) {s : Session} (h : s.IsCalm) (event : SessionEvent) :
    (s.step setup event).IsCalm := by
  refine isCalm_of_listeners ?_ h
  rcases (step_moves setup s event).audience with ⟨-, haudience⟩ | ⟨state, -, haudience⟩
  · rw [haudience]
  · rw [haudience, enter_listeners]

/-- **Calm sessions stay calm.** -/
theorem isCalm_run (setup : BuildSetup) {s : Session} (h : s.IsCalm)
    (events : List SessionEvent) :
    (s.run setup events).IsCalm := by
  induction events generalizing s with
  | nil => exact h
  | cons event rest ih => exact ih (isCalm_step setup h event)

/-! ## What listeners were told -/

/-- What listeners were told is what the session went to, and they are those that were
    registered. -/
structure Tells (listeners : List Listener) (s : Session) : Prop where
  heard : ∀ a ∈ s.audience, a.heard = s.told
  listeners : s.audience.map Audience.listener = listeners

variable {listeners : List Listener}

theorem tells_startWith (listeners : List Listener) : Tells listeners (startWith listeners) := by
  constructor <;> simp [startWith, start, Function.comp_def]

theorem Tells.enter {s : Session} (h : Tells listeners s) (hcalm : s.IsCalm) (state : BuildState) :
    Tells listeners (s.enter state) := by
  refine ⟨?_, (enter_listeners s state).trans h.listeners⟩
  unfold Session.enter
  split
  · exact h.heard
  · dsimp only
    rw [(tellAll_of_calm state hcalm).2]
    intro a ha
    obtain ⟨b, hb, rfl⟩ := List.mem_map.1 ha
    dsimp only
    rw [h.heard b hb]

/-- **Calm listeners are told of each state that the session goes to.** -/
theorem tells_run {s : Session} (hcalm : s.IsCalm) (h : Tells listeners s)
    (events : List SessionEvent) : Tells listeners (s.run setup events) := by
  induction events generalizing s with
  | nil => exact h
  | cons event rest ih =>
    refine ih (isCalm_step setup hcalm event) ?_
    rcases (step_moves setup s event).audience with ⟨htold, haudience⟩ | ⟨state, htold, haudience⟩
    · exact ⟨by rw [htold, haudience]; exact h.heard, by rw [haudience]; exact h.listeners⟩
    · have hentered := h.enter hcalm state
      exact ⟨by rw [htold, haudience]; exact hentered.heard,
        by rw [haudience]; exact hentered.listeners⟩

/-! ## Sessions without listeners -/

/-- A session without its listeners. -/
def deaf (s : Session) : Session := { s with audience := [], complaints := 0 }

theorem isCalm_deaf (s : Session) : s.deaf.IsCalm := by
  simp [IsCalm, deaf]

section

variable (s : Session)

theorem deaf_enter (state : BuildState) : (s.enter state).deaf = s.deaf.enter state := by
  unfold enter
  split
  · next hstate => rw [if_pos (show s.deaf.state = state from hstate)]
  · next hstate =>
    rw [if_neg (show s.deaf.state ≠ state from hstate)]
    rfl

theorem deaf_withdraw (number : Nat) : (s.withdraw number).deaf = s.deaf.withdraw number := by
  unfold withdraw
  rw [show s.deaf.waiting = s.waiting from rfl, apply_ite deaf]
  rfl

variable {s} (hcalm : s.IsCalm)

include hcalm

theorem deaf_begin (job : Job) : (s.begin setup job).deaf = s.deaf.begin setup job := by
  simp only [begin, ← deaf_enter, escape?_of_calm hcalm, escape?_of_calm (isCalm_deaf s)]
  cases setup.logFault? with
  | some error => rfl
  | none =>
    dsimp only
    cases checkedCommand setup.tool job.target (logPath setup job.number)
      job.properties.asGiven <;> rfl

theorem deaf_conclude (r : Running) (state : BuildState) (outcome : BuildOutcome) :
    (s.conclude r state outcome).deaf = s.deaf.conclude r state outcome := by
  have hsame : s.endingOf r state outcome = s.deaf.endingOf r state outcome := by
    simp only [endingOf, outcomeAfter, escape?_of_calm hcalm, escape?_of_calm (isCalm_deaf s)]
  rw [conclude, conclude, ← hsame, release, release]
  cases (s.endingOf r state outcome).state? with
  | none => rfl
  | some entered =>
    dsimp only
    rw [← deaf_enter]
    rfl

theorem deaf_launch (r : Running) : (s.launch setup r).deaf = s.deaf.launch setup r := by
  unfold launch
  split
  · exact deaf_conclude hcalm ..
  · rfl

theorem deaf_finish (r : Running) (exitCode : Int) :
    (s.finish r exitCode).deaf = s.deaf.finish r exitCode := by
  unfold finish
  dsimp only
  repeat' split
  all_goals exact deaf_conclude hcalm ..

theorem deaf_expire (r : Running) : (s.expire r).deaf = s.deaf.expire r := by
  unfold expire
  repeat' split
  · rfl
  all_goals exact deaf_conclude hcalm ..

/-- What happens to the running build is the same without listeners. -/
theorem deaf_advance (r : Running) (event : SessionEvent) :
    (s.advance setup r event).deaf = s.deaf.advance setup r event := by
  cases event with
  | submit | proceed | withdraw | cancel | leave => rfl
  | abandon => exact deaf_conclude hcalm ..
  | launch => rw [advance, advance, apply_ite deaf, deaf_launch hcalm]
  | line text =>
    rw [advance, advance, apply_ite deaf]
    rfl
  | finish exitCode file? => rw [advance, advance, apply_ite deaf, deaf_finish hcalm]
  | breakOff reason => rw [advance, advance, apply_ite deaf, deaf_conclude hcalm]
  | silence => rw [advance, advance, apply_ite deaf, abandon, abandon, deaf_conclude hcalm]
  | expire => rw [advance, advance, apply_ite deaf, deaf_expire hcalm]

theorem deaf_submit (request : BuildRequest) :
    (s.submit setup request).deaf = s.deaf.submit setup request := by
  unfold submit
  dsimp only
  rw [show s.deaf.nextJob = s.nextJob from rfl]
  cases check setup request s.nextJob with
  | error error => rfl
  | ok job =>
    dsimp only
    rw [apply_ite deaf, deaf_begin (s := { s with nextJob := s.nextJob + 1 }) hcalm]
    rfl

theorem deaf_proceed : (s.proceed setup).deaf = s.deaf.proceed setup := by
  unfold proceed
  rw [show s.deaf.running? = s.running? from rfl, show s.deaf.waiting = s.waiting from rfl]
  split
  · next job rest _ _ =>
    rw [deaf_begin (s := { s with waiting := rest }) hcalm]
    rfl
  · rfl

/-- **A session does not depend on calm listeners** in what an event does to it. -/
theorem deaf_step (event : SessionEvent) :
    (s.step setup event).deaf = s.deaf.step setup event := by
  cases event with
  | submit request => exact deaf_submit hcalm request
  | proceed => exact deaf_proceed hcalm
  | withdraw number => exact deaf_withdraw s number
  | _ =>
    simp only [step, show s.deaf.running? = s.running? from rfl]
    cases s.running? with
    | none => rfl
    | some r => exact deaf_advance hcalm r _

end

theorem deaf_run {s : Session} (hcalm : s.IsCalm) (events : List SessionEvent) :
    (s.run setup events).deaf = s.deaf.run setup events := by
  induction events generalizing s with
  | nil => rfl
  | cons event rest ih =>
    rw [run_cons, run_cons, ih (isCalm_step setup hcalm event), deaf_step hcalm]

/-! ## Whether a session is building -/

/-- Whether a build is over whose log could not be removed. -/
def Stuck (s : Session) : Prop := ∃ number error, s.outcome? number = some (.error (.log error))

/-- Whether a session is building while a build has the turn, and else only if it was left so by a
    build whose log could not be removed. -/
structure StateTells (s : Session) : Prop where
  building : s.running? ≠ none → s.state = .building
  running_or_stuck : s.state = .building → s.running? ≠ none ∨ s.Stuck

theorem stateTells_startWith (listeners : List Listener) : (startWith listeners).StateTells := by
  constructor <;> nofun

theorem stuck_of_append {s t : Session} {more : List (Nat × BuildOutcome)}
    (hmore : t.outcomes = s.outcomes ++ more) (h : s.Stuck) : t.Stuck := by
  obtain ⟨number, error, houtcome⟩ := h
  exact ⟨number, error, outcome?_of_append hmore houtcome⟩

theorem Ends.state_ne_building {r r' : Running} {event : SessionEvent} {state : BuildState}
    {outcome : BuildOutcome} (h : Ends setup r event r' state outcome) : state ≠ .building := by
  cases h <;> simp

theorem stateTells_begin (hlogs : setup.logFault? = none) {s : Session} (hcalm : s.IsCalm)
    {job : Job} (hjob : job.IsChecked) : (s.begin setup job).StateTells := by
  rw [begin_eq hjob (escape?_of_calm hcalm .building) hlogs]
  constructor <;> simp

theorem stateTells_step (hlogs : setup.logFault? = none) {s : Session} (hcalm : s.IsCalm)
    (hline : s.InLine) (h : s.StateTells) (event : SessionEvent) :
    (s.step setup event).StateTells := by
  have hkeep : ∀ {t : Session} (more : List (Nat × BuildOutcome)),
      t.outcomes = s.outcomes ++ more → t.state = s.state →
        (t.running? ≠ none ↔ s.running? ≠ none) → t.StateTells := by
    intro t more hmore hstate hrunning
    refine ⟨fun hr => hstate.trans (h.building (hrunning.1 hr)), fun hbuilding => ?_⟩
    exact (h.running_or_stuck (hstate.symm.trans hbuilding)).imp hrunning.2
      (stuck_of_append hmore)
  have hmoves := step_moves setup s event
  generalize s.step setup event = t at hmoves
  cases hmoves with
  | refused | withdrawn => exact hkeep [_] rfl rfl Iff.rfl
  | queued | passed => exact hkeep [] (List.append_nil _).symm rfl Iff.rfl
  | admitted hcheck =>
    exact stateTells_begin hlogs (s := { s with nextJob := s.nextJob + 1, waiting := [] }) hcalm
      (check_eq_ok hcheck).2
  | @promoted job rest _ hwaiting =>
    exact stateTells_begin hlogs (s := { s with waiting := rest }) hcalm
      (hline.checked_of_waiting hwaiting)
  | advanced _ _ hrunning => exact hkeep [] (List.append_nil _).symm rfl (by simp [hrunning])
  | @ended _ r r' state outcome _ hrunning hends =>
    refine ⟨nofun, fun hbuilding => .inr ?_⟩
    rcases endingOf_cases s r' state outcome with ⟨fault, -, -, hending⟩ | hending
    · have hended := outcome?_conclude hline hrunning hends.job state outcome
      rw [hending] at hended
      exact ⟨_, _, hended⟩
    · rw [conclude, release_state, hending] at hbuilding
      exact absurd hbuilding hends.state_ne_building

/-- **A session is building exactly while a build has the turn**, if logs can be made and listeners
    are calm, unless a log could not be removed. -/
theorem stateTells_run (hlogs : setup.logFault? = none) {s : Session} (hcalm : s.IsCalm)
    (hline : s.InLine) (h : s.StateTells) (events : List SessionEvent) :
    (s.run setup events).StateTells := by
  induction events generalizing s with
  | nil => exact h
  | cons event rest ih =>
    exact ih (isCalm_step setup hcalm event) ((step_moves setup s event).stays_inLine hline)
      (stateTells_step hlogs hcalm hline h event)

end Session

end CompileTrace
