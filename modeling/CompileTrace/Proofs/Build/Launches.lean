import CompileTrace.Proofs.Build.Properties
import CompileTrace.Proofs.Build.Requests

set_option autoImplicit false

/-! # Names of properties in launched commands

A request whose target exists is refused if a name that its caller gave is not taken for a name of a
property, and else its job stands in line (`Session.check_names`). Every command that is launched is
that of such a job (`Session.launched_run`), so that each setting in it begins with a name of that
kind, which ends where the first equals sign stands. A name is also taken for one with a line feed
after it, which no other character may follow (`isPropertyName_iff`). -/

namespace CompileTrace

/-! ## Names that are accepted -/

/-- Whether a text is taken for a name: a plain name, or one with a line feed after it. -/
def TakenForName (name : Text) : Prop :=
  isPlainName name = true ∨ ∃ plain, isPlainName plain = true ∧ name = plain ++ [char '\n']

theorem isPropertyName_iff (name : Text) : isPropertyName name = true ↔ TakenForName name := by
  rw [isPropertyName, TakenForName, Bool.or_eq_true, Bool.and_eq_true, beq_iff_eq]
  constructor
  · rintro (hplain | ⟨hlast, hplain⟩)
    · exact Or.inl hplain
    · exact Or.inr ⟨_, hplain, (List.dropLast_append_getLast? (char '\n') hlast).symm⟩
  · rintro (hplain | ⟨plain, hplain, rfl⟩)
    · exact Or.inl hplain
    · exact Or.inr ⟨by simp, by simpa using hplain⟩

instance (name : Text) : Decidable (TakenForName name) :=
  decidable_of_iff (isPropertyName name = true) (isPropertyName_iff name)

/-- Properties are checked by their names, and keep them. -/
theorem checkProperties_names (given : GivenProperties) :
    match checkProperties given with
    | .error e => ∃ name ∈ given.map Prod.fst, ¬ TakenForName name ∧ e = .badPropertyName name
    | .ok properties => properties.map Prod.fst = given.map Prod.fst
        ∧ ∀ name ∈ given.map Prod.fst, TakenForName name := by
  rw [checkProperties]
  cases hfind : given.find? (fun p => !isPropertyName p.1) with
  | some pair =>
    have hbad : ¬ TakenForName pair.1 := by
      rw [← isPropertyName_iff]
      simpa using List.find?_some hfind
    exact ⟨pair.1, List.mem_map_of_mem (List.mem_of_find?_eq_some hfind), hbad, rfl⟩
  | none =>
    refine ⟨by simp [Function.comp_def], ?_⟩
    intro name hname
    obtain ⟨pair, hpair, rfl⟩ := List.mem_map.1 hname
    rw [← isPropertyName_iff]
    simpa using List.find?_eq_none.1 hfind pair hpair

theorem mem_names_mergeProperties (configuration platform : Text)
    (given : List (Text × Option Text)) (name : Text) :
    name ∈ (mergeProperties configuration platform given).map Prod.fst
      ↔ name = "Configuration".toText ∨ name = "Platform".toText ∨ name ∈ given.map Prod.fst := by
  rw [mergeProperties_eq_ofList, Table.names_ofList, List.mem_eraseDups]
  simp

namespace Session

variable {setup : BuildSetup}

/-- A request with a target that exists is refused for a name that its caller gave, if for any. -/
theorem check_names {request : BuildRequest} {target : Text}
    (htarget : checkTarget setup.disk request.target? = .ok target) (number : Nat) :
    match check setup request number with
    | .error e => ∃ name ∈ request.properties.map Prod.fst, ¬ TakenForName name
        ∧ e = .badPropertyName name
    | .ok _ => ∀ name ∈ request.properties.map Prod.fst, TakenForName name := by
  have hnames := checkProperties_names
    (mergeProperties request.configuration request.platform request.properties)
  unfold check
  rw [htarget]
  cases hchecked : checkProperties
      (mergeProperties request.configuration request.platform request.properties) with
  | error e =>
    rw [hchecked] at hnames
    obtain ⟨name, hmem, hbad, rfl⟩ := hnames
    have hgiven : name ∈ request.properties.map Prod.fst := by
      rcases (mem_names_mergeProperties _ _ _ _).1 hmem with rfl | rfl | hgiven
      · exact absurd (Or.inl (by decide)) hbad
      · exact absurd (Or.inl (by decide)) hbad
      · exact hgiven
    exact ⟨name, hgiven, hbad, rfl⟩
  | ok properties =>
    rw [hchecked] at hnames
    intro name hname
    exact hnames.2 name ((mem_names_mergeProperties _ _ _ _).2 (Or.inr (Or.inr hname)))

/-- The names of a job are those of its request, with those of the configuration and the
    platform. -/
theorem names_of_check {request : BuildRequest} {number : Nat} {job : Job}
    (h : check setup request number = .ok job) :
    ∀ name ∈ job.properties.map Prod.fst, TakenForName name
      ∧ (name = "Configuration".toText ∨ name = "Platform".toText
        ∨ name ∈ request.properties.map Prod.fst) := by
  have hnames := checkProperties_names
    (mergeProperties request.configuration request.platform request.properties)
  unfold check at h
  obtain ⟨target, -, h⟩ := exists_of_bind_eq_ok h
  obtain ⟨properties, hproperties, h⟩ := exists_of_bind_eq_ok h
  cases h
  rw [hproperties] at hnames
  intro name hname
  rw [hnames.1] at hname
  exact ⟨hnames.2 name hname, (mem_names_mergeProperties _ _ _ _).1 hname⟩

/-! ## The build that has the turn -/

/-- What the build that has the turn makes of a session when it goes on or ends: no other build is
    given the turn, its command stays, and no other command is launched. -/
structure GoesOn (s : Session) (r : Running) (t : Session) : Prop where
  waiting : t.waiting = s.waiting
  running : ∀ r', t.running? = some r' → r'.job = r.job ∧ r'.command = r.command
  launches : ∀ launch ∈ t.launches, launch ∈ s.launches ∨ launch.command = r.command

theorem goesOn_conclude (s : Session) (r r' : Running) (state : BuildState)
    (outcome : BuildOutcome) : GoesOn s r (s.conclude r' state outcome) where
  waiting := conclude_waiting ..
  running := by simp
  launches := by
    intro launch hlaunch
    rw [conclude, release_launches] at hlaunch
    exact Or.inl hlaunch

theorem goesOn_abandon (s : Session) (r : Running) : GoesOn s r (s.abandon r) := by
  unfold abandon
  exact goesOn_conclude ..

theorem goesOn_stay {s : Session} {r : Running} (hrunning : s.running? = some r) :
    GoesOn s r s where
  waiting := rfl
  running := by simp [hrunning]
  launches := fun _ hlaunch => Or.inl hlaunch

theorem goesOn_update (s : Session) {r r' : Running} (hjob : r'.job = r.job)
    (hcommand : r'.command = r.command) : GoesOn s r { s with running? := some r' } where
  waiting := rfl
  running := by
    rintro _ ⟨⟩
    exact ⟨hjob, hcommand⟩
  launches := fun _ hlaunch => Or.inl hlaunch

theorem goesOn_launch {s : Session} {r : Running} : GoesOn s r (s.launch setup r) := by
  unfold launch
  split
  · exact goesOn_conclude ..
  · refine ⟨rfl, ?_, ?_⟩
    · rintro _ ⟨⟩
      exact ⟨rfl, rfl⟩
    · intro launch hlaunch
      rcases List.mem_append.1 hlaunch with hlaunch | hlaunch
      · exact Or.inl hlaunch
      · rw [List.mem_singleton.1 hlaunch]
        exact Or.inr rfl

theorem goesOn_finish (s : Session) (r r' : Running) (exitCode : Int) :
    GoesOn s r (s.finish r' exitCode) := by
  simp only [finish]
  split
  · exact goesOn_conclude ..
  · split <;> exact goesOn_conclude ..

theorem goesOn_expire {s : Session} {r : Running} (hrunning : s.running? = some r) :
    GoesOn s r (s.expire r) := by
  unfold expire
  split
  · exact goesOn_stay hrunning
  · split <;> exact goesOn_conclude ..

/-- What happens only under a condition. -/
theorem goesOn_ite {s t : Session} {r : Running} (hrunning : s.running? = some r)
    (h : GoesOn s r t) {condition : Prop} {_ : Decidable condition} :
    GoesOn s r (if condition then t else s) := by
  split
  · exact h
  · exact goesOn_stay hrunning

/-- Whatever happens to the build that has the turn, it goes on or ends. -/
theorem goesOn_advance {s : Session} {r : Running} (hrunning : s.running? = some r)
    (event : SessionEvent) : GoesOn s r (s.advance setup r event) := by
  cases event with
  | submit | proceed | withdraw => exact goesOn_stay hrunning
  | cancel | leave => exact goesOn_update s rfl rfl
  | abandon => exact goesOn_abandon s r
  | launch =>
    simp only [advance]
    split
    · exact goesOn_stay hrunning
    · exact goesOn_launch
  | line text =>
    refine goesOn_ite hrunning ?_
    exact goesOn_update s rfl rfl
  | finish exitCode file? => exact goesOn_ite hrunning (goesOn_finish s r _ exitCode)
  | breakOff reason => exact goesOn_ite hrunning (goesOn_conclude s r r _ _)
  | silence => exact goesOn_ite hrunning (goesOn_abandon s r)
  | expire => exact goesOn_ite hrunning (goesOn_expire hrunning)

/-! ## Commands that are launched -/

/-- Whether a command is that of a job, with some log. -/
def IsCommandOf (setup : BuildSetup) (job : Job) (command : List Text) : Prop :=
  ∃ log, command = buildCommand setup.tool job.target log job.properties

/-- What holds at all times of the jobs in line and the commands launched, given the jobs that were
    found in order. -/
structure Launched (setup : BuildSetup) (jobs : List Job) (s : Session) : Prop where
  waiting : ∀ job ∈ s.waiting, job ∈ jobs
  running : ∀ r, s.running? = some r → r.job ∈ jobs ∧ IsCommandOf setup r.job r.command
  launches : ∀ launch ∈ s.launches, ∃ job ∈ jobs, IsCommandOf setup job launch.command

namespace Launched

variable {jobs : List Job} {s t : Session}

theorem start (setup : BuildSetup) (listeners : List Listener) :
    Launched setup [] (startWith listeners) := by
  constructor <;> simp [startWith, Session.start]

/-- More jobs were found in order. -/
theorem append (h : Launched setup jobs s) (more : List Job) : Launched setup (jobs ++ more) s where
  waiting := fun job hjob => List.mem_append_left _ (h.waiting job hjob)
  running := fun r hr => ⟨List.mem_append_left _ (h.running r hr).1, (h.running r hr).2⟩
  launches := by
    intro launch hlaunch
    obtain ⟨job, hjob, hcommand⟩ := h.launches launch hlaunch
    exact ⟨job, List.mem_append_left _ hjob, hcommand⟩

/-- A job that is given its turn has its own command. -/
theorem begin (h : Launched setup jobs s) (hfree : s.running? = none) {job : Job}
    (hjob : job ∈ jobs) (hchecked : job.IsChecked) : Launched setup jobs (s.begin setup job) := by
  rcases begin_cases setup s hchecked with hbegin | ⟨error, -, hbegin⟩
  · rw [hbegin]
    refine ⟨by simpa using h.waiting, ?_, by simpa using h.launches⟩
    rintro _ ⟨⟩
    exact ⟨hjob, _, rfl⟩
  · rw [hbegin]
    exact ⟨by simpa [note] using h.waiting, by simp [note, hfree], by simpa [note] using h.launches⟩

theorem goesOn (h : Launched setup jobs s) {r : Running} (hrunning : s.running? = some r)
    (hgoes : GoesOn s r t) : Launched setup jobs t where
  waiting := by
    rw [hgoes.waiting]
    exact h.waiting
  running := by
    intro r' hr'
    obtain ⟨hjob, hcommand⟩ := hgoes.running r' hr'
    rw [hjob, hcommand]
    exact h.running r hrunning
  launches := by
    intro launch hlaunch
    rcases hgoes.launches launch hlaunch with hlaunch | hcommand
    · exact h.launches launch hlaunch
    · rw [hcommand]
      exact ⟨r.job, h.running r hrunning⟩

end Launched

/-- A request puts a job in line that was found in order, if any. -/
theorem launched_submit {done : List SessionEvent} {s : Session}
    (hnumber : s.nextJob = (requests done).length) (h : Launched setup (accepted setup done) s)
    (request : BuildRequest) :
    Launched setup (accepted setup (done ++ [.submit request])) (s.submit setup request) := by
  have hmoves : Moves setup s (.submit request) (s.submit setup request) := submit_moves s request
  rw [accepted_concat_submit, ← hnumber]
  generalize s.submit setup request = t at hmoves
  cases hmoves with
  | refused hcheck =>
    have hmore := h.append (check setup request s.nextJob).toOption.toList
    exact ⟨hmore.waiting, hmore.running, hmore.launches⟩
  | @queued _ job hcheck =>
    rw [hcheck]
    have hmore := h.append [job]
    refine ⟨?_, hmore.running, hmore.launches⟩
    intro other hother
    rcases List.mem_append.1 hother with hother | hother
    · exact hmore.waiting other hother
    · exact List.mem_append_right _ hother
  | @admitted _ job hcheck hfree hwaiting =>
    rw [hcheck]
    have hmore := h.append [job]
    have hempty : Launched setup (accepted setup done ++ [job])
        { s with nextJob := s.nextJob + 1, waiting := [] } :=
      ⟨by simp, hmore.running, hmore.launches⟩
    exact hempty.begin hfree (by simp) (check_eq_ok hcheck).2
  | advanced _ hevent | ended hevent | passed hevent => cases hevent

/-- The next turn is given to a job that was found in order. -/
theorem launched_proceed {jobs : List Job} {s : Session} (hline : s.InLine)
    (h : Launched setup jobs s) : Launched setup jobs (s.proceed setup) := by
  cases hrunning : s.running? with
  | some r => rwa [proceed_of_running hrunning]
  | none =>
    cases hwaiting : s.waiting with
    | nil => rwa [proceed_of_nil hwaiting]
    | cons job rest =>
      rw [proceed_of_waiting hrunning hwaiting]
      have hmem := h.waiting
      rw [hwaiting] at hmem
      have hrest : Launched setup jobs { s with waiting := rest } :=
        ⟨fun other hother => hmem other (List.mem_cons_of_mem _ hother), h.running, h.launches⟩
      exact hrest.begin hrunning (hmem job List.mem_cons_self) (hline.checked_of_waiting hwaiting)

theorem launched_withdraw {jobs : List Job} {s : Session} (h : Launched setup jobs s)
    (number : Nat) : Launched setup jobs (s.withdraw number) := by
  unfold Session.withdraw
  split
  · exact ⟨fun job hjob => h.waiting job (List.mem_filter.1 hjob).1, h.running, h.launches⟩
  · exact h

/-- One event launches no command but that of a job found in order by then. -/
theorem launched_step {done : List SessionEvent} {s : Session} (hline : s.InLine)
    (hnumber : s.nextJob = (requests done).length) (h : Launched setup (accepted setup done) s)
    (event : SessionEvent) :
    Launched setup (accepted setup (done ++ [event])) (s.step setup event) := by
  cases hevent : event.request? with
  | some request =>
    rw [SessionEvent.eq_submit hevent]
    exact launched_submit hnumber h request
  | none =>
    rw [accepted_concat_of_none done hevent]
    cases hturn : event.isOfTurn with
    | true =>
      cases hrunning : s.running? with
      | some r =>
        rw [step_of_running hrunning hturn]
        exact h.goesOn hrunning (goesOn_advance hrunning event)
      | none => rwa [step_of_free hrunning hturn]
    | false =>
      cases event with
      | submit request => cases hevent
      | proceed => exact launched_proceed hline h
      | withdraw number => exact launched_withdraw h number
      | _ => cases hturn

/-- **Every command that is launched is that of a job found in order.** -/
theorem launched_run (setup : BuildSetup) (listeners : List Listener)
    (events : List SessionEvent) :
    Launched setup (accepted setup events) ((startWith listeners).run setup events) := by
  induction events using List.reverseRecOn with
  | nil => exact Launched.start setup listeners
  | append_singleton done event ih =>
    rw [run_append, run_cons, run_nil]
    exact launched_step (inLine_run setup (inLine_startWith listeners) done)
      (nextJob_run setup listeners done) ih event

/-! ## Names in commands -/

/-- A job that was found in order comes from a request among the events. -/
theorem exists_request_of_accepted {events : List SessionEvent} {job : Job}
    (h : job ∈ accepted setup events) :
    ∃ request number, .submit request ∈ events ∧ check setup request number = .ok job := by
  obtain ⟨q, hq, hcheck⟩ := exists_of_mem_accepted h
  refine ⟨q.1, q.2, ?_, hcheck⟩
  rw [requests] at hq
  obtain ⟨event, hevent, hrequest⟩ := List.mem_filterMap.1 (List.fst_mem_of_mem_zipIdx hq)
  rwa [← SessionEvent.eq_submit hrequest]

/-- A setting for a name that was given in a request or is that of the configuration or platform. -/
structure IsSetting (request : BuildRequest) (setting name value : Text) : Prop where
  text : setting = "/p:" ++ name ++ char '=' :: value
  equals : char '=' ∉ name
  taken : TakenForName name
  given : name = "Configuration".toText ∨ name = "Platform".toText
    ∨ name ∈ request.properties.map Prod.fst

theorem isSetting_propertyArgument {request : BuildRequest} {name value : Text}
    (htaken : TakenForName name)
    (hgiven : name = "Configuration".toText ∨ name = "Platform".toText
      ∨ name ∈ request.properties.map Prod.fst) :
    IsSetting request (propertyArgument (name, value)) name (escapeValue value) where
  text := by
    show ("/p:" : Text) ++ name ++ [char '='] ++ escapeValue value = _
    simp
  equals := equals_notMem_of_isPropertyName ((isPropertyName_iff name).2 htaken)
  taken := htaken
  given := hgiven

/-- **Only what is taken for a name reaches a build.** A request with a target that exists is
    refused for a name that its caller gave and that is not taken for one, and then nothing changes
    but that it has an outcome; else all names that its caller gave are, and it is in order.
    Whatever is launched for a request has, after eight arguments that do not depend on properties,
    settings only whose names are taken for such. -/
theorem launched_names (setup : BuildSetup) (listeners : List Listener)
    (events : List SessionEvent) :
    let s := (startWith listeners).run setup events
    (∀ request target, checkTarget setup.disk request.target? = .ok target →
        (∃ name ∈ request.properties.map Prod.fst, ¬ TakenForName name
          ∧ s.step setup (.submit request)
            = { s with nextJob := s.nextJob + 1 }.note s.nextJob
                (.error (.request (.badPropertyName name))))
        ∨ (∀ name ∈ request.properties.map Prod.fst, TakenForName name)
          ∧ ∃ job, check setup request s.nextJob = .ok job)
      ∧ ∀ launch ∈ s.launches, ∃ request target log settings, .submit request ∈ events
        ∧ launch.command = buildCommand setup.tool target log [] ++ settings
        ∧ ∀ setting ∈ settings, ∃ name value, IsSetting request setting name value := by
  intro s
  constructor
  · intro request target htarget
    have hnames := check_names htarget s.nextJob
    cases hcheck : check setup request s.nextJob with
    | error e =>
      rw [hcheck] at hnames
      obtain ⟨name, hname, hbad, rfl⟩ := hnames
      refine Or.inl ⟨name, hname, hbad, ?_⟩
      show s.submit setup request = _
      simp only [submit, hcheck]
    | ok job =>
      rw [hcheck] at hnames
      exact Or.inr ⟨hnames, job, rfl⟩
  · intro launch hlaunch
    have hlaunched := launched_run setup listeners events
    obtain ⟨job, hjob, log, hcommand⟩ := hlaunched.launches launch hlaunch
    obtain ⟨request, number, hevent, hcheck⟩ := exists_request_of_accepted hjob
    refine ⟨request, job.target, log, job.properties.map propertyArgument, hevent, ?_, ?_⟩
    · rw [hcommand, buildCommand_eq_append]
    · intro setting hsetting
      obtain ⟨property, hproperty, rfl⟩ := List.mem_map.1 hsetting
      obtain ⟨htaken, hgiven⟩ := names_of_check hcheck property.1 (List.mem_map_of_mem hproperty)
      exact ⟨property.1, _, isSetting_propertyArgument htaken hgiven⟩

/-- One build is launched, and a request for another is refused for the second of its names. -/
theorem launched_names_refused :
    let accepted : BuildRequest := { plainRequest with properties := [("My.Prop-1", some "x y")] }
    let refused : BuildRequest :=
      { plainRequest with properties := [("_x", some "y"), ("1x", none)] }
    let s := (startWith []).run plainSetup [.submit accepted, .launch]
    checkTarget plainSetup.disk refused.target? = .ok "/src/App.csproj"
      ∧ s.step plainSetup (.submit refused)
        = { s with nextJob := s.nextJob + 1 }.note s.nextJob
            (.error (.request (.badPropertyName "1x")))
      ∧ s.launches.length = 1 := by
  intro accepted refused s
  have htarget : checkTarget plainSetup.disk refused.target? = .ok "/src/App.csproj" := by
    decide +kernel
  refine ⟨htarget, ?_, by decide +kernel⟩
  rcases (launched_names plainSetup [] [.submit accepted, .launch]).1 refused _ htarget with
    ⟨name, hname, hbad, hstep⟩ | ⟨hall, -⟩
  · have hlast : name = "1x".toText := by
      simp only [refused, List.map_cons, List.map_nil, List.mem_cons, List.not_mem_nil,
        or_false] at hname
      rcases hname with rfl | rfl
      · exact absurd (by decide) hbad
      · rfl
    rw [hlast] at hstep
    exact hstep
  · exact absurd (hall "1x" (by decide)) (by decide)

/-- A name with a line feed after it is no plain name, and its build is launched. -/
theorem launched_lineFeed :
    let request : BuildRequest :=
      { plainRequest with properties := [("A\n", some "1")] }
    let s := start.run plainSetup [.submit request, .launch]
    isPlainName "A\n" = false ∧ s.outcome? 0 = none
      ∧ s.launches.map Launch.command
        = [["/bin/dotnet", "msbuild", "/src/App.csproj", "/t:rebuild",
          "/binaryLogger:/tmp/buildcapture-0.binlog", "/verbosity:minimal", "/nologo",
          "/interactive:false", "/p:Configuration=Debug", "/p:Platform=AnyCPU",
          "/p:A\n=1"].map String.toText] := by
  decide +kernel

end Session

end CompileTrace
