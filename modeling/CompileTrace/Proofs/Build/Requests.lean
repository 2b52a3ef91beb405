import CompileTrace.Proofs.Build.Order
import Mathlib.Data.List.Nodup
import Mathlib.Data.List.Range

set_option autoImplicit false

/-! # Requests and their numbers

The requests of a run are numbered in their order. One that is not in order has its outcome at once
(`Session.outcome?_of_refused`), and the jobs that the others make have distinct numbers
(`Session.accepted_nodup`). -/

namespace CompileTrace

namespace Session

variable {setup : BuildSetup}

/-! ## Among the events of a run -/

/-- The requests among some events, with their numbers. -/
def requests (events : List SessionEvent) : List (BuildRequest × Nat) :=
  (events.filterMap SessionEvent.request?).zipIdx

/-- The jobs of the requests that are in order. -/
def accepted (setup : BuildSetup) (events : List SessionEvent) : List Job :=
  (requests events).filterMap (fun q => (check setup q.1 q.2).toOption)

theorem requests_concat_of_none (events : List SessionEvent) {event : SessionEvent}
    (h : event.request? = none) : requests (events ++ [event]) = requests events := by
  simp [requests, h]

theorem requests_concat_submit (events : List SessionEvent) (request : BuildRequest) :
    requests (events ++ [.submit request])
      = requests events ++ [(request, (requests events).length)] := by
  simp [requests, SessionEvent.request?, List.zipIdx_append]

theorem accepted_concat_of_none (events : List SessionEvent) {event : SessionEvent}
    (h : event.request? = none) : accepted setup (events ++ [event]) = accepted setup events := by
  rw [accepted, requests_concat_of_none events h, ← accepted]

theorem accepted_concat_submit (events : List SessionEvent) (request : BuildRequest) :
    accepted setup (events ++ [.submit request])
      = accepted setup events
        ++ (check setup request (requests events).length).toOption.toList := by
  rw [accepted, requests_concat_submit, List.filterMap_append, ← accepted, List.filterMap_cons,
    List.filterMap_nil]
  cases check setup request (requests events).length <;> rfl

/-- The request that a job comes from. -/
theorem exists_of_mem_accepted {events : List SessionEvent} {job : Job}
    (h : job ∈ accepted setup events) :
    ∃ q ∈ requests events, check setup q.1 q.2 = .ok job := by
  rw [accepted, List.mem_filterMap] at h
  obtain ⟨q, hq, hjob⟩ := h
  refine ⟨q, hq, ?_⟩
  cases hcheck : check setup q.1 q.2 with
  | error error => simp [hcheck, Except.toOption] at hjob
  | ok job' =>
    simp only [hcheck, Except.toOption, Option.some.injEq] at hjob
    rw [hjob]

theorem snd_lt_of_mem_requests {events : List SessionEvent} {q : BuildRequest × Nat}
    (h : q ∈ requests events) : q.2 < (requests events).length := by
  rw [requests, List.length_zipIdx]
  exact (List.getElem?_eq_some_iff.1 (List.mem_zipIdx_iff_getElem?.1 h)).1

theorem number_lt_of_mem_accepted {events : List SessionEvent} {job : Job}
    (h : job ∈ accepted setup events) : job.number < (requests events).length := by
  obtain ⟨q, hq, hcheck⟩ := exists_of_mem_accepted h
  rw [(check_eq_ok hcheck).1]
  exact snd_lt_of_mem_requests hq

/-- Jobs have distinct numbers. -/
theorem accepted_nodup (setup : BuildSetup) (events : List SessionEvent) :
    ((accepted setup events).map Job.number).Nodup := by
  -- a job has the number of its request, so the numbers of jobs are some of those counted off
  have hsublist : ∀ qs : List (BuildRequest × Nat),
      ((qs.filterMap (fun q => (check setup q.1 q.2).toOption)).map Job.number).Sublist
        (qs.map Prod.snd) := by
    intro qs
    induction qs with
    | nil => exact List.Sublist.slnil
    | cons q rest ih =>
      cases hcheck : check setup q.1 q.2 with
      | error error => simpa [hcheck, Except.toOption] using ih.cons q.2
      | ok job => simpa [hcheck, Except.toOption, (check_eq_ok hcheck).1] using ih.cons_cons q.2
  refine (hsublist (requests events)).nodup ?_
  rw [requests, List.zipIdx_map_snd]
  exact List.nodup_range'

/-- A number is that of no request, of one that is refused, or of a job. -/
theorem number_cases (setup : BuildSetup) (events : List SessionEvent) (n : Nat) :
    (requests events).length ≤ n
      ∨ (∃ q ∈ requests events, q.2 = n ∧ ∃ error, check setup q.1 q.2 = .error error)
      ∨ ∃ job ∈ accepted setup events, job.number = n := by
  rcases Nat.lt_or_ge n (requests events).length with hn | hn
  · have hsnd : ((requests events)[n]).2 = n := by simp [requests]
    cases hcheck : check setup (requests events)[n].1 (requests events)[n].2 with
    | error error => exact .inr (.inl ⟨_, List.getElem_mem hn, hsnd, error, hcheck⟩)
    | ok job =>
      refine .inr (.inr ⟨job, ?_, (check_eq_ok hcheck).1.trans hsnd⟩)
      rw [accepted, List.mem_filterMap]
      exact ⟨_, List.getElem_mem hn, by rw [hcheck]; rfl⟩
  · exact .inl hn

theorem requests_congr {events events' : List SessionEvent}
    (h : events.filterMap SessionEvent.request? = events'.filterMap SessionEvent.request?) :
    requests events = requests events' := by
  rw [requests, requests, h]

theorem accepted_congr {events events' : List SessionEvent}
    (h : events.filterMap SessionEvent.request? = events'.filterMap SessionEvent.request?) :
    accepted setup events = accepted setup events' := by
  rw [accepted, accepted, requests_congr h]

/-! ## Numbers -/

theorem begin_nextJob (s : Session) (job : Job) : (s.begin setup job).nextJob = s.nextJob := by
  simp only [begin]
  split
  · rw [note, enter_nextJob]
  · rw [note, enter_nextJob]
  · split
    · rw [note, enter_nextJob]
    · exact enter_nextJob ..

/-- Each request uses up one number. -/
theorem nextJob_step (s : Session) (event : SessionEvent) :
    (s.step setup event).nextJob = s.nextJob + event.request?.toList.length := by
  have hmoves := step_moves setup s event
  generalize s.step setup event = t at hmoves
  cases hmoves with
  | refused | queued => rfl
  | admitted => exact begin_nextJob ..
  | promoted => exact begin_nextJob ..
  | withdrawn => rfl
  | advanced _ hevent | passed hevent =>
    rw [hevent]
    rfl
  | ended hevent =>
    rw [hevent, conclude_nextJob]
    rfl

theorem nextJob_run (setup : BuildSetup) (listeners : List Listener) (events : List SessionEvent) :
    ((startWith listeners).run setup events).nextJob = (requests events).length := by
  induction events using List.reverseRecOn with
  | nil => rfl
  | append_singleton done event ih =>
    rw [run_append, run_cons, run_nil, nextJob_step, ih]
    cases hevent : event.request? with
    | none => rw [requests_concat_of_none done hevent]; rfl
    | some request => simp [requests, hevent]

/-- **A request that is not in order has its outcome.** -/
theorem outcome?_of_refused (listeners : List Listener) {events : List SessionEvent}
    {q : BuildRequest × Nat} (hq : q ∈ requests events) {error : RequestError}
    (herror : check setup q.1 q.2 = .error error) :
    ((startWith listeners).run setup events).outcome? q.2 = some (.error (.request error)) := by
  induction events using List.reverseRecOn with
  | nil => cases hq
  | append_singleton done event ih =>
    rw [run_append, run_cons, run_nil]
    cases hevent : event.request? with
    | none =>
      rw [requests_concat_of_none done hevent] at hq
      exact outcome?_step (ih hq) event
    | some request =>
      obtain rfl := SessionEvent.eq_submit hevent
      rw [requests_concat_submit, List.mem_append, List.mem_singleton] at hq
      rcases hq with hq | rfl
      · exact outcome?_step (ih hq) _
      · -- the number is new, so that the outcome noted now is the first one found
        have hnumber := nextJob_run setup listeners done
        have hnone := (inLine_run setup (inLine_startWith listeners) done).later _
          (Nat.le_of_eq hnumber)
        simp only [step, submit, hnumber, herror]
        rw [outcome?_concat rfl, hnone]
        simp

end Session

end CompileTrace
