import CompileTrace.Proofs.Build.Streams

set_option autoImplicit false

/-! # The buffer of a build's output

Lines are appended to the buffer one after the other, and after each one the oldest are dropped
until the rest keeps the limit. What is left is what a look at all lines at once would choose: the
longest end of them that keeps the limit (`IsLongestEnd`). Dropping lines from the front finds it
(`dropOldest_eq`, `shrink_keeps`), and nothing that was dropped earlier would be chosen later
(`Keeps.append`). In every run of a session, the buffer of the build that has the turn has this of
the lines that the build wrote since it was launched (`Session.output_recent`). -/

namespace CompileTrace

/-! ## Ends of lines -/

theorem sizeOfLines_append (lines more : List Text) :
    sizeOfLines (lines ++ more) = sizeOfLines lines + sizeOfLines more := by
  induction lines with
  | nil => rw [List.nil_append, sizeOfLines, Nat.zero_add]
  | cons line rest ih => rw [List.cons_append, sizeOfLines, sizeOfLines, ih, Nat.add_assoc]

/-- Whether lines are the end of others, with no more characters than a limit, and no longer end of
    them has so few. -/
structure IsLongestEnd (limit : Nat) (kept all : List Text) : Prop where
  suffix : kept <:+ all
  fits : sizeOfLines kept ≤ limit
  longest : ∀ other, other <:+ all → sizeOfLines other ≤ limit → other <:+ kept

/-- An end of two lists put together is an end of the second, or has all of it. -/
theorem suffix_append_cases {other first second : List Text} (h : other <:+ first ++ second) :
    other <:+ second ∨ ∃ part, part <:+ first ∧ other = part ++ second := by
  rcases List.suffix_or_suffix_of_suffix h (List.suffix_append first second) with hshort | hlong
  · exact .inl hshort
  · obtain ⟨part, rfl⟩ := hlong
    exact .inr ⟨part, List.suffix_append_self_iff.1 h, rfl⟩

namespace OutputBuffer

/-! ## Dropping lines -/

/-- Dropping stops at the longest end that keeps the limit together with the characters that come
    after it, if any end does. -/
theorem dropOldest_eq (after : Nat) (lines : List Text) :
    ∃ kept, dropOldest (sizeOfLines lines + after) lines = (kept, sizeOfLines kept + after)
      ∧ kept <:+ lines
      ∧ (kept ≠ [] → sizeOfLines kept + after ≤ outputLimit)
      ∧ ∀ other, other <:+ lines → sizeOfLines other + after ≤ outputLimit → other <:+ kept := by
  induction lines with
  | nil => exact ⟨[], rfl, List.suffix_rfl, fun hne => absurd rfl hne, fun _ hother _ => hother⟩
  | cons line rest ih =>
    rw [dropOldest]
    split
    · next hover =>
      obtain ⟨kept, hdrop, hsuffix, hfits, hlongest⟩ := ih
      have hrest : sizeOfLines (line :: rest) + after - line.length = sizeOfLines rest + after := by
        rw [sizeOfLines]
        omega
      refine ⟨kept, by rw [hrest, hdrop], hsuffix.trans (List.suffix_cons line rest), hfits, ?_⟩
      intro other hother hsize
      rcases List.suffix_cons_iff.1 hother with rfl | hother
      · exact absurd hsize (Nat.not_le_of_lt hover)
      · exact hlongest other hother hsize
    · next hfits =>
      exact ⟨line :: rest, rfl, List.suffix_rfl, fun _ => Nat.le_of_not_lt hfits,
        fun _ hother _ => hother⟩

/-- Whether a buffer counts its characters, and its lines are the longest end of some lines that
    keeps the limit. -/
structure Keeps (buffer : OutputBuffer) (all : List Text) : Prop where
  counted : buffer.size = sizeOfLines buffer.lines
  longest : IsLongestEnd outputLimit buffer.lines all

/-- **Dropping lines from a buffer leaves the longest end of them that keeps the limit.** -/
theorem shrink_keeps {buffer : OutputBuffer} (h : buffer.size = sizeOfLines buffer.lines) :
    buffer.shrink.Keeps buffer.lines := by
  obtain ⟨older, newer, size⟩ := buffer
  have hlines : (⟨older, newer, size⟩ : OutputBuffer).lines = older ++ newer.reverse := rfl
  rw [hlines, sizeOfLines_append] at h
  obtain rfl : size = sizeOfLines older + sizeOfLines newer.reverse := h
  rw [hlines, shrink]
  split
  · next hfits =>
    rw [← sizeOfLines_append] at hfits
    exact ⟨(sizeOfLines_append _ _).symm, List.suffix_rfl, hfits, fun _ hother _ => hother⟩
  · next hover =>
    obtain ⟨kept, hdrop, hsuffix, hfits, hlongest⟩ :=
      dropOldest_eq (sizeOfLines newer.reverse) older
    cases kept with
    | cons line rest =>
      -- some of the older lines stay, and so do all of the newer ones
      simp only [hdrop]
      refine ⟨(sizeOfLines_append _ _).symm, List.suffix_append_self_iff.2 hsuffix, ?_, ?_⟩
      · rw [lines, sizeOfLines_append]
        exact hfits (List.cons_ne_nil line rest)
      · intro other hother hsize
        rcases suffix_append_cases hother with hnewer | ⟨part, hpart, rfl⟩
        · exact List.suffix_append_of_suffix hnewer
        · rw [sizeOfLines_append] at hsize
          exact List.suffix_append_self_iff.2 (hlongest part hpart hsize)
    | nil =>
      obtain ⟨kept', hdrop', hsuffix', hfits', hlongest'⟩ := dropOldest_eq 0 newer.reverse
      have hsize : sizeOfLines [] + sizeOfLines newer.reverse = sizeOfLines newer.reverse + 0 := by
        rw [sizeOfLines, Nat.zero_add, Nat.add_zero]
      have hkept : (⟨kept', [], sizeOfLines kept' + 0⟩ : OutputBuffer).lines = kept' :=
        List.append_nil kept'
      simp only [hdrop, hsize, hdrop']
      refine ⟨by rw [hkept, Nat.add_zero], ?_, ?_, ?_⟩
      · rw [hkept]
        exact List.suffix_append_of_suffix hsuffix'
      · rw [hkept]
        by_cases hne : kept' = []
        · rw [hne]
          exact Nat.zero_le _
        · exact hfits' hne
      · rw [hkept]
        intro other hother hfit
        rcases suffix_append_cases hother with hnewer | ⟨part, hpart, rfl⟩
        · exact hlongest' other hnewer hfit
        · -- no older line stays, so that the end has none either
          rw [sizeOfLines_append] at hfit
          obtain rfl := List.eq_nil_of_suffix_nil (hlongest part hpart hfit)
          rw [sizeOfLines, Nat.zero_add] at hfit
          exact hlongest' _ List.suffix_rfl hfit

/-! ## Appending lines -/

/-- **One more line keeps the buffer at the longest end that keeps the limit**: an end of all lines
    up to the new one that fits was an end that fitted before. -/
theorem Keeps.append {buffer : OutputBuffer} {all : List Text} (h : buffer.Keeps all)
    (line : Text) : (buffer.append line).Keeps (all ++ [cutLine line]) := by
  -- the buffer with the line, before anything is dropped
  let pushed : OutputBuffer :=
    ⟨buffer.older, cutLine line :: buffer.newer, buffer.size + (cutLine line).length⟩
  have hpushed : pushed.lines = buffer.lines ++ [cutLine line] := by simp [pushed, lines]
  have hcounted : pushed.size = sizeOfLines pushed.lines := by
    rw [hpushed, sizeOfLines_append, ← h.counted]
    rfl
  have hshrunk := shrink_keeps hcounted
  rw [hpushed] at hshrunk
  refine ⟨hshrunk.counted, ?_, hshrunk.longest.fits, fun other hother hsize => ?_⟩
  · exact hshrunk.longest.suffix.trans (List.suffix_append_self_iff.2 h.longest.suffix)
  · refine hshrunk.longest.longest other ?_ hsize
    rcases List.suffix_concat_iff.1 hother with rfl | ⟨part, rfl, hpart⟩
    · exact List.nil_suffix
    · rw [sizeOfLines_append] at hsize
      have hpart' := h.longest.longest part hpart (Nat.le_of_add_right_le hsize)
      exact List.suffix_append_self_iff.2 hpart'

theorem keeps_empty : empty.Keeps [] :=
  ⟨rfl, List.suffix_rfl, Nat.zero_le _, fun _ hother _ => hother⟩

theorem keeps_ofLines (given : List Text) : (ofLines given).Keeps (given.map cutLine) := by
  induction given using List.reverseRecOn with
  | nil => exact keeps_empty
  | append_singleton init line ih =>
    rw [ofLines, List.foldl_append, List.map_append]
    exact ih.append line

/-- A line that was cut has fewer characters than are kept in all. -/
theorem length_cutLine_le (line : Text) : (cutLine line).length ≤ outputLimit := by
  have hlimit : lineLimit + cutMark.length ≤ outputLimit := by decide
  unfold cutLine
  split
  · rw [List.length_append]
    exact (Nat.add_le_add_right (List.length_take_le _ _) _).trans hlimit
  · omega

/-- What a buffer has of the lines that were appended to it. It counts its characters, which keep
    the limit; its lines are the longest end of all lines, each cut as it came, that keeps the
    limit, so that the last line is always there, and all of them are as long as they fit. -/
structure Recent (buffer : OutputBuffer) (given : List Text) : Prop where
  counted : buffer.size = sizeOfLines buffer.lines
  bounded : buffer.size ≤ outputLimit
  longest : IsLongestEnd outputLimit buffer.lines (given.map cutLine)
  last : buffer.lines.getLast? = (given.map cutLine).getLast?
  complete : sizeOfLines (given.map cutLine) ≤ outputLimit → buffer.lines = given.map cutLine

/-- **The buffer has the longest end of its lines that keeps the limit.** -/
theorem recent_ofLines (given : List Text) : (ofLines given).Recent given := by
  obtain ⟨hcounted, hlongest⟩ := keeps_ofLines given
  refine ⟨hcounted, hcounted ▸ hlongest.fits, hlongest, ?_, fun hfits => ?_⟩
  · rcases List.eq_nil_or_concat' given with rfl | ⟨init, line, rfl⟩
    · rfl
    · rw [List.map_append, List.map_singleton] at hlongest ⊢
      have hone : [cutLine line] <:+ (ofLines (init ++ [line])).lines :=
        hlongest.longest _ (List.suffix_append _ _) (length_cutLine_le line)
      rw [List.getLast?_concat]
      exact List.singleton_suffix_iff_getLast?_eq_some.1 hone
  · have hall := hlongest.longest _ List.suffix_rfl hfits
    exact hlongest.suffix.eq_of_length_le hall.length_le

end OutputBuffer

/-! ## The buffer of a build that runs -/

/-- The line that an event writes, if it writes one. -/
def SessionEvent.line? : SessionEvent → Option Text
  | .line text => some text
  | _ => none

namespace Session

variable {setup : BuildSetup}

/-- A build that is given its turn is not launched yet, and has no output. -/
theorem begin_unlaunched {s : Session} (hfree : s.running? = none) {job : Job} {r : Running}
    (h : (s.begin setup job).running? = some r) : r.launched = false ∧ r.output = .empty := by
  simp only [begin] at h
  split at h
  · simp [note, hfree] at h
  · simp [note, hfree] at h
  · split at h
    · simp [note, hfree] at h
    · cases h
      exact ⟨rfl, rfl⟩

/-- What the build that has the turn has after an event, if it keeps its turn: it may have been
    launched, and if it was before, it has the line that the event writes. -/
inductive Follows (r : Running) (event : SessionEvent) (r' : Running) : Prop
  | launched (hevent : event = .launch) (hbefore : r.launched = false)
    (hafter : r'.launched = true) (houtput : r'.output = r.output)
  | wrote (hlaunched : r.launched = true) (hafter : r'.launched = true)
    (houtput : r'.output = event.line?.toList.foldl OutputBuffer.append r.output)
  | waited (hbefore : r.launched = false) (hafter : r'.launched = false)
    (houtput : r'.output = r.output)

theorem follows_of_same {r r' : Running} {event : SessionEvent} (hline : event.line? = none)
    (hlaunched : r'.launched = r.launched) (houtput : r'.output = r.output) :
    Follows r event r' := by
  cases hr : r.launched with
  | true => exact .wrote hr (hlaunched.trans hr) (by rw [hline, houtput]; rfl)
  | false => exact .waited hr (hlaunched.trans hr) houtput

theorem finish_running? (s : Session) (r : Running) (exitCode : Int) :
    (s.finish r exitCode).running? = none := by
  simp only [finish]
  split
  · rfl
  · split <;> rfl

theorem expire_running? {s : Session} {r : Running} (hrunning : s.running? = some r) :
    (s.expire r).running? = none ∨ (s.expire r).running? = some r := by
  unfold expire
  split
  · exact .inr hrunning
  · split
    · exact .inl rfl
    · exact .inl rfl

/-- **Whatever happens to a build that keeps its turn, its output follows.** -/
theorem follows_advance {s : Session} {r r' : Running} (hrunning : s.running? = some r)
    {event : SessionEvent} (h : (s.advance setup r event).running? = some r') :
    r'.job = r.job ∧ Follows r event r' := by
  have hsame : ∀ event : SessionEvent, event.line? = none → s.running? = some r' →
      r'.job = r.job ∧ Follows r event r' := by
    intro event hline hstay
    obtain rfl : r = r' := Option.some.inj (hrunning.symm.trans hstay)
    exact ⟨rfl, follows_of_same hline rfl rfl⟩
  cases event with
  | submit | proceed | withdraw => exact hsame _ rfl h
  | cancel | leave =>
    cases h
    exact ⟨rfl, follows_of_same rfl rfl rfl⟩
  | abandon => cases h
  | launch =>
    simp only [advance] at h
    split at h
    · exact hsame _ rfl h
    · next hlaunched =>
      unfold launch at h
      split at h
      · cases h
      · cases h
        exact ⟨rfl, .launched rfl (Bool.not_eq_true _ ▸ hlaunched) rfl rfl⟩
  | line text =>
    simp only [advance] at h
    split at h
    · next hlaunched =>
      cases h
      exact ⟨rfl, .wrote hlaunched hlaunched rfl⟩
    · next hlaunched =>
      obtain rfl : r = r' := Option.some.inj (hrunning.symm.trans h)
      rw [Bool.not_eq_true] at hlaunched
      exact ⟨rfl, .waited hlaunched hlaunched rfl⟩
  | finish exitCode file? =>
    simp only [advance] at h
    split at h
    · rw [finish_running?] at h
      cases h
    · exact hsame _ rfl h
  | breakOff reason =>
    simp only [advance] at h
    split at h
    · cases h
    · exact hsame _ rfl h
  | silence =>
    simp only [advance] at h
    split at h
    · cases h
    · exact hsame _ rfl h
  | expire =>
    simp only [advance] at h
    split at h
    · rcases expire_running? hrunning with hnone | hstay
      · rw [hnone] at h
        cases h
      · rw [hstay, ← hrunning] at h
        exact hsame _ rfl h
    · exact hsame _ rfl h

/-- What the build that has the turn wrote in some events: nothing before it was launched, and then
    all lines since its launch. -/
inductive Wrote (setup : BuildSetup) (s : Session) (events : List SessionEvent) (r : Running) :
    List Text → Prop
  | unlaunched (hlaunched : r.launched = false) : Wrote setup s events r []
  | launched {before after : List SessionEvent} {r₀ : Running}
    (hevents : events = before ++ .launch :: after)
    (hrunning : (s.run setup before).running? = some r₀) (hbefore : r₀.launched = false)
    (hjob : r₀.job = r.job) (hlaunched : r.launched = true) :
    Wrote setup s events r (after.filterMap SessionEvent.line?)

/-- One event more adds the line that it writes. -/
theorem Wrote.follow {s : Session} {events : List SessionEvent} {r r' : Running}
    {written : List Text} (h : Wrote setup s events r written) (hjob : r'.job = r.job)
    {event : SessionEvent} (hfollows : Follows r event r')
    (hrunning : (s.run setup events).running? = some r)
    (houtput : r.output = .ofLines written) :
    ∃ written', Wrote setup s (events ++ [event]) r' written'
      ∧ r'.output = .ofLines written' := by
  cases hfollows with
  | launched hevent hbefore hafter hsame =>
    subst hevent
    cases h with
    | unlaunched =>
      have hwrote : Wrote setup s (events ++ [.launch]) r' (([] : List SessionEvent).filterMap
          SessionEvent.line?) :=
        .launched rfl hrunning hbefore hjob.symm hafter
      exact ⟨[], hwrote, hsame.trans houtput⟩
    | launched _ _ _ _ hlaunched =>
      rw [hbefore] at hlaunched
      cases hlaunched
  | wrote hlaunched hafter happend =>
    cases h with
    | unlaunched hbefore =>
      rw [hlaunched] at hbefore
      cases hbefore
    | @launched before after r₀ hevents hrunning₀ hbefore hjob₀ =>
      have hmore : events ++ [event] = before ++ .launch :: (after ++ [event]) := by
        rw [hevents, List.append_assoc, List.cons_append]
      have hline : [event].filterMap SessionEvent.line? = event.line?.toList := by
        cases hevent : event.line? <;> simp [hevent]
      refine ⟨_, .launched hmore hrunning₀ hbefore (hjob₀.trans hjob.symm) hafter, ?_⟩
      rw [happend, houtput, OutputBuffer.ofLines, OutputBuffer.ofLines, List.filterMap_append,
        List.foldl_append, hline]
  | waited hbefore hafter hsame =>
    cases h with
    | unlaunched => exact ⟨[], .unlaunched hafter, hsame.trans houtput⟩
    | launched _ _ _ _ hlaunched =>
      rw [hbefore] at hlaunched
      cases hlaunched

/-- **In every run, the buffer of the build that has the turn is made of the lines that it
    wrote.** -/
theorem output_run (setup : BuildSetup) (listeners : List Listener) (events : List SessionEvent)
    {r : Running} (h : ((startWith listeners).run setup events).running? = some r) :
    ∃ written, Wrote setup (startWith listeners) events r written
      ∧ r.output = .ofLines written := by
  induction events using List.reverseRecOn generalizing r with
  | nil => cases h
  | append_singleton init event ih =>
    rw [run_append, run_cons, run_nil] at h
    generalize hs : (startWith listeners).run setup init = s at h
    -- a build that had the turn before goes on, and one that is given it has no output
    have hstay : ∀ {r₀}, s.running? = some r₀ → r.job = r₀.job → Follows r₀ event r →
        ∃ written, Wrote setup (startWith listeners) (init ++ [event]) r written
          ∧ r.output = .ofLines written := by
      intro r₀ hrunning hjob hfollows
      rw [← hs] at hrunning
      obtain ⟨written, hwrote, houtput⟩ := ih hrunning
      exact hwrote.follow hjob hfollows hrunning houtput
    have hbegin : ∀ {s' : Session} {job : Job}, (s'.begin setup job).running? = some r →
        s'.running? = none →
        ∃ written, Wrote setup (startWith listeners) (init ++ [event]) r written
          ∧ r.output = .ofLines written := by
      intro s' job hgiven hfree
      obtain ⟨hlaunched, houtput⟩ := begin_unlaunched hfree hgiven
      exact ⟨[], .unlaunched hlaunched, houtput⟩
    cases hturn : event.isOfTurn with
    | true =>
      cases hrunning : s.running? with
      | some r₀ =>
        rw [step_of_running hrunning hturn] at h
        obtain ⟨hjob, hfollows⟩ := follows_advance hrunning h
        exact hstay hrunning hjob hfollows
      | none =>
        rw [step_of_free hrunning hturn, hrunning] at h
        cases h
    | false =>
      have hline : event.line? = none := by
        cases event with
        | line => cases hturn
        | _ => rfl
      rcases step_lets_or_begins setup s hturn with hsame | ⟨t, job, hfree, hbegins⟩
      · exact hstay (hsame ▸ h) rfl (follows_of_same hline rfl rfl)
      · exact hbegin (hbegins ▸ h) hfree

/-- **The buffer has the longest end of its lines that keeps the limit**, whatever lines are
    appended to it; and at every moment of every run, the buffer of the build that has the turn has
    that of the lines that the build wrote since it was launched. -/
theorem output_recent :
    (∀ given, (OutputBuffer.ofLines given).Recent given)
    ∧ ∀ (setup : BuildSetup) (listeners : List Listener) (events : List SessionEvent) (r : Running),
      ((startWith listeners).run setup events).running? = some r →
        ∃ written, Wrote setup (startWith listeners) events r written
          ∧ r.output.Recent written := by
  refine ⟨OutputBuffer.recent_ofLines, fun setup listeners events r hrunning => ?_⟩
  obtain ⟨written, hwrote, houtput⟩ := output_run setup listeners events hrunning
  exact ⟨written, hwrote, houtput ▸ OutputBuffer.recent_ofLines written⟩

/-- Two lines of a build, with a request to stop between them, and one that came too early. -/
theorem output_recent_stopped :
    let events := [.submit plainRequest, .line "early", .launch, .line "a", .cancel, .line "b"]
    ∃ r, ((startWith []).run plainSetup events).running? = some r
      ∧ r.output.lines = ["a".toText, "b".toText]
      ∧ ∃ written, Wrote plainSetup (startWith []) events r written
        ∧ r.output.Recent written := by
  intro events
  have hlines : ((startWith []).run plainSetup events).running?.any
      (fun r => decide (r.output.lines = ["a".toText, "b".toText])) = true := by
    decide +kernel
  obtain ⟨r, hrunning, hr⟩ := Option.any_eq_true .. |>.1 hlines
  exact ⟨r, hrunning, of_decide_eq_true hr, output_recent.2 plainSetup [] events r hrunning⟩

end Session

end CompileTrace
