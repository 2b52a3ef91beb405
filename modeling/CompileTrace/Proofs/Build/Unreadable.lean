import CompileTrace.Proofs.Build.Listeners
import CompileTrace.Proofs.Build.Statements
import CompileTrace.Proofs.Number.Digits
import CompileTrace.Proofs.Text.LetterCase
import CompileTrace.Proofs.Traversal

set_option autoImplicit false

/-! # Output that cannot be read

A line has the form of a diagnostic whatever the case of its severity, and both the dotless small
letter and the dotted capital count as an `i` there. Neither becomes one in lower case, so that such
a line names no severity (`Severity.ofName_lower`). This and numbers of too many digits are all that
keeps output from being read, and the first line of that kind is the fault of the whole
(`Diagnostic.errorOf?_ofOutput`). A build that ends with such output has the fault in the stead of
what became of it (`Session.finish_outcome`). -/

namespace CompileTrace

/-- The fault of a result, if it has one. -/
def errorOf? {ε α : Type} : Except ε α → Option ε
  | .ok _ => none
  | .error e => some e

section

variable {ε α : Type}

theorem errorOf?_eq_some_iff {x : Except ε α} {e : ε} : errorOf? x = some e ↔ x = .error e := by
  cases x with
  | ok a => simp [errorOf?]
  | error e' => simp [errorOf?]

theorem errorOf?_eq_none_iff {x : Except ε α} : errorOf? x = none ↔ ∃ a, x = .ok a := by
  cases x with
  | ok a => simp [errorOf?]
  | error e' => simp [errorOf?]

/-- The fault of many results is the first one. -/
theorem errorOf?_mapM_id (results : List (Except ε α)) :
    errorOf? (results.mapM id) = results.findSome? errorOf? := by
  induction results with
  | nil => rfl
  | cons first rest ih =>
    rw [List.mapM_cons, List.findSome?_cons, ← ih]
    cases first with
    | error e => rfl
    | ok a => cases rest.mapM id <;> rfl

end

/-! ## Spelled severities -/

/-- Whether a text has an `i` in one of the two forms that are not ASCII. -/
def HasOtherI (s : Text) : Prop := char 'ı' ∈ s ∨ char 'İ' ∈ s

instance (s : Text) : Decidable (HasOtherI s) := inferInstanceAs (Decidable (_ ∨ _))

theorem hasOtherI_cons_iff (c : CodePoint) (s : Text) :
    HasOtherI (c :: s) ↔ (c = 'ı' ∨ c = 'İ') ∨ HasOtherI s := by
  simp only [HasOtherI, List.mem_cons, eq_comm]
  exact or_or_or_comm

namespace Diagnostic

theorem toLower_of_isLetter {letter c : CodePoint} (h : isLetter letter c = true)
    (hother : ¬ (c = 'ı' ∨ c = 'İ')) : c.toLower = letter := by
  simp only [isLetter, Bool.or_eq_true, Bool.and_eq_true, beq_iff_eq] at h
  rcases h with h | ⟨-, h⟩
  · exact h
  · exact absurd h hother

/-- A word of ASCII that is spelled without another `i` is the lower case of how it is spelled. -/
theorem lower_of_spelled? {word s found rest : Text} (h : spelled? word s = some (found, rest))
    (hword : ∀ c ∈ word, c.toNat < 0x80) (hother : ¬ HasOtherI found) : found.lower = word := by
  have hboth : (∀ c ∈ found, c.toNat < 0x80) ∧ found.map CodePoint.toLower = word := by
    induction word generalizing s found with
    | nil =>
      cases h
      exact ⟨by simp, rfl⟩
    | cons letter word ih =>
      cases s with
      | nil => cases h
      | cons c s =>
        rw [spelled?] at h
        split at h
        · next hletter =>
          obtain ⟨⟨found', rest'⟩, hfound, hpair⟩ := Option.map_eq_some_iff.1 h
          cases hpair
          rw [hasOtherI_cons_iff, not_or] at hother
          rw [List.forall_mem_cons] at hword
          obtain ⟨hascii, hmap⟩ := ih hfound hword.2 hother.2
          have hlower := toLower_of_isLetter hletter hother.1
          have hcode : c.toNat < 0x80 := by
            have htoLower := toNat_toLower c
            rw [hlower] at htoLower
            have := hword.1
            split_ifs at htoLower with hcapital
            · omega
            · omega
          exact ⟨List.forall_mem_cons.2 ⟨hcode, hascii⟩, by rw [List.map_cons, hlower, hmap]⟩
        · cases h
  rw [Text.lower_of_ascii hboth.1, hboth.2]

/-- **What is spelled with another `i` names no severity, and what is spelled without does.** -/
theorem ofName_lower {s found rest : Text} (h : severity? s = some (found, rest)) :
    errorOf? (Severity.ofName found.lower)
      = if HasOtherI found then some ⟨found.lower⟩ else none := by
  split
  · next hother =>
    have hascii : ∀ severity ∈ Severity.all,
        char 'ı' ∉ severity.name ∧ char '\u0307' ∉ severity.name := by
      decide
    have hnone : Severity.all.find? (fun severity => severity.name = found.lower) = none := by
      rw [List.find?_eq_none]
      intro severity hseverity hname
      rw [decide_eq_true_eq] at hname
      obtain ⟨hdotless, hdot⟩ := hascii severity hseverity
      rw [hname] at hdotless hdot
      rcases hother with hi | hi
      · exact hdotless (Text.dotless_mem_lower hi)
      · exact hdot (Text.dot_mem_lower hi)
    rw [Severity.ofName, hnone]
    rfl
  · next hother =>
    have hascii : ∀ severity ∈ Severity.all, severity.name.all (·.toNat < 0x80) = true := by decide
    obtain ⟨severity, hseverity, hspelled⟩ := List.exists_of_findSome?_eq_some h
    have hword : ∀ c ∈ severity.name, c.toNat < 0x80 := by
      simpa using hascii severity hseverity
    rw [lower_of_spelled? hspelled hword hother]
    cases severity <;> rfl

/-! ## Lines in the form of a diagnostic -/

/-- What has to be converted of a line that has the form of a diagnostic: the text of its severity,
    and its line and column if it has a place. -/
structure Form where
  severity : Text
  numbers : List Text
  deriving DecidableEq, Repr

/-- The form of a line, if it has that of a diagnostic. -/
def form? (line : Text) : Option Form :=
  match locatedStatement? line with
  | some (location, s) => some ⟨s.severity, [location.line, location.column]⟩
  | none => (bareStatement? line).map (fun s => ⟨s.severity, []⟩)

/-- The forms of the lines of some output. -/
def forms (output : Text) : List Form := (output.lines.map Text.trim).filterMap form?

/-- Why a form tells no diagnostic: its severity is spelled with another `i`, or else one of its
    numbers has too many digits. -/
def Form.fault? (form : Form) : Option DiagnosticFault :=
  if HasOtherI form.severity then some (.severity ⟨form.severity.lower⟩)
  else
    (form.numbers.find? (fun number => digitLimit < number.length)).map
      (fun number => .number (.tooLong number.length))

theorem severity?_of_statement? {s : Text} {found : Statement} (h : statement? s = some found) :
    ∃ rest, severity? s = some (found.severity, rest) := by
  rw [statement?] at h
  split at h
  · cases h
  · next severity rest hseverity =>
    dsimp only at h
    split at h
    · cases h
    · split at h
      · cases h
      · split at h
        · cases h
        · cases h
          exact ⟨rest, hseverity⟩
      · cases h

theorem severity?_of_bareStatement? {s : Text} {found : Statement}
    (h : bareStatement? s = some found) :
    ∃ s' rest, severity? s' = some (found.severity, rest) := by
  unfold bareStatement? at h
  split at h
  · next hfound =>
    obtain ⟨after, -, hstatement⟩ := Option.bind_eq_some_iff.1 hfound
    cases h
    exact ⟨after, severity?_of_statement? hstatement⟩
  · exact ⟨s, severity?_of_statement? h⟩

theorem ne_nil_of_digits? {s digits rest : Text} (h : digits? s = some (digits, rest)) :
    digits ≠ [] := by
  rw [digits?] at h
  split at h
  · cases h
  · next hne =>
    rintro rfl
    exact hne rest (Option.some.inj h)

theorem digits_of_location? {s rest : Text} {location : Location}
    (h : location? s = some (location, rest)) :
    (location.line ≠ [] ∧ ∀ c ∈ location.line, isDecimalDigit c = true)
      ∧ (location.column ≠ [] ∧ ∀ c ∈ location.column, isDecimalDigit c = true) := by
  rw [location?] at h
  split at h
  · cases h
  · cases h
  · obtain ⟨⟨line, afterLine⟩, hline, h⟩ := Option.bind_eq_some_iff.1 h
    obtain ⟨afterComma, -, h⟩ := Option.bind_eq_some_iff.1 h
    obtain ⟨⟨column, afterColumn⟩, hcolumn, h⟩ := Option.bind_eq_some_iff.1 h
    obtain ⟨rest', -, h⟩ := Option.bind_eq_some_iff.1 h
    cases h
    exact ⟨⟨ne_nil_of_digits? hline, (append_of_digits? hline).2⟩,
      ne_nil_of_digits? hcolumn, (append_of_digits? hcolumn).2⟩

/-- The numbers of a place are read unless one has too many digits. -/
theorem errorOf?_numbers {s rest : Text} {location : Location}
    (h : location? s = some (location, rest)) :
    errorOf? location.numbers
      = ([location.line, location.column].find? (fun n => digitLimit < n.length)).map
          (fun n => .tooLong n.length) := by
  obtain ⟨⟨hline, hlineDigits⟩, hcolumn, hcolumnDigits⟩ := digits_of_location? h
  have hlineRead := Text.toWhole_of_digits hline hlineDigits
  have hcolumnRead := Text.toWhole_of_digits hcolumn hcolumnDigits
  generalize digitLimit = limit at hlineRead hcolumnRead ⊢
  unfold Location.numbers
  rcases hlineRead with ⟨⟨line, hline⟩, hshort⟩ | ⟨hline, hlong⟩
  · rcases hcolumnRead with ⟨⟨column, hcolumn⟩, hshort'⟩ | ⟨hcolumn, hlong'⟩
    · rw [hline, hcolumn, List.find?_eq_none.2 (by simp [hshort, hshort'])]
      rfl
    · rw [hline, hcolumn]
      simp [Nat.not_lt.2 hshort, hlong']
      rfl
  · rw [hline]
    simp [hlong]
    rfl

theorem errorOf?_ofStatement {s rest : Text} {found : Statement}
    (h : severity? s = some (found.severity, rest)) :
    errorOf? (ofStatement found) = Form.fault? ⟨found.severity, []⟩ := by
  have hseverity := ofName_lower h
  unfold ofStatement Form.fault?
  split at hseverity
  · next hother =>
    rw [errorOf?_eq_some_iff.1 hseverity, if_pos hother]
    rfl
  · next hother =>
    obtain ⟨severity, hname⟩ := errorOf?_eq_none_iff.1 hseverity
    rw [hname, if_neg hother]
    rfl

theorem errorOf?_ofLocated {s : Text} {location : Location} {found : Statement}
    (h : locatedStatement? s = some (location, found)) :
    errorOf? (ofLocated location found)
      = Form.fault? ⟨found.severity, [location.line, location.column]⟩ := by
  rw [locatedStatement?] at h
  split at h
  · cases h
  · next location' rest hlocation =>
    obtain ⟨found', hfound, hpair⟩ := Option.map_eq_some_iff.1 h
    cases hpair
    obtain ⟨rest', hseverity⟩ := severity?_of_statement? hfound
    have hstatement := errorOf?_ofStatement hseverity
    have hnumbers := errorOf?_numbers hlocation
    by_cases hother : HasOtherI found.severity
    · simp only [Form.fault?, if_pos hother] at hstatement ⊢
      rw [ofLocated, errorOf?_eq_some_iff.1 hstatement]
      rfl
    · simp only [Form.fault?, if_neg hother, List.find?_nil, Option.map_none] at hstatement ⊢
      obtain ⟨bare, hbare⟩ := errorOf?_eq_none_iff.1 hstatement
      have hfault : ([location.line, location.column].find? (fun n => digitLimit < n.length)).map
            (fun n => DiagnosticFault.number (.tooLong n.length))
          = (errorOf? location.numbers).map .number := by
        rw [hnumbers, Option.map_map]
        rfl
      rw [ofLocated, hbare, hfault]
      cases location.numbers <;> rfl

/-- A line tells a diagnostic unless its form has a fault. -/
theorem errorOf?_ofLine? (line : Text) :
    (ofLine? line).bind errorOf? = (form? line).bind Form.fault? := by
  unfold ofLine? form?
  cases hlocated : locatedStatement? line with
  | some pair => exact errorOf?_ofLocated hlocated
  | none =>
    cases hbare : bareStatement? line with
    | none => rfl
    | some found =>
      obtain ⟨s', rest, hseverity⟩ := severity?_of_bareStatement? hbare
      exact errorOf?_ofStatement hseverity

/-- **Output is read unless a form in it has a fault, and else has the first such fault.** -/
theorem errorOf?_ofOutput (output : Text) :
    errorOf? (ofOutput output) = (forms output).findSome? Form.fault? := by
  rw [ofOutput, errorOf?_mapM_id, forms, findSome?_filterMap, findSome?_filterMap]
  simp only [errorOf?_ofLine?]

end Diagnostic

/-! ## Builds that end -/

/-- What becomes of a build that ends by itself or is killed, with the diagnostics of its output. -/
def Running.outcomeWith (r : Running) (exitCode : Int) (found : List Diagnostic) : BuildOutcome :=
  let output := r.output.text
  if r.cancelRequested then
    .error (.cancelled ⟨Session.cancelledMessage r.job.target, output, some exitCode, found⟩)
  else if exitCode ≠ 0 then
    .error (.failed
      ⟨Session.unableMessage r.job.target (char '\n' :: output), output, some exitCode,
      found⟩)
  else .ok ⟨r.log, r.job.target, r.job.properties, exitCode, output, found, 0.0⟩

/-- What becomes of a build that ends, if its output can be read, and else the fault in it. -/
def Running.outcomeRead (r : Running) (exitCode : Int) : BuildOutcome :=
  match Diagnostic.ofOutput r.output.text with
  | .ok found => r.outcomeWith exitCode found
  | .error fault => .error (.output fault)

/-- Whether a build that ends succeeded: it was not asked to stop, and its exit code is zero. -/
def Running.Succeeds (r : Running) (exitCode : Int) : Prop :=
  r.cancelRequested = false ∧ exitCode = 0

instance (r : Running) (exitCode : Int) : Decidable (r.Succeeds exitCode) :=
  inferInstanceAs (Decidable (_ ∧ _))

namespace Session

/-- A build that ends goes to a state that tells whether it succeeded, with what became of it or
    the fault in its output, unless its log or a listener is in the way. -/
theorem exists_finish_eq (s : Session) (r : Running) (exitCode : Int) :
    ∃ state, (state = .ready ↔ r.Succeeds exitCode)
      ∧ s.finish r exitCode = s.conclude r state (r.outcomeRead exitCode) := by
  simp only [finish, Running.Succeeds]
  split
  · next hcancel =>
    refine ⟨.cancelled, iff_of_false (by decide) (by simp [hcancel]), congrArg _ ?_⟩
    simp only [failureOf, BuildFailure.ofOutput, Running.outcomeRead, Running.outcomeWith, hcancel]
    cases Diagnostic.ofOutput r.output.text <;> rfl
  · next hcancel =>
    split
    · next hcode =>
      refine ⟨.failed, iff_of_false (by decide) (by simp [hcode]), congrArg _ ?_⟩
      simp only [failureOf, BuildFailure.ofOutput, Running.outcomeRead, Running.outcomeWith,
        hcancel, if_pos hcode]
      cases Diagnostic.ofOutput r.output.text <;> rfl
    · next hcode =>
      obtain rfl : exitCode = 0 := by simpa using hcode
      refine ⟨.ready, iff_of_true rfl (by simpa using hcancel), congrArg _ ?_⟩
      cases hread : Diagnostic.ofOutput r.output.text with
      | ok found =>
        simp [successOf, BuildResult.withDiagnostics_eq hread, Running.outcomeRead, hread,
          Running.outcomeWith, hcancel]
      | error fault =>
        simp [successOf, BuildResult.withDiagnostics, Running.outcomeRead, hread, Except.map]

/-- How a calm session is done with a build that goes to a state: with its outcome, unless it did
    not succeed and its log cannot be removed. -/
theorem outcome_endingOf {s : Session} (hcalm : s.IsCalm) (r : Running) (state : BuildState)
    (outcome : BuildOutcome) : (s.endingOf r state outcome).outcome
      = if state = .ready then outcome
        else
          match r.file?.bind LogFile.removal? with
          | some fault => .error (.log (.system fault r.log))
          | none => outcome := by
  unfold endingOf
  split
  · exact outcomeAfter_eq (escape?_of_calm hcalm state) outcome
  · cases r.file?.bind LogFile.removal? with
    | some fault => rfl
    | none => exact outcomeAfter_eq (escape?_of_calm hcalm state) outcome

/-- **Output that cannot be read hides what became of a build**, and else only a log that cannot be
    removed does, if listeners are calm. Output is read exactly if no line in the form of a
    diagnostic spells its severity with another `i` or has a number of too many digits, and the
    first such line is its fault. A build that ends, by itself or by being killed, counts as
    cancelled if it was asked to stop, and else has failed or succeeded by its exit code, with the
    diagnostics of its output; but if that is not read, it has the fault instead, and if it did not
    succeed and what is left at the path of its log cannot be removed, it has that error. -/
theorem finish_outcome (output : Text) :
    ((∃ found, Diagnostic.ofOutput output = .ok found)
        ↔ ∀ form ∈ Diagnostic.forms output, form.fault? = none)
      ∧ (∀ fault, Diagnostic.ofOutput output = .error fault
        ↔ (Diagnostic.forms output).findSome? Diagnostic.Form.fault? = some fault)
      ∧ ∀ setup listeners events r exitCode file?,
        let s := (startWith listeners).run setup events
        let ended := match Diagnostic.ofOutput output with
          | .ok found => r.outcomeWith exitCode found
          | .error fault => .error (.output fault)
        (∀ l ∈ listeners, l.IsCalm) → s.running? = some r → r.launched = true →
          r.output.text = output →
            (s.step setup (.finish exitCode file?)).outcome? r.job.number
              = some (if r.Succeeds exitCode then ended
                else
                  match file?.bind LogFile.removal? with
                  | some fault => .error (.log (.system fault r.log))
                  | none => ended) := by
  have hfault := Diagnostic.errorOf?_ofOutput output
  refine ⟨?_, ?_, ?_⟩
  · rw [← errorOf?_eq_none_iff, hfault, List.findSome?_eq_none_iff]
  · intro fault
    rw [← errorOf?_eq_some_iff, hfault]
  · intro setup listeners events r exitCode file? s ended hlisteners hrunning hlaunched houtput
    have hline : s.InLine := inLine_run setup (inLine_startWith listeners) events
    have hcalm : s.IsCalm := isCalm_run setup (isCalm_startWith hlisteners) events
    obtain ⟨state, hstate, hfinish⟩ := exists_finish_eq s { r with file? := file? } exitCode
    have hended : ({ r with file? := file? } : Running).outcomeRead exitCode = ended := by
      simp only [Running.outcomeRead, houtput]
      rfl
    have hstep : s.step setup (.finish exitCode file?)
        = s.finish { r with file? := file? } exitCode := by
      rw [step_of_running hrunning rfl]
      simp [advance, hlaunched]
    have hsame : ({ r with file? := file? } : Running).job = r.job := rfl
    have hover := outcome?_conclude hline hrunning hsame state ended
    have hsucceeds : state = .ready ↔ r.Succeeds exitCode := hstate
    rw [outcome_endingOf hcalm] at hover
    simp only [hsucceeds] at hover
    rw [hstep, hfinish, hended]
    exact hover

/-- A build that fails, after a warning in capitals and a line that only begins like one. -/
theorem finish_outcome_failed :
    let s := (startWith [.failing]).run plainSetup [.submit plainRequest, .launch,
      .line "a.cs(1,2): WARNING W: m", .line "warn\u0131ng: m"]
    (∀ l ∈ [Listener.failing], l.IsCalm)
      ∧ ∃ r found, s.running? = some r ∧ r.launched = true
        ∧ Diagnostic.ofOutput r.output.text = .ok found
        ∧ (s.step plainSetup (.finish 1 none)).outcome? r.job.number
          = some (r.outcomeWith 1 found) := by
  intro s
  have hcalm : ∀ l ∈ [Listener.failing], l.IsCalm := by simpa using Listener.isCalm_failing
  have hready : s.running?.any (fun r => r.launched
      && (Diagnostic.forms r.output.text).all (fun form => form.fault? = none)) = true := by
    decide +kernel
  obtain ⟨r, hrunning, hr⟩ := Option.any_eq_true .. |>.1 hready
  simp only [Bool.and_eq_true, List.all_eq_true, decide_eq_true_eq] at hr
  obtain ⟨hread, -, hends⟩ := finish_outcome r.output.text
  obtain ⟨found, hfound⟩ := hread.2 hr.2
  have houtcome := hends plainSetup [.failing] _ r 1 none hcalm hrunning hr.1 rfl
  have hfails : ¬ r.Succeeds 1 := by simp [Running.Succeeds]
  rw [if_neg hfails, hfound] at houtcome
  exact ⟨hcalm, r, found, hrunning, hr.1, hfound, houtcome⟩

/-- A line with a dotless `i`: the output is not read, and a build that succeeded has the fault. -/
theorem finish_dotless :
    let s := start.run plainSetup
      [.submit plainRequest, .launch, .line "warn\u0131ng X: m", .finish 0 (some (.ofContent []))]
    Diagnostic.ofOutput "warn\u0131ng X: m" = .error (.severity ⟨"warn\u0131ng"⟩)
      ∧ s.state = .ready
      ∧ s.outcome? 0 = some (.error (.output (.severity ⟨"warn\u0131ng"⟩))) := by
  decide +kernel

end Session

end CompileTrace
