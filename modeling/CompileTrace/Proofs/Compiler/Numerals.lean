import CompileTrace.Proofs.Compiler.Accumulation
import CompileTrace.Proofs.Compiler.Lists
import CompileTrace.Proofs.Compiler.Reporting

set_option autoImplicit false

/-! # Numbers in arguments

The warning level and the numbers of diagnostics are looked at twice: first whether they have digits
only, and then what number they write. Some digits write no decimal number, so the second look can
fail where the first did not. Nothing else in an argument fails but as a malformed argument, and
what fails in this way are the numerals of the first faulty argument (`interpret_malformed_iff`). -/

namespace CompileTrace

/-! ## Faults of numbers -/

/-- Whether a fault says of an argument that it is malformed, and not of a text that it is no
    number. -/
def ArgumentFault.isMalformed : ArgumentFault → Bool
  | number _ => false
  | _ => true

/-- Why no number is read from a text, if none is. -/
def Text.wholeFault? (s : Text) : Option WholeFault :=
  match s.toWhole with
  | .ok _ => none
  | .error fault => some fault

/-- A number is read from any decimal digits that are not too many. -/
theorem Text.wholeFault?_eq_none_iff {s : Text} (h : s ≠ []) :
    s.wholeFault? = none ↔ s.length ≤ digitLimit ∧ ∀ c ∈ s, isDecimalDigit c = true := by
  have hread : s.wholeFault? = none ↔ ∃ n, s.toWhole = .ok n := by
    unfold wholeFault?
    cases s.toWhole <;> simp
  simp only [hread, toWhole_eq_ok_iff, exists_and_right, exists_toNat?_iff]
  exact ⟨fun hs => ⟨hs.2, hs.1.2⟩, fun hs => ⟨⟨h, hs.2⟩, hs.1⟩⟩

section

variable {α β : Type}

/-- The fault of a number that a result has for its fault. -/
def numberFault? : Except ArgumentFault α → Option WholeFault
  | .error (.number fault) => some fault
  | _ => none

theorem numberFault?_eq_some_iff {x : Except ArgumentFault α} {fault : WholeFault} :
    numberFault? x = some fault ↔ x = .error (.number fault) := by
  cases x with
  | ok a => simp [numberFault?]
  | error e => cases e <;> simp [numberFault?]

theorem numberFault?_map (x : Except ArgumentFault α) (f : α → β) :
    numberFault? (x.map f) = numberFault? x := by
  cases x with
  | ok a => rfl
  | error e => cases e <;> rfl

theorem numberFault?_toWhole (s : Text) (f : Nat → α) :
    numberFault? ((s.toWhole.map f).mapError .number) = s.wholeFault? := by
  unfold Text.wholeFault?
  cases s.toWhole <;> rfl

/-- A traversal whose steps fail for numbers only has the fault of the first step that fails. -/
theorem numberFault?_mapM {f : α → Except ArgumentFault β}
    (h : ∀ x fault, f x = .error fault → ∃ reason, fault = .number reason) (items : List α) :
    numberFault? (items.mapM f) = items.findSome? (fun item => numberFault? (f item)) := by
  induction items with
  | nil => rfl
  | cons item rest ih =>
    rw [List.mapM_cons, List.findSome?_cons]
    cases hitem : f item with
    | error fault =>
      obtain ⟨reason, rfl⟩ := h item fault hitem
      rfl
    | ok y =>
      show numberFault? ((rest.mapM f).map (y :: ·)) = _
      rw [numberFault?_map, ih]
      rfl

end

/-! ## Numerals -/

/-- The texts that a switch gives for numbers: the warning level and the items of a list of
    diagnostics, if they have digits only. -/
def Switch.numerals (switch : Switch) : List Text :=
  ((switch.given? .warningLevel).toList
    ++ (ReportingChange.listed? switch).toList.flatMap Prod.snd).filter Text.isDigits

/-- The texts that an argument gives for numbers. -/
def numerals (argument : Text) : List Text :=
  (Switch.ofArgument? argument).toList.flatMap Switch.numerals

namespace Directive

theorem numberFault?_diagnosticId (item : Text) :
    numberFault? (diagnosticId item) = if item.isDigits then item.wholeFault? else none := by
  unfold diagnosticId
  split
  · exact numberFault?_toWhole item _
  · rfl

theorem number_of_diagnosticId {item : Text} {fault : ArgumentFault}
    (h : diagnosticId item = .error fault) : ∃ reason, fault = .number reason := by
  unfold diagnosticId at h
  split at h
  · obtain ⟨reason, -, rfl⟩ := exists_of_mapError_eq_error h
    exact ⟨reason, rfl⟩
  · cases h

theorem numberFault?_diagnosticIds (value : Text) :
    numberFault? (diagnosticIds value)
      = ((diagnosticItems value).filter Text.isDigits).findSome? Text.wholeFault? := by
  show numberFault? ((diagnosticItems value).mapM diagnosticId) = _
  rw [numberFault?_mapM (fun _ _ => number_of_diagnosticId)]
  induction diagnosticItems value with
  | nil => rfl
  | cons item rest ih =>
    rw [List.findSome?_cons, numberFault?_diagnosticId, ih]
    cases hdigits : item.isDigits with
    | true => rw [if_pos rfl, List.filter_cons_of_pos hdigits, List.findSome?_cons]
    | false =>
      rw [if_neg Bool.false_ne_true, List.filter_cons_of_neg (Bool.eq_false_iff.1 hdigits)]

theorem numberFault?_required (argument : Text) (value? : Option Text) :
    numberFault? (required argument value?) = none := by
  unfold required
  simp only
  split <;> rfl

/-- A step that finds no number in an empty value fails for numbers as it does without looking
    whether there is a value. -/
theorem numberFault?_required_bind {α : Type} (argument : Text) (value? : Option Text)
    {f : Text → Except ArgumentFault α} (hnil : numberFault? (f []) = none) :
    numberFault? ((required argument value?).bind f)
      = numberFault? (f (value?.getD []).unquote) := by
  unfold required
  simp only
  split
  · next hempty =>
    rw [List.isEmpty_iff.1 hempty, hnil]
    rfl
  · rfl

theorem numberFault?_ofTarget (argument value : Text) :
    numberFault? (ofTarget argument value) = none := by
  unfold ofTarget
  split <;> rfl

theorem numberFault?_ofNullable (argument : Text) (switch : Switch) :
    numberFault? (ofNullable argument switch) = none := by
  unfold ofNullable
  split
  · rfl
  · split
    · rfl
    · split <;> rfl

theorem numberFault?_ofWarningLevel (argument level : Text) :
    numberFault? (ofWarningLevel argument level)
      = ([level].filter Text.isDigits).findSome? Text.wholeFault? := by
  unfold ofWarningLevel
  split
  · next hdigits =>
    rw [numberFault?_toWhole, List.filter_cons_of_pos hdigits, List.filter_nil,
      List.findSome?_singleton]
  · next hdigits =>
    rw [List.filter_cons_of_neg hdigits]
    rfl

/-- **What fails in a switch for a number is the first of its numerals that no number is read
    from.** -/
theorem numberFault?_ofSwitch (base argument : Text) (switch : Switch) :
    numberFault? (ofSwitch base argument switch)
      = switch.numerals.findSome? Text.wholeFault? := by
  obtain ⟨name, enabled, value?⟩ := switch
  unfold ofSwitch Switch.numerals Switch.given? ReportingChange.listed?
  simp only
  cases OptionName.ofText? name with
  | none => rfl
  | some option =>
    cases option with
    | warningLevel =>
      rw [numberFault?_required_bind _ _ rfl, numberFault?_ofWarningLevel]
      rfl
    | noWarn =>
      rw [numberFault?_required_bind _ _ rfl, numberFault?_map, numberFault?_diagnosticIds]
      simp
    | warnAsError =>
      simp only [ofWarnAsError]
      split
      · next hempty =>
        rw [List.isEmpty_iff.1 hempty]
        rfl
      · rw [numberFault?_map, numberFault?_diagnosticIds]
        simp
    | target =>
      rw [numberFault?_required_bind _ _ rfl, numberFault?_ofTarget]
      rfl
    | nullable =>
      rw [numberFault?_ofNullable]
      rfl
    | documentation => rfl
    | toggle t => cases value? <;> rfl
    | _ =>
      rw [numberFault?_map, numberFault?_required]
      rfl

theorem numberFault?_ofArgument (base argument : Text) :
    numberFault? (ofArgument base argument)
      = (numerals argument).findSome? Text.wholeFault? := by
  unfold ofArgument numerals Switch.ofArgument?
  split
  · next hresponse =>
    have hswitch : Switch.split? argument = none := by
      refine Switch.split?_eq_none (fun c hc => ?_)
      rw [hresponse, Option.mem_some_iff] at hc
      subst hc
      decide
    rw [hswitch]
    rfl
  · cases Switch.split? argument with
    | none => rfl
    | some parts =>
      obtain ⟨name, value?⟩ := parts
      simp only
      split
      · next hname =>
        rw [List.isEmpty_iff.1 hname]
        rfl
      · rw [numberFault?_ofSwitch]
        simp

end Directive

namespace CompilerArguments

variable {cwd directory : Text} {args : List Text}

theorem interpret_eq_number_iff (cwd directory : Text) (args : List Text) (reason : WholeFault) :
    interpret cwd directory args = .error (.number reason)
      ↔ ∃ before argument after, args = before ++ argument :: after
        ∧ (∀ earlier ∈ before, ∃ a, interpret cwd directory [earlier] = .ok a)
        ∧ (numerals argument).findSome? Text.wholeFault? = some reason := by
  simp only [interpret_eq_error_iff, interpret_singleton, map_eq_error_iff,
    ← Directive.numberFault?_ofArgument (baseOf cwd directory), numberFault?_eq_some_iff]

/-- What is not malformed and yet fails fails for a number. -/
theorem interpreted_or_malformed_iff (result : Except ArgumentFault CompilerArguments) :
    ((∃ a, result = .ok a) ∨ ∃ fault, result = .error fault ∧ fault.isMalformed = true)
      ↔ ∀ reason, result ≠ .error (.number reason) := by
  cases result with
  | ok a => simp
  | error fault => cases fault <;> simp [ArgumentFault.isMalformed]

/-- A numeral is not empty. -/
theorem ne_nil_of_mem_numerals {argument numeral : Text} (h : numeral ∈ numerals argument) :
    numeral ≠ [] := by
  obtain ⟨switch, -, hmem⟩ := List.mem_flatMap.1 h
  have hdigits := (List.mem_filter.1 hmem).2
  rintro rfl
  cases hdigits

/-- **Arguments are interpreted or found malformed, unless the first that is neither has a numeral
    with digits that write no number**: one of its digits is no decimal digit, or they are too many.
    The reason is that of the first such numeral. -/
theorem interpret_malformed_iff (cwd directory : Text) (args : List Text) :
    (((∃ a, interpret cwd directory args = .ok a)
        ∨ ∃ fault, interpret cwd directory args = .error fault ∧ fault.isMalformed = true)
      ↔ ∀ before argument after, args = before ++ argument :: after →
        (∀ earlier ∈ before, ∃ a, interpret cwd directory [earlier] = .ok a) →
          ∀ numeral ∈ numerals argument,
            numeral.length ≤ digitLimit ∧ ∀ c ∈ numeral, isDecimalDigit c = true)
      ∧ ∀ reason, interpret cwd directory args = .error (.number reason)
        ↔ ∃ before argument after, args = before ++ argument :: after
          ∧ (∀ earlier ∈ before, ∃ a, interpret cwd directory [earlier] = .ok a)
          ∧ (numerals argument).findSome? Text.wholeFault? = some reason := by
  refine ⟨?_, interpret_eq_number_iff cwd directory args⟩
  rw [interpreted_or_malformed_iff]
  constructor
  · intro hnone before argument after hargs hbefore numeral hnumeral
    rw [← Text.wholeFault?_eq_none_iff (ne_nil_of_mem_numerals hnumeral)]
    cases hfirst : (numerals argument).findSome? Text.wholeFault? with
    | none => exact List.findSome?_eq_none_iff.1 hfirst numeral hnumeral
    | some reason =>
      exact absurd ((interpret_eq_number_iff cwd directory args reason).2
        ⟨before, argument, after, hargs, hbefore, hfirst⟩) (hnone reason)
  · intro hall reason herror
    obtain ⟨before, argument, after, hargs, hbefore, hfirst⟩ :=
      (interpret_eq_number_iff cwd directory args reason).1 herror
    obtain ⟨numeral, hnumeral, hfault⟩ := List.exists_of_findSome?_eq_some hfirst
    rw [(Text.wholeFault?_eq_none_iff (ne_nil_of_mem_numerals hnumeral)).2
      (hall before argument after hargs hbefore numeral hnumeral)] at hfault
    cases hfault

/-- A superscript is a digit that writes no decimal number: as a warning level it has digits only,
    and yet it fails as no malformed argument does. -/
theorem interpret_superscript :
    Text.isDigits "²" = true
      ∧ ¬ ((∃ a, interpret "/src" [] ["/warn:²"] = .ok a)
        ∨ ∃ fault, interpret "/src" [] ["/warn:²"] = .error fault ∧ fault.isMalformed = true) := by
  have herror : interpret "/src" [] ["/warn:²"] = .error (.number (.notANumber 10 "²")) := rfl
  refine ⟨by decide, ?_⟩
  rw [interpreted_or_malformed_iff, herror]
  exact fun hnone => hnone _ rfl

end CompilerArguments

end CompileTrace
