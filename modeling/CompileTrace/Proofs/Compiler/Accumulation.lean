import CompileTrace.Compiler.Arguments
import CompileTrace.Proofs.Traversal

set_option autoImplicit false

/-! # Interpreting arguments in one pass

Arguments can be interpreted without directives: one pass over them keeps `Notes` of what each
tells, leaves open what none has set so far, and fills it in when all have been read. An argument is
then looked at together with everything that was noted before it. Such a pass (`interpretInTurn`)
gives the same as carrying out directives (`interpretInTurn_eq`), since what one argument adds to
the notes is what its directive does to the arguments (`follows_note`). So nothing noted before
decides whether an argument can be interpreted, filling in never fails, and the first argument that
cannot be interpreted by itself is the fault of all (`interpret_first_fault`). -/

namespace CompileTrace

/-! ## Notes on the arguments so far -/

/-- What has been noted of the arguments so far. A value that no argument has set is left open. -/
structure Notes where
  outputKind? : Option OutputKind
  mainType? : Option Text
  optimize? : Option Bool
  platform? : Option Text
  allowUnsafe? : Option Bool
  checkOverflow? : Option Bool
  deterministic? : Option Bool
  nullability? : Option Nullability
  warningLevel? : Option Nat
  warningsAsErrors? : Option Bool
  reporting : Table Reporting
  languageVersion : Text
  symbols : List Text
  documentation : Documentation
  sources : List Text
  references : List Text
  outputName? : Option Text
  outputDirectory? : Option Text
  unrecognized : List Text
  deriving DecidableEq, Repr

namespace Notes

/-- The notes before any argument. -/
def empty : Notes where
  outputKind? := none
  mainType? := none
  optimize? := none
  platform? := none
  allowUnsafe? := none
  checkOverflow? := none
  deterministic? := none
  nullability? := none
  warningLevel? := none
  warningsAsErrors? := none
  reporting := []
  languageVersion := "default"
  symbols := []
  documentation := .parse
  sources := []
  references := []
  outputName? := none
  outputDirectory? := none
  unrecognized := []

/-- The references after one more item of a reference list: an item in quotes may be empty, and one
    with an equals sign has an alias before it. -/
def addReference (base : Text) (references : List Text) (item : Text) : List Text :=
  let item := item.trim.unquote
  if item.isEmpty then references
  else
    match item.cutAt? (char '=') with
    | none => references ++ [Path.resolve base item]
    | some (_, path) => references ++ [Path.resolve base path.unquote]

/-- The symbols after one more item of a list of symbols. -/
def addItem (symbols : List Text) (item : Text) : List Text :=
  let symbol := item.trim
  if symbol.isEmpty || symbols.contains symbol then symbols else symbols ++ [symbol]

/-- The reporting of diagnostics after one more that is to be an error, or no longer so. -/
def addWarnAsError (enabled : Bool) (reporting : Table Reporting) (id : Text) : Table Reporting :=
  if enabled then reporting.put id .error
  else if reporting.get? id = some .error then reporting.put id .warn
  else reporting

/-- The notes after a toggle. -/
def toggle (notes : Notes) (t : Toggle) (enabled : Bool) : Notes :=
  match t with
  | .optimize => { notes with optimize? := some enabled }
  | .unsafeCode => { notes with allowUnsafe? := some enabled }
  | .checked => { notes with checkOverflow? := some enabled }
  | .deterministic => { notes with deterministic? := some enabled }

/-- The toggles by their names. -/
def toggles : List (Text × Toggle) :=
  [("optimize", .optimize), ("o", .optimize), ("unsafe", .unsafeCode), ("checked", .checked),
   ("deterministic", .deterministic)]

/-- The notes after a switch that names the kind of binary. -/
def noteTarget (argument : Text) (notes : Notes) (value : Text) : Except ArgumentFault Notes :=
  match OutputKind.ofName? value.lower with
  | some kind => .ok { notes with outputKind? := some kind }
  | none => .error (.unknownTarget value.lower argument)

/-- The notes after a switch for nullable references. -/
def noteNullable (argument : Text) (notes : Notes) (switch : Switch) :
    Except ArgumentFault Notes :=
  if !switch.enabled then .ok { notes with nullability? := some .disable }
  else match switch.value? with
    | none => .ok { notes with nullability? := some .enable }
    | some value =>
      match Nullability.ofName? value.unquote.lower with
      | some choice => .ok { notes with nullability? := some choice }
      | none => .error (.unknownNullability argument)

/-- The notes after a switch that writes the warning level. -/
def noteWarningLevel (argument : Text) (notes : Notes) (level : Text) :
    Except ArgumentFault Notes :=
  if level.isDigits then
    (level.toWhole.map (fun n => { notes with warningLevel? := some n })).mapError .number
  else .error (.badWarningLevel level argument)

/-- The notes after a switch for warnings as errors, of all warnings if it lists none. -/
def noteWarnAsError (notes : Notes) (switch : Switch) : Except ArgumentFault Notes :=
  let value := switch.value?.getD []
  if value.isEmpty then .ok { notes with warningsAsErrors? := some switch.enabled }
  else
    (Directive.diagnosticIds value).map (fun ids =>
      { notes with reporting := ids.foldl (addWarnAsError switch.enabled) notes.reporting })

/-- The notes after a switch that no other option has the name of: a toggle takes no value. -/
def noteToggle (argument : Text) (notes : Notes) (switch : Switch) : Notes :=
  match toggles.lookup switch.name, switch.value? with
  | some t, none => notes.toggle t switch.enabled
  | _, _ => { notes with unrecognized := notes.unrecognized ++ [argument] }

/-- The notes after a switch. Its name decides, the names of the options being tried in turn. -/
def noteSwitch (base argument : Text) (notes : Notes) (switch : Switch) :
    Except ArgumentFault Notes :=
  let value := Directive.required argument switch.value?
  if switch.name = "out" then
    value.map (fun v =>
      let path := Path.resolve base v
      { notes with
        outputName? := some (Path.fileName path), outputDirectory? := some (Path.directory path) })
  else if switch.name = "target" ∨ switch.name = "t" then
    value.bind (notes.noteTarget argument)
  else if switch.name = "reference" ∨ switch.name = "r" then
    value.map (fun v =>
      { notes with
        references :=
          (v.fieldsBy Directive.isListSeparator).foldl (addReference base) notes.references })
  else if switch.name = "define" ∨ switch.name = "d" then
    value.map (fun v =>
      { notes with symbols := (v.fieldsBy Directive.isListSeparator).foldl addItem notes.symbols })
  else if switch.name = "langversion" then
    value.map (fun v => { notes with languageVersion := v.lower })
  else if switch.name = "nullable" then notes.noteNullable argument switch
  else if switch.name = "warn" ∨ switch.name = "w" then
    value.bind (notes.noteWarningLevel argument)
  else if switch.name = "warnaserror" then notes.noteWarnAsError switch
  else if switch.name = "nowarn" then
    value.bind (fun v =>
      (Directive.diagnosticIds v).map (fun ids =>
        { notes with
          reporting := ids.foldl (fun reporting id => reporting.put id .suppress)
            notes.reporting }))
  else if switch.name = "platform" then value.map (fun v => { notes with platform? := some v })
  else if switch.name = "main" ∨ switch.name = "m" then
    value.map (fun v => { notes with mainType? := some v })
  else if switch.name = "doc" then .ok { notes with documentation := .diagnose }
  else .ok (notes.noteToggle argument switch)

/-- The notes after one more argument. -/
def note (base : Text) (notes : Notes) (argument : Text) : Except ArgumentFault Notes :=
  if argument.head? = some (char '@') then .error (.responseFile argument)
  else
    match Switch.split? argument with
    | none =>
      .ok { notes with sources := notes.sources ++ [Path.resolve base argument.unquote] }
    | some (name, value?) =>
      if name.isEmpty then .error (.missingName argument)
      else notes.noteSwitch base argument (Switch.ofName name value?)

/-- What the notes tell in all, what was left open being filled in. The name of the output file is
    also the module's name. -/
def finish (base : Text) (notes : Notes) : CompilerArguments where
  compilation :=
    { outputKind := notes.outputKind?.getD CompilationOptions.default.outputKind
      moduleName? := notes.outputName?
      mainType? := notes.mainType?
      optimization :=
        (notes.optimize?.map (fun optimize => if optimize then .release else .debug)).getD
          CompilationOptions.default.optimization
      platform := notes.platform?.getD CompilationOptions.default.platform
      allowUnsafe := notes.allowUnsafe?.getD CompilationOptions.default.allowUnsafe
      checkOverflow := notes.checkOverflow?.getD CompilationOptions.default.checkOverflow
      deterministic := notes.deterministic?.getD CompilationOptions.default.deterministic
      nullability := notes.nullability?.getD CompilationOptions.default.nullability
      warningLevel := notes.warningLevel?.getD CompilationOptions.default.warningLevel
      warningsAsErrors := notes.warningsAsErrors?.getD CompilationOptions.default.warningsAsErrors
      reporting := notes.reporting }
  parse := ⟨notes.languageVersion, notes.symbols, notes.documentation⟩
  sources := notes.sources
  references := notes.references
  baseDirectory := base
  outputName? := notes.outputName?
  outputDirectory? := notes.outputDirectory?
  unrecognized := notes.unrecognized

end Notes

namespace CompilerArguments

/-- What the arguments tell in all, noted in one pass over them. -/
def interpretInTurn (cwd directory : Text) (args : List Text) :
    Except ArgumentFault CompilerArguments :=
  let base := baseOf cwd directory
  (args.foldlM (Notes.note base) Notes.empty).map (Notes.finish base)

end CompilerArguments

namespace Notes

/-! ## Items of lists -/

theorem foldl_addReference (base : Text) (items references : List Text) :
    items.foldl (addReference base) references
      = references ++ (items.filterMap Directive.referencePath?).map (Path.resolve base) := by
  induction items generalizing references with
  | nil => simp
  | cons item rest ih =>
    rw [List.foldl_cons, ih, List.filterMap_cons]
    simp only [addReference, Directive.referencePath?]
    split
    · rfl
    · cases item.trim.unquote.cutAt? (char '=') with
      | none => simp
      | some parts => simp

theorem foldl_addItem (items symbols : List Text) :
    items.foldl addItem symbols
      = ((items.map Text.trim).filter (fun s => !s.isEmpty)).foldl addSymbol symbols := by
  induction items generalizing symbols with
  | nil => rfl
  | cons item rest ih =>
    rw [List.foldl_cons, ih, List.map_cons]
    cases hitem : item.trim.isEmpty with
    | true => simp [addItem, hitem]
    | false => simp [addItem, addSymbol, hitem]

/-- Relaxing a diagnostic or making it an error changes the table as the directive does. -/
theorem addWarnAsError_eq (enabled : Bool) :
    addWarnAsError enabled = changeReporting (if enabled then .promote else .relax) := by
  funext reporting id
  cases enabled <;> rfl

/-! ## One argument -/

/-- Notes that may have been taken are finished as what a directive, if there is one, does to the
    finished notes before it; without either the fault is the same. -/
def Follows (base : Text) (notes : Notes) (noted : Except ArgumentFault Notes)
    (directive : Except ArgumentFault Directive) : Prop :=
  noted.map (finish base) = directive.map (notes.finish base).apply

section

variable {base : Text} {notes : Notes}

theorem follows_error (fault : ArgumentFault) : Follows base notes (.error fault) (.error fault) :=
  rfl

theorem follows_ok {noted : Notes} {d : Directive}
    (h : noted.finish base = (notes.finish base).apply d) :
    Follows base notes (.ok noted) (.ok d) :=
  congrArg Except.ok h

theorem follows_map {α : Type} (value : Except ArgumentFault α) {f : α → Notes} {g : α → Directive}
    (h : ∀ v, (f v).finish base = (notes.finish base).apply (g v)) :
    Follows base notes (value.map f) (value.map g) := by
  cases value with
  | error fault => exact follows_error fault
  | ok v => exact follows_ok (h v)

theorem follows_bind {α : Type} (value : Except ArgumentFault α)
    {f : α → Except ArgumentFault Notes} {g : α → Except ArgumentFault Directive}
    (h : ∀ v, Follows base notes (f v) (g v)) :
    Follows base notes (value.bind f) (value.bind g) := by
  cases value with
  | error fault => exact follows_error fault
  | ok v => exact h v

theorem follows_target (argument value : Text) :
    Follows base notes (notes.noteTarget argument value) (Directive.ofTarget argument value) := by
  unfold noteTarget Directive.ofTarget
  cases OutputKind.ofName? value.lower with
  | none => exact follows_error _
  | some kind => exact follows_ok rfl

theorem follows_nullable (argument : Text) (switch : Switch) :
    Follows base notes (notes.noteNullable argument switch)
      (Directive.ofNullable argument switch) := by
  obtain ⟨name, enabled, value?⟩ := switch
  cases enabled with
  | false => exact follows_ok rfl
  | true =>
    cases value? with
    | none => exact follows_ok rfl
    | some value =>
      simp only [noteNullable, Directive.ofNullable, Bool.not_true, Bool.false_eq_true, if_false]
      cases Nullability.ofName? value.unquote.lower with
      | none => exact follows_error _
      | some choice => exact follows_ok rfl

theorem follows_warningLevel (argument level : Text) :
    Follows base notes (notes.noteWarningLevel argument level)
      (Directive.ofWarningLevel argument level) := by
  unfold noteWarningLevel Directive.ofWarningLevel
  cases level.isDigits with
  | false => exact follows_error _
  | true =>
    cases level.toWhole with
    | error fault => exact follows_error _
    | ok n => exact follows_ok rfl

theorem follows_warnAsError (switch : Switch) :
    Follows base notes (notes.noteWarnAsError switch) (Directive.ofWarnAsError switch) := by
  obtain ⟨name, enabled, value?⟩ := switch
  simp only [noteWarnAsError, Directive.ofWarnAsError]
  cases (value?.getD []).isEmpty with
  | true => exact follows_ok rfl
  | false =>
    refine follows_map _ (fun ids => ?_)
    rw [addWarnAsError_eq]
    rfl

theorem follows_toggle (argument name : Text) (enabled : Bool) (value? : Option Text)
    (h : OptionName.ofText? name = (toggles.lookup name).map .toggle) :
    Follows base notes (.ok (notes.noteToggle argument ⟨name, enabled, value?⟩))
      (Directive.ofSwitch base argument ⟨name, enabled, value?⟩) := by
  simp only [noteToggle, Directive.ofSwitch, h]
  cases toggles.lookup name with
  | none => exact follows_ok rfl
  | some t =>
    cases value? with
    | some value => exact follows_ok rfl
    | none =>
      refine follows_ok ?_
      cases t <;> rfl

/-! ## The names of options -/

theorem lookup_append_of_ne {α : Type} (name : Text) (first second : List (Text × α))
    (h : ∀ pair ∈ first, name ≠ pair.1) :
    (first ++ second).lookup name = second.lookup name := by
  induction first with
  | nil => rfl
  | cons pair rest ih =>
    obtain ⟨n, a⟩ := pair
    rw [List.forall_mem_cons] at h
    rw [List.cons_append, List.lookup_cons, beq_eq_false_iff_ne.2 h.1]
    exact ih h.2

theorem lookup_map {α β : Type} (f : α → β) (name : Text) (table : List (Text × α)) :
    (table.map (fun pair => (pair.1, f pair.2))).lookup name = (table.lookup name).map f := by
  induction table with
  | nil => rfl
  | cons pair rest ih =>
    rw [List.map_cons, List.lookup_cons, List.lookup_cons, ih]
    cases name == pair.1 <;> rfl

/-- A name that no option before the toggles has is looked up among the toggles. -/
theorem ofText?_eq_toggle (name : Text) (h : ∀ pair ∈ OptionName.names.take 17, name ≠ pair.1) :
    OptionName.ofText? name = (toggles.lookup name).map .toggle := by
  rw [← lookup_map]
  exact lookup_append_of_ne name (OptionName.names.take 17) _ h

/-- **What a switch adds to the notes is what its directive does to the arguments**, and both fail
    alike. -/
theorem follows_switch (argument : Text) (switch : Switch) :
    Follows base notes (notes.noteSwitch base argument switch)
      (Directive.ofSwitch base argument switch) := by
  obtain ⟨name, enabled, value?⟩ := switch
  simp only [noteSwitch]
  by_cases hout : name = "out"
  · rw [if_pos hout, hout]
    exact follows_map _ (fun _ => rfl)
  rw [if_neg hout]
  by_cases htarget : name = "target" ∨ name = "t"
  · rw [if_pos htarget]
    rcases htarget with rfl | rfl <;> exact follows_bind _ (follows_target argument)
  rw [if_neg htarget]
  by_cases hreference : name = "reference" ∨ name = "r"
  · rw [if_pos hreference]
    simp only [foldl_addReference]
    rcases hreference with rfl | rfl <;> exact follows_map _ (fun _ => rfl)
  rw [if_neg hreference]
  by_cases hdefine : name = "define" ∨ name = "d"
  · rw [if_pos hdefine]
    simp only [foldl_addItem]
    rcases hdefine with rfl | rfl <;> exact follows_map _ (fun _ => rfl)
  rw [if_neg hdefine]
  by_cases hversion : name = "langversion"
  · rw [if_pos hversion, hversion]
    exact follows_map _ (fun _ => rfl)
  rw [if_neg hversion]
  by_cases hnullable : name = "nullable"
  · rw [if_pos hnullable, hnullable]
    exact follows_nullable argument _
  rw [if_neg hnullable]
  by_cases hwarn : name = "warn" ∨ name = "w"
  · rw [if_pos hwarn]
    rcases hwarn with rfl | rfl <;> exact follows_bind _ (follows_warningLevel argument)
  rw [if_neg hwarn]
  by_cases hwarnAsError : name = "warnaserror"
  · rw [if_pos hwarnAsError, hwarnAsError]
    exact follows_warnAsError _
  rw [if_neg hwarnAsError]
  by_cases hnoWarn : name = "nowarn"
  · rw [if_pos hnoWarn, hnoWarn]
    exact follows_bind _ (fun _ => follows_map _ (fun _ => rfl))
  rw [if_neg hnoWarn]
  by_cases hplatform : name = "platform"
  · rw [if_pos hplatform, hplatform]
    exact follows_map _ (fun _ => rfl)
  rw [if_neg hplatform]
  by_cases hmain : name = "main" ∨ name = "m"
  · rw [if_pos hmain]
    rcases hmain with rfl | rfl <;> exact follows_map _ (fun _ => rfl)
  rw [if_neg hmain]
  by_cases hdoc : name = "doc"
  · rw [if_pos hdoc, hdoc]
    exact follows_ok rfl
  rw [if_neg hdoc]
  -- no option is left but the toggles
  refine follows_toggle argument name enabled value? (ofText?_eq_toggle name ?_)
  rw [not_or] at htarget hreference hdefine hwarn hmain
  simp only [OptionName.names, List.take_succ_cons, List.take_zero, List.forall_mem_cons]
  exact ⟨hout, htarget.1, htarget.2, hreference.1, hreference.2, hdefine.1, hdefine.2, hversion,
    hnullable, hwarn.1, hwarn.2, hwarnAsError, hnoWarn, hplatform, hmain.1, hmain.2, hdoc, by simp⟩

/-- What an argument adds to the notes is what its directive does to the arguments. -/
theorem follows_note (argument : Text) :
    Follows base notes (notes.note base argument) (Directive.ofArgument base argument) := by
  unfold note Directive.ofArgument
  by_cases hresponse : argument.head? = some (char '@')
  · rw [if_pos hresponse, if_pos hresponse]
    exact follows_error _
  rw [if_neg hresponse, if_neg hresponse]
  cases Switch.split? argument with
  | none => exact follows_ok rfl
  | some parts =>
    obtain ⟨name, value?⟩ := parts
    cases name with
    | nil => exact follows_error _
    | cons c rest => exact follows_switch argument _

end

/-- **What the notes on a list of arguments tell is what carrying out its directives tells.** -/
theorem finish_foldlM (base : Text) (notes : Notes) (args : List Text) :
    (args.foldlM (note base) notes).map (finish base)
      = (args.mapM (Directive.ofArgument base)).map
          (·.foldl CompilerArguments.apply (notes.finish base)) := by
  induction args generalizing notes with
  | nil => rfl
  | cons argument rest ih =>
    have hnote : Follows base notes (notes.note base argument)
        (Directive.ofArgument base argument) := follows_note argument
    rw [List.foldlM_cons, List.mapM_cons]
    unfold Follows at hnote
    cases hfirst : Directive.ofArgument base argument with
    | error fault =>
      rw [hfirst] at hnote
      rw [map_eq_error_iff.1 hnote]
      rfl
    | ok d =>
      rw [hfirst] at hnote
      obtain ⟨noted, hnoted, hfinish⟩ := exists_of_map_eq_ok hnote
      have hrest := ih noted
      rw [hfinish] at hrest
      rw [hnoted]
      show (rest.foldlM (note base) noted).map (finish base) = _
      rw [hrest]
      cases rest.mapM (Directive.ofArgument base) <;> rfl

end Notes

namespace CompilerArguments

/-- **One pass over the arguments gives what their directives give.** -/
theorem interpretInTurn_eq (cwd directory : Text) (args : List Text) :
    interpretInTurn cwd directory args = interpret cwd directory args :=
  Notes.finish_foldlM (baseOf cwd directory) Notes.empty args

/-! ## The first fault -/

/-- A single argument is interpreted as its directive is carried out. -/
theorem interpret_singleton (cwd directory argument : Text) :
    interpret cwd directory [argument]
      = (Directive.ofArgument (baseOf cwd directory) argument).map
          (default (baseOf cwd directory)).apply := by
  rw [interpret, interpretFrom, List.mapM_cons]
  cases Directive.ofArgument (baseOf cwd directory) argument <;> rfl

theorem interpret_eq_error_iff (cwd directory : Text) (args : List Text) (fault : ArgumentFault) :
    interpret cwd directory args = .error fault
      ↔ ∃ before argument after, args = before ++ argument :: after
        ∧ (∀ earlier ∈ before, ∃ a, interpret cwd directory [earlier] = .ok a)
        ∧ interpret cwd directory [argument] = .error fault := by
  simp only [interpret_singleton, exists_map_eq_ok_iff, map_eq_error_iff]
  rw [interpret, interpretFrom, map_eq_error_iff, mapM_eq_error_iff]

/-- **Arguments that cannot be interpreted fail as the first of them that cannot be interpreted by
    itself**, whatever the arguments before it told; and there is such a one if they fail. That an
    argument is met with everything that was noted before it, and that what was left open is filled
    in at the end, makes no difference. -/
theorem interpret_first_fault (cwd directory : Text) (args : List Text) :
    (∀ given, interpretInTurn cwd directory given = interpret cwd directory given)
      ∧ ((∃ fault, interpret cwd directory args = .error fault)
        ↔ ∃ argument ∈ args, ∃ fault, interpret cwd directory [argument] = .error fault)
      ∧ ∀ fault, interpret cwd directory args = .error fault
        ↔ ∃ before argument after, args = before ++ argument :: after
          ∧ (∀ earlier ∈ before, ∃ a, interpret cwd directory [earlier] = .ok a)
          ∧ interpret cwd directory [argument] = .error fault := by
  refine ⟨interpretInTurn_eq cwd directory, ⟨?_, ?_⟩, interpret_eq_error_iff cwd directory args⟩
  · rintro ⟨fault, hfault⟩
    obtain ⟨before, argument, after, rfl, -, hargument⟩ :=
      (interpret_eq_error_iff cwd directory args fault).1 hfault
    exact ⟨argument, by simp, fault, hargument⟩
  · rintro ⟨argument, hmem, fault, hargument⟩
    -- if all were interpreted, each would be by itself
    cases hall : interpret cwd directory args with
    | error first => exact ⟨first, rfl⟩
    | ok a =>
      obtain ⟨directives, hdirectives, -⟩ := exists_of_map_eq_ok hall
      obtain ⟨d, hd⟩ := exists_of_mapM_eq_ok hdirectives argument hmem
      rw [interpret_singleton, hd] at hargument
      cases hargument

/-- The second argument fails, for want of a value, and the third, which fails too, is not met. -/
example : interpret "/src" [] ["a.cs", "/r:", "@b.rsp"]
    = .error (.missingValue "/r:") := rfl

end CompilerArguments

end CompileTrace
