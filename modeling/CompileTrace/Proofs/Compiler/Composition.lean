import CompileTrace.Proofs.Compiler.Effects
import CompileTrace.Proofs.Traversal

set_option autoImplicit false

/-! # Arguments in two parts

What two lists of arguments tell together is made of what each of them tells (`interpret_append`):
what grows in the first goes on growing in the second, what is set has the value of the second list
if one of its arguments sets it and else that of the first, and the table of diagnostics of the
first goes through the changes of the second. Which setting an argument is for, and which change, is
told by the argument alone. -/

namespace CompileTrace

/-! ## What an argument is for -/

/-- The switch that an argument is, if it is one. -/
def Switch.ofArgument? (argument : Text) : Option Switch :=
  (Switch.split? argument).map (fun parts => Switch.ofName parts.1 parts.2)

/-- The setting that a switch is for. Warnings are all meant as errors, or none of them, where no
    list is given, and a toggle takes no value. -/
def Setting.ofSwitch? (switch : Switch) : Option Setting :=
  match OptionName.ofText? switch.name with
  | some .out => some .output
  | some .target => some .outputKind
  | some .languageVersion => some .languageVersion
  | some .nullable => some .nullability
  | some .warningLevel => some .warningLevel
  | some .warnAsError =>
    if (switch.value?.getD []).isEmpty then some .warningsAsErrors else none
  | some .platform => some .platform
  | some .main => some .mainType
  | some (.toggle t) => if switch.value?.isNone then some (.toggle t) else none
  | _ => none

/-- The setting that an argument is for. -/
def Setting.ofArgument? (argument : Text) : Option Setting :=
  (Switch.ofArgument? argument).bind Setting.ofSwitch?

/-- Some of the arguments set a value. -/
def Setting.SetBy (args : List Text) (s : Setting) : Prop :=
  ∃ argument ∈ args, Setting.ofArgument? argument = some s

instance (args : List Text) (s : Setting) : Decidable (s.SetBy args) :=
  List.decidableBEx _ args

/-- The change to the table of diagnostics that a switch asks for, with the diagnostics that it
    lists. -/
def ReportingChange.ofSwitch? (switch : Switch) : Option (ReportingChange × List Text) :=
  let value := switch.value?.getD []
  match OptionName.ofText? switch.name with
  | some .noWarn => (Directive.diagnosticIds value.unquote).toOption.map (.suppress, ·)
  | some .warnAsError =>
    if value.isEmpty then none
    else
      (Directive.diagnosticIds value).toOption.map (if switch.enabled then .promote else .relax, ·)
  | _ => none

/-- The change to the table of diagnostics that an argument asks for. -/
def ReportingChange.ofArgument? (argument : Text) : Option (ReportingChange × List Text) :=
  (Switch.ofArgument? argument).bind ReportingChange.ofSwitch?

namespace Directive

/-- A directive is for what the switch is for. -/
def Serves (switch : Switch) (d : Directive) : Prop :=
  d.setting? = Setting.ofSwitch? switch ∧ d.change? = ReportingChange.ofSwitch? switch

theorem eq_of_required {argument value : Text} {value? : Option Text}
    (h : required argument value? = .ok value) : value = (value?.getD []).unquote := by
  unfold required at h
  simp only at h
  split at h
  · cases h
  · cases h
    rfl

theorem ofTarget_serves (argument value : Text) :
    Gives (ofTarget argument value)
      (fun d => d.setting? = some .outputKind ∧ d.change? = none) := by
  unfold ofTarget
  split
  · exact gives_ok ⟨rfl, rfl⟩
  · exact gives_error _

theorem ofNullable_serves (argument : Text) (switch : Switch) :
    Gives (ofNullable argument switch)
      (fun d => d.setting? = some .nullability ∧ d.change? = none) := by
  unfold ofNullable
  split
  · exact gives_ok ⟨rfl, rfl⟩
  · split
    · exact gives_ok ⟨rfl, rfl⟩
    · split
      · exact gives_ok ⟨rfl, rfl⟩
      · exact gives_error _

theorem ofWarningLevel_serves (argument level : Text) :
    Gives (ofWarningLevel argument level)
      (fun d => d.setting? = some .warningLevel ∧ d.change? = none) := by
  unfold ofWarningLevel
  split
  · cases level.toWhole with
    | error fault => exact gives_error _
    | ok n => exact gives_ok ⟨rfl, rfl⟩
  · exact gives_error _

/-- **What a switch tells is for the setting that the switch is for, or the change**, whatever its
    value. -/
theorem ofSwitch_serves (base argument : Text) (switch : Switch) :
    Gives (ofSwitch base argument switch) (Serves switch) := by
  obtain ⟨name, enabled, value?⟩ := switch
  unfold ofSwitch Serves Setting.ofSwitch? ReportingChange.ofSwitch?
  simp only
  cases OptionName.ofText? name with
  | none => exact gives_ok ⟨rfl, rfl⟩
  | some option =>
    cases option with
    | target => exact gives_bind _ (fun value _ => ofTarget_serves argument value)
    | nullable => exact ofNullable_serves argument _
    | warningLevel => exact gives_bind _ (fun value _ => ofWarningLevel_serves argument value)
    | warnAsError =>
      simp only [ofWarnAsError]
      cases (value?.getD []).isEmpty with
      | true => exact gives_ok ⟨rfl, rfl⟩
      | false =>
        refine gives_map _ (fun ids hids => ⟨rfl, ?_⟩)
        rw [hids]
        rfl
    | noWarn =>
      refine gives_bind _ (fun value hvalue => gives_map _ (fun ids hids => ⟨rfl, ?_⟩))
      rw [eq_of_required hvalue] at hids
      rw [hids]
      rfl
    | documentation => exact gives_ok ⟨rfl, rfl⟩
    | toggle t =>
      cases value? with
      | none => exact gives_ok ⟨rfl, rfl⟩
      | some value => exact gives_ok ⟨rfl, rfl⟩
    | _ => exact gives_map _ (fun _ _ => ⟨rfl, rfl⟩)

/-- What holds of a source, and of what each switch tells, holds of what an argument tells. -/
theorem ofArgument_gives {base argument : Text} {P : Option Switch → Directive → Prop}
    (hsource : ∀ path, P none (.source path))
    (hswitch : ∀ switch, Gives (ofSwitch base argument switch) (P (some switch))) :
    Gives (ofArgument base argument) (P (Switch.ofArgument? argument)) := by
  unfold ofArgument Switch.ofArgument?
  split
  · exact gives_error _
  · cases Switch.split? argument with
    | none => exact gives_ok (hsource _)
    | some parts =>
      obtain ⟨name, value?⟩ := parts
      simp only
      split
      · exact gives_error _
      · exact hswitch _

theorem ofArgument_serves (base argument : Text) :
    Gives (ofArgument base argument) (fun d => d.setting? = Setting.ofArgument? argument
      ∧ d.change? = ReportingChange.ofArgument? argument) :=
  ofArgument_gives (P := fun switch? d => d.setting? = switch?.bind Setting.ofSwitch?
    ∧ d.change? = switch?.bind ReportingChange.ofSwitch?)
    (fun _ => ⟨rfl, rfl⟩) (ofSwitch_serves base argument)

variable {base : Text} {args : List Text} {directives : List Directive}

/-- The directives of some arguments are for a setting if one of the arguments sets it. -/
theorem exists_setting_iff (h : args.mapM (ofArgument base) = .ok directives) (s : Setting) :
    (∃ d ∈ directives, d.setting? = some s) ↔ s.SetBy args := by
  have hsettings : directives.map setting? = args.map Setting.ofArgument? :=
    map_of_mapM_eq_ok _ _ (fun argument d hd => (ofArgument_serves base argument d hd).1) h
  calc (∃ d ∈ directives, d.setting? = some s)
    _ ↔ some s ∈ directives.map setting? := List.mem_map.symm
    _ ↔ some s ∈ args.map Setting.ofArgument? := by rw [hsettings]
    _ ↔ s.SetBy args := List.mem_map

/-- The directives of some arguments are for the changes that the arguments ask for. -/
theorem filterMap_change? (h : args.mapM (ofArgument base) = .ok directives) :
    directives.filterMap change? = args.filterMap ReportingChange.ofArgument? := by
  have hchanges : directives.map change? = args.map ReportingChange.ofArgument? :=
    map_of_mapM_eq_ok _ _ (fun argument d hd => (ofArgument_serves base argument d hd).2) h
  have hid := congrArg (List.filterMap id) hchanges
  rwa [List.filterMap_map, List.filterMap_map] at hid

end Directive

/-! ## Symbols -/

/-- Symbols that are added to some and then put after others, without those that are there already,
    are added to them all. -/
theorem foldl_addSymbol_append (first symbols names : List Text) :
    names.foldl addSymbol (first ++ symbols.filter (· ∉ first))
      = first ++ (names.foldl addSymbol symbols).filter (· ∉ first) := by
  induction names generalizing symbols with
  | nil => rfl
  | cons name rest ih =>
    rw [List.foldl_cons, List.foldl_cons, ← ih]
    congr 1
    unfold addSymbol
    by_cases hfirst : name ∈ first
    · by_cases hmem : name ∈ symbols
      · simp [hfirst, hmem]
      · simp [hfirst, hmem]
    · by_cases hmem : name ∈ symbols
      · simp [hfirst, hmem]
      · simp [hfirst, hmem]

namespace CompilerArguments

/-! ## Two lists of arguments -/

/-- What `first` arguments tell and what `later` ones tell by themselves make up what they tell
    together. -/
structure Composed (later : List Text) (first second whole : CompilerArguments) : Prop where
  sources : whole.sources = first.sources ++ second.sources
  references : whole.references = first.references ++ second.references
  unrecognized : whole.unrecognized = first.unrecognized ++ second.unrecognized
  symbols : whole.parse.symbols
    = first.parse.symbols ++ second.parse.symbols.filter (· ∉ first.parse.symbols)
  documentation : whole.parse.documentation = .diagnose
    ↔ first.parse.documentation = .diagnose ∨ second.parse.documentation = .diagnose
  settings : ∀ s : Setting,
    s.value whole = if s.SetBy later then s.value second else s.value first
  reporting : whole.compilation.reporting
    = changeAll first.compilation.reporting (later.filterMap ReportingChange.ofArgument?)
  baseDirectory : whole.baseDirectory = first.baseDirectory

/-- Carrying on after some arguments composes with starting anew. -/
theorem composed_foldl {base : Text} {later : List Text} {directives : List Directive}
    (h : later.mapM (Directive.ofArgument base) = .ok directives) (first : CompilerArguments) :
    Composed later first (directives.foldl apply (default base))
      (directives.foldl apply first) where
  sources := by rw [sources_foldl, sources_foldl]; rfl
  references := by rw [references_foldl, references_foldl]; rfl
  unrecognized := by rw [unrecognized_foldl, unrecognized_foldl]; rfl
  symbols := by
    rw [symbols_foldl, symbols_foldl]
    have happend := foldl_addSymbol_append first.parse.symbols []
      (directives.flatMap Directive.newSymbols)
    rw [List.filter_nil, List.append_nil] at happend
    exact happend
  documentation := by
    have hdefault : ¬ (default base).parse.documentation = .diagnose := by
      intro h
      cases h
    rw [documentation_foldl, documentation_foldl, or_iff_right hdefault]
  settings := by
    intro s
    have hset := Directive.exists_setting_iff h s
    split
    · next hlater => exact value_foldl_of_set (hset.2 hlater) _ _
    · next hlater =>
      refine value_foldl_of_kept (fun d hd hs => ?_) _
      exact hlater (hset.1 ⟨d, hd, hs⟩)
  reporting := by rw [reporting_foldl, Directive.filterMap_change? h]
  baseDirectory := baseDirectory_foldl directives first

/-- **Arguments that can be interpreted in two parts can be interpreted together, and tell what the
    parts tell, one after the other**: what is listed is that of both, a setting is that of the
    second part if one of its arguments sets it, and the diagnostics change on from those of the
    first. -/
theorem interpret_append (cwd directory : Text) (args later : List Text)
    (first second : CompilerArguments) (hfirst : interpret cwd directory args = .ok first)
    (hsecond : interpret cwd directory later = .ok second) :
    ∃ whole, interpret cwd directory (args ++ later) = .ok whole
      ∧ Composed later first second whole := by
  obtain ⟨before, hbefore, rfl⟩ := exists_of_map_eq_ok hfirst
  obtain ⟨after, hafter, rfl⟩ := exists_of_map_eq_ok hsecond
  refine ⟨_, ?_, composed_foldl hafter _⟩
  rw [interpret, interpretFrom, mapM_append_eq_ok hbefore hafter, Except.map, List.foldl_append]

/-- A symbol in both parts, a toggle that the second part turns back, and a diagnostic that the
    first part makes an error and the second relaxes. -/
theorem interpret_append_relaxed :
    let args : List Text := ["a.cs", "/d:A;B", "/o+", "/warnaserror:12"]
    let later : List Text := ["/d:B;C", "/o-", "/warnaserror-:CS0012", "/analyzer:x"]
    ∃ first second, interpret "/src" [] args = .ok first ∧ interpret "/src" [] later = .ok second
      ∧ ∃ whole, interpret "/src" [] (args ++ later) = .ok whole
        ∧ Composed later first second whole :=
  ⟨_, _, rfl, rfl, interpret_append "/src" [] _ _ _ _ rfl rfl⟩

end CompilerArguments

end CompileTrace
