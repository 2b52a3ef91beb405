import CompileTrace.Compiler.Arguments
import Mathlib.Data.List.Induction

set_option autoImplicit false

/-! # What directives leave behind

A directive changes one thing. Some things only grow: sources, references and what is not recognized
at their ends, the symbols by those that were not there. The table of diagnostics goes through the
changes one after the other. All else is set: a `Setting` has the value that the last directive for
it gives, and keeps what it had if no directive is for it (`value_foldl_of_set`,
`value_foldl_of_kept`). So what a run of directives leaves is told for each thing by itself. -/

namespace CompileTrace

/-! ## Settings -/

/-- A value that is set, so that the last one given stands. -/
inductive Setting
  | output
  | outputKind
  | languageVersion
  | nullability
  | warningLevel
  | warningsAsErrors
  | platform
  | mainType
  | toggle (t : Toggle)
  deriving DecidableEq, Repr

namespace Setting

/-- What a setting gives: for the output the name and the directory of the file, and the name of the
    module. -/
def Value : Setting → Type
  | output => Option Text × Option Text × Option Text
  | outputKind => OutputKind
  | languageVersion => Text
  | nullability => Nullability
  | warningLevel => Nat
  | warningsAsErrors => Bool
  | platform => Text
  | mainType => Option Text
  | toggle .optimize => Optimization
  | toggle .unsafeCode => Bool
  | toggle .checked => Bool
  | toggle .deterministic => Bool

/-- The value of a setting. -/
def value (a : CompilerArguments) : (s : Setting) → s.Value
  | output => (a.outputName?, a.outputDirectory?, a.compilation.moduleName?)
  | outputKind => a.compilation.outputKind
  | languageVersion => a.parse.languageVersion
  | nullability => a.compilation.nullability
  | warningLevel => a.compilation.warningLevel
  | warningsAsErrors => a.compilation.warningsAsErrors
  | platform => a.compilation.platform
  | mainType => a.compilation.mainType?
  | toggle .optimize => a.compilation.optimization
  | toggle .unsafeCode => a.compilation.allowUnsafe
  | toggle .checked => a.compilation.checkOverflow
  | toggle .deterministic => a.compilation.deterministic

end Setting

/-! ## What a directive is for -/

namespace Directive

/-- The setting that a directive is for. -/
def setting? : Directive → Option Setting
  | output _ => some .output
  | outputKind _ => some .outputKind
  | languageVersion _ => some .languageVersion
  | nullability _ => some .nullability
  | warningLevel _ => some .warningLevel
  | warningsAsErrors _ => some .warningsAsErrors
  | platform _ => some .platform
  | mainType _ => some .mainType
  | toggle t _ => some (.toggle t)
  | _ => none

/-- The change to the table of diagnostics that a directive is for. -/
def change? : Directive → Option (ReportingChange × List Text)
  | reporting change ids => some (change, ids)
  | _ => none

/-- The sources that a directive adds, one or none. -/
def newSources : Directive → List Text
  | source path => [path]
  | _ => []

/-- The references that a directive adds. -/
def newReferences : Directive → List Text
  | references paths => paths
  | _ => []

/-- The arguments that a directive leaves unrecognized, its own or none. -/
def newUnrecognized : Directive → List Text
  | unrecognized argument => [argument]
  | _ => []

/-- The symbols that a directive names. -/
def newSymbols : Directive → List Text
  | symbols names => names
  | _ => []

end Directive

/-- The table of diagnostics after some changes, one after the other. -/
def changeAll (table : Table Reporting) (changes : List (ReportingChange × List Text)) :
    Table Reporting :=
  changes.foldl (fun t change => change.2.foldl (changeReporting change.1) t) table

namespace CompilerArguments

/-! ## What a run of directives leaves -/

/-- What every directive adds to at its end, a run of them adds to in order. -/
theorem foldl_apply_append (read : CompilerArguments → List Text) (added : Directive → List Text)
    (step : ∀ a d, read (apply a d) = read a ++ added d) (directives : List Directive)
    (a : CompilerArguments) :
    read (directives.foldl apply a) = read a ++ directives.flatMap added := by
  induction directives generalizing a with
  | nil => simp
  | cons d rest ih => rw [List.foldl_cons, ih, step, List.flatMap_cons, List.append_assoc]

theorem sources_foldl (directives : List Directive) (a : CompilerArguments) :
    (directives.foldl apply a).sources
      = a.sources ++ directives.flatMap Directive.newSources := by
  refine foldl_apply_append (·.sources) _ (fun b d => ?_) directives a
  cases d <;> simp [apply, mapCompilation, mapParse, Directive.newSources]

theorem references_foldl (directives : List Directive) (a : CompilerArguments) :
    (directives.foldl apply a).references
      = a.references ++ directives.flatMap Directive.newReferences := by
  refine foldl_apply_append (·.references) _ (fun b d => ?_) directives a
  cases d <;> simp [apply, mapCompilation, mapParse, Directive.newReferences]

theorem unrecognized_foldl (directives : List Directive) (a : CompilerArguments) :
    (directives.foldl apply a).unrecognized
      = a.unrecognized ++ directives.flatMap Directive.newUnrecognized := by
  refine foldl_apply_append (·.unrecognized) _ (fun b d => ?_) directives a
  cases d <;> simp [apply, mapCompilation, mapParse, Directive.newUnrecognized]

theorem symbols_foldl (directives : List Directive) (a : CompilerArguments) :
    (directives.foldl apply a).parse.symbols
      = (directives.flatMap Directive.newSymbols).foldl addSymbol a.parse.symbols := by
  induction directives generalizing a with
  | nil => rfl
  | cons d rest ih =>
    rw [List.foldl_cons, ih, List.flatMap_cons, List.foldl_append]
    cases d <;> rfl

theorem reporting_foldl (directives : List Directive) (a : CompilerArguments) :
    (directives.foldl apply a).compilation.reporting
      = changeAll a.compilation.reporting (directives.filterMap Directive.change?) := by
  induction directives generalizing a with
  | nil => rfl
  | cons d rest ih =>
    rw [List.foldl_cons, ih]
    cases d with
    | toggle t enabled => cases t <;> rfl
    | _ => rfl

theorem documentation_foldl (directives : List Directive) (a : CompilerArguments) :
    (directives.foldl apply a).parse.documentation = .diagnose
      ↔ a.parse.documentation = .diagnose ∨ .documentation ∈ directives := by
  induction directives generalizing a with
  | nil => simp
  | cons d rest ih =>
    rw [List.foldl_cons, ih, List.mem_cons]
    cases d <;> simp [apply, mapCompilation, mapParse]

theorem baseDirectory_foldl (directives : List Directive) (a : CompilerArguments) :
    (directives.foldl apply a).baseDirectory = a.baseDirectory := by
  induction directives generalizing a with
  | nil => rfl
  | cons d rest ih =>
    rw [List.foldl_cons, ih]
    cases d <;> rfl

/-! ## What a run of directives sets -/

/-- A directive sets the value of its setting whatever it was before. -/
theorem value_apply_of_set {s : Setting} {d : Directive} (h : d.setting? = some s)
    (a b : CompilerArguments) : s.value (a.apply d) = s.value (b.apply d) := by
  cases d with
  | toggle t enabled => cases t <;> cases h <;> rfl
  | _ => cases h <;> rfl

/-- A toggle keeps the values of all settings but its own. -/
theorem value_toggle_of_kept {s : Setting} {t : Toggle} (enabled : Bool) (h : s ≠ .toggle t)
    (a : CompilerArguments) : s.value (a.apply (.toggle t enabled)) = s.value a := by
  cases s with
  | toggle other =>
    have hother : other ≠ t := fun hsame => h (congrArg Setting.toggle hsame)
    cases t <;> cases other <;> first | rfl | exact absurd rfl hother
  | _ => cases t <;> rfl

/-- A directive keeps the values of all settings that it is not for. -/
theorem value_apply_of_kept {s : Setting} {d : Directive} (h : d.setting? ≠ some s)
    (a : CompilerArguments) : s.value (a.apply d) = s.value a := by
  cases d with
  | toggle t enabled => exact value_toggle_of_kept enabled (fun hs => h (congrArg some hs.symm)) a
  | _ =>
    cases s with
    | toggle t => cases t <;> rfl
    | _ => first | rfl | exact absurd rfl h

/-- **A setting that some directive of a run is for has the value of the last one for it**, whatever
    it was before. -/
theorem value_foldl_of_set {s : Setting} {directives : List Directive}
    (h : ∃ d ∈ directives, d.setting? = some s) (a b : CompilerArguments) :
    s.value (directives.foldl apply a) = s.value (directives.foldl apply b) := by
  -- from the end, where the directive that decides stands
  induction directives using List.reverseRecOn with
  | nil => simp at h
  | append_singleton init last ih =>
    rw [List.foldl_append, List.foldl_append]
    by_cases hlast : last.setting? = some s
    · exact value_apply_of_set hlast _ _
    · obtain ⟨d, hd, hset⟩ := h
      rcases List.mem_append.1 hd with hd | hd
      · show s.value ((init.foldl apply a).apply last) = s.value ((init.foldl apply b).apply last)
        rw [value_apply_of_kept hlast, value_apply_of_kept hlast, ih ⟨d, hd, hset⟩]
      · rw [List.mem_singleton.1 hd] at hset
        exact absurd hset hlast

/-- **A setting that no directive of a run is for keeps its value.** -/
theorem value_foldl_of_kept {s : Setting} {directives : List Directive}
    (h : ∀ d ∈ directives, d.setting? ≠ some s) (a : CompilerArguments) :
    s.value (directives.foldl apply a) = s.value a := by
  induction directives generalizing a with
  | nil => rfl
  | cons d rest ih =>
    rw [List.forall_mem_cons] at h
    rw [List.foldl_cons, ih h.2, value_apply_of_kept h.1]

end CompilerArguments

end CompileTrace
