import CompileTrace.Compiler.Arguments
import CompileTrace.Proofs.Path.Parts
import CompileTrace.Proofs.Traversal

set_option autoImplicit false

/-! # The paths that arguments name

Every path that an argument names is seen from the base directory (`ofArgument_resolved`), so that
all files of a compilation are at paths in normal form (`isResolved_interpret`), in whatever
spelling and from whatever directory they were given: its sources, its references and its output,
which is told by a directory and a file name (`HasOutput.outputPath?_eq`). -/

namespace CompileTrace

namespace Directive

/-- The paths that a directive names. -/
def paths : Directive → List Text
  | source path => [path]
  | output path => [path]
  | references paths => paths
  | _ => []

/-- Whether a result, if there is one, names only paths that are seen from a directory. -/
def Resolved (base : Text) (result : Except ArgumentFault Directive) : Prop :=
  ∀ d, result = .ok d → ∀ path ∈ d.paths, ∃ given, path = Path.resolve base given

variable {base : Text}

theorem resolved_ok {d : Directive} (h : d.paths = []) : Resolved base (.ok d) := by
  rintro _ ⟨⟩ path hpath
  rw [h] at hpath
  simp at hpath

theorem ofTarget_resolved (argument value : Text) : Resolved base (ofTarget argument value) := by
  unfold ofTarget
  split
  · exact resolved_ok rfl
  · exact gives_error _

theorem ofWarningLevel_resolved (argument level : Text) :
    Resolved base (ofWarningLevel argument level) := by
  unfold ofWarningLevel
  split
  · cases level.toWhole with
    | error fault => exact gives_error _
    | ok n => exact resolved_ok rfl
  · exact gives_error _

theorem ofNullable_resolved (argument : Text) (switch : Switch) :
    Resolved base (ofNullable argument switch) := by
  unfold ofNullable
  split
  · exact resolved_ok rfl
  · split
    · exact resolved_ok rfl
    · split
      · exact resolved_ok rfl
      · exact gives_error _

theorem ofWarnAsError_resolved (switch : Switch) : Resolved base (ofWarnAsError switch) := by
  unfold ofWarnAsError
  simp only
  split
  · exact resolved_ok rfl
  · exact gives_map _ (by simp [paths])

theorem ofSwitch_resolved (argument : Text) (switch : Switch) :
    Resolved base (ofSwitch base argument switch) := by
  unfold ofSwitch
  simp only
  -- an unknown name first, and then the options in the order of their declaration
  split
  · exact resolved_ok rfl
  · exact gives_map _ (by simp [paths])
  · exact gives_bind _ (fun value _ => ofTarget_resolved argument value)
  · refine gives_map _ (fun value _ path hpath => ?_)
    obtain ⟨given, -, rfl⟩ := List.mem_map.1 hpath
    exact ⟨given, rfl⟩
  · exact gives_map _ (by simp [paths])
  · exact gives_map _ (by simp [paths])
  · exact ofNullable_resolved argument switch
  · exact gives_bind _ (fun level _ => ofWarningLevel_resolved argument level)
  · exact ofWarnAsError_resolved switch
  · exact gives_bind _ (fun _ _ => gives_map _ (by simp [paths]))
  · exact gives_map _ (by simp [paths])
  · exact gives_map _ (by simp [paths])
  · exact resolved_ok rfl
  · split
    · exact resolved_ok rfl
    · exact resolved_ok rfl

/-- **Every path that an argument names is seen from the base directory.** -/
theorem ofArgument_resolved (base argument : Text) : Resolved base (ofArgument base argument) := by
  unfold ofArgument
  split
  · exact gives_error _
  · split
    · rintro _ ⟨⟩ path hpath
      exact ⟨_, List.mem_singleton.1 hpath⟩
    · split
      · exact gives_error _
      · exact ofSwitch_resolved argument _

end Directive

namespace CompilerArguments

/-- The files that a compilation reads: its sources and its references. -/
def inputs (a : CompilerArguments) : List Text := a.sources ++ a.references

/-- Whether the output of a compilation is the file at a path, told by its directory and its file
    name; without a path, neither is told. -/
def HasOutput (a : CompilerArguments) (path? : Option Text) : Prop :=
  a.outputDirectory? = path?.map Path.directory ∧ a.outputName? = path?.map Path.fileName

/-- Whether all files of a compilation are at paths in normal form. -/
structure IsResolved (a : CompilerArguments) : Prop where
  inputs : ∀ path ∈ a.inputs, Path.IsNormal path
  output : ∃ path?, a.HasOutput path? ∧ ∀ path ∈ path?, Path.IsNormal path

theorem isResolved_default (base : Text) : (default base).IsResolved :=
  ⟨by simp [CompilerArguments.inputs, default], none, ⟨rfl, rfl⟩, by simp⟩

/-- Carrying out a directive adds no files but those that it names. -/
theorem IsResolved.step {a : CompilerArguments} {d : Directive} (h : a.IsResolved)
    (hd : ∀ path ∈ d.paths, Path.IsNormal path) : (a.apply d).IsResolved := by
  have hinputs := h.inputs
  cases d with
  | source p =>
    refine ⟨?_, h.output⟩
    simp only [CompilerArguments.inputs, apply, Directive.paths, List.forall_mem_append] at *
    exact ⟨⟨hinputs.1, hd⟩, hinputs.2⟩
  | references ps =>
    refine ⟨?_, h.output⟩
    simp only [CompilerArguments.inputs, apply, Directive.paths, List.forall_mem_append] at *
    exact ⟨hinputs.1, hinputs.2, hd⟩
  | output p => exact ⟨hinputs, some p, ⟨rfl, rfl⟩, by simpa [Directive.paths] using hd⟩
  | _ => exact ⟨hinputs, h.output⟩

theorem IsResolved.run {directives : List Directive} {a : CompilerArguments} (h : a.IsResolved)
    (hd : ∀ d ∈ directives, ∀ path ∈ d.paths, Path.IsNormal path) :
    (directives.foldl apply a).IsResolved := by
  induction directives generalizing a with
  | nil => exact h
  | cons d rest ih =>
    rw [List.forall_mem_cons] at hd
    exact ih (h.step hd.1) hd.2

/-- The base directory is absolute if the working directory is. -/
theorem isAbsolute_baseOf (cwd directory : Text) (h : Path.isAbsolute cwd = true) :
    Path.isAbsolute (baseOf cwd directory) = true := by
  unfold baseOf
  split
  · exact h
  · exact (Path.isNormal_resolve cwd directory h).isAbsolute

/-- **All files of a compilation are at paths in normal form**, the working directory being
    absolute. -/
theorem isResolved_interpret {cwd directory : Text} {args : List Text} {a : CompilerArguments}
    (hcwd : Path.isAbsolute cwd = true) (h : interpret cwd directory args = .ok a) :
    a.IsResolved := by
  rw [interpret, interpretFrom] at h
  obtain ⟨directives, hdirectives, rfl⟩ := exists_of_map_eq_ok h
  refine (isResolved_default _).run (fun d hd path hpath => ?_)
  obtain ⟨argument, -, hargument⟩ := exists_of_mem_mapM hdirectives d hd
  obtain ⟨given, rfl⟩ := Directive.ofArgument_resolved _ argument d hargument path hpath
  exact Path.isNormal_resolve _ given (isAbsolute_baseOf cwd directory hcwd)

/-! ## The output -/

/-- The path of the output: its file name in its directory. -/
def outputPath? (a : CompilerArguments) : Option Text :=
  match a.outputDirectory?, a.outputName? with
  | some directory, some name => some (Path.join directory name)
  | _, _ => none

theorem HasOutput.outputPath?_eq {a : CompilerArguments} {path? : Option Text}
    (h : a.HasOutput path?) (hnormal : ∀ path ∈ path?, Path.IsNormal path) :
    a.outputPath? = path? := by
  cases path? with
  | none => simp [outputPath?, h.1]
  | some path => simp [outputPath?, h.1, h.2, (hnormal path rfl).join_directory_fileName]

end CompilerArguments

end CompileTrace
