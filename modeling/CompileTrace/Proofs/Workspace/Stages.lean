import CompileTrace.Proofs.Traversal
import CompileTrace.Proofs.Workspace.Alone
import CompileTrace.Proofs.Workspace.Recorded

set_option autoImplicit false

/-! # The stages of an invocation

A project is made in four stages: the command line is cut into tokens, these are interpreted, the
references are loaded, and the sources are read. What fails in several stages is told by the first
of them (`create_record_error_iff`), whatever the cache holds. -/

namespace CompileTrace

/-- How making the project of an invocation fails: in one stage, after all earlier ones have
    succeeded. References and sources are taken in order, and the first that fails is told. -/
inductive Invocation.FailsWith (a : Assembler) (i : Invocation) : AssemblyError → Prop
  | tokenizing {fault : UnclosedRegion}
    (h : tokenize (dropExecutable i.commandLine) = .error fault) :
    FailsWith a i (.commandLine fault)
  | interpreting {tokens : List Token} {fault : ArgumentFault}
    (htokens : tokenize (dropExecutable i.commandLine) = .ok tokens)
    (h : CompilerArguments.interpret a.disk.cwd i.projectDirectory (tokens.map Token.value)
      = .error fault) :
    FailsWith a i (.arguments i.projectFile fault)
  | loading {tokens : List Token} {arguments : CompilerArguments} {before after : List Text}
    {path : Text} {error : ReferenceError}
    (htokens : tokenize (dropExecutable i.commandLine) = .ok tokens)
    (harguments : CompilerArguments.interpret a.disk.cwd i.projectDirectory
      (tokens.map Token.value) = .ok arguments)
    (hsplit : arguments.references = before ++ path :: after)
    (hbefore : ∀ p ∈ before, ∃ size, a.load p = .ok size)
    (h : a.load path = .error error) :
    FailsWith a i (.reference error)
  | reading {tokens : List Token} {arguments : CompilerArguments} {before after : List Text}
    {path : Text} {error : SourceError}
    (htokens : tokenize (dropExecutable i.commandLine) = .ok tokens)
    (harguments : CompilerArguments.interpret a.disk.cwd i.projectDirectory
      (tokens.map Token.value) = .ok arguments)
    (hreferences : ∀ p ∈ arguments.references, ∃ size, a.load p = .ok size)
    (hsplit : arguments.sources = before ++ path :: after)
    (hbefore : ∀ p ∈ before, ∃ text, a.disk.readSource p = .ok text)
    (h : a.disk.readSource path = .error error) :
    FailsWith a i (.source error)

namespace Assembler

variable {a : Assembler}

/-! ## References and sources -/

/-- A faithful cache fails at the first path that cannot be loaded. -/
theorem getAll_eq_error_iff (cwd : Text) {cache : ReferenceCache} {load : Loader}
    {paths : List Text} (h : cache.Faithful load) (hpaths : ∀ path ∈ paths, Path.IsNormal path)
    (error : ReferenceError) :
    (cache.getAll cwd load paths).1 = .error error ↔
      ∃ before path after, paths = before ++ path :: after
        ∧ (∀ p ∈ before, ∃ size, load p = .ok size) ∧ load path = .error error := by
  have hall := (ReferenceCache.getAll_faithful cwd h hpaths).1
  rw [← map_eq_error_iff, hall, mapM_eq_error_iff]
  simp only [Loader.reference, exists_map_eq_ok_iff, map_eq_error_iff]

/-- The documents cannot be made if a source cannot be read; the first one is told. -/
theorem documents_eq_error_iff (i : Invocation) (sources : List Text) (error : SourceError) :
    sources.mapM (a.document i) = .error error ↔
      ∃ before path after, sources = before ++ path :: after
        ∧ (∀ p ∈ before, ∃ text, a.disk.readSource p = .ok text)
        ∧ a.disk.readSource path = .error error := by
  rw [mapM_eq_error_iff]
  simp only [document, exists_map_eq_ok_iff, map_eq_error_iff]

/-- A faithful cache loads all paths exactly if the loader does. -/
theorem exists_getAll_eq_ok_iff (cwd : Text) {cache : ReferenceCache} {load : Loader}
    {paths : List Text} (h : cache.Faithful load) (hpaths : ∀ path ∈ paths, Path.IsNormal path) :
    (∃ references, (cache.getAll cwd load paths).1 = .ok references)
      ↔ ∀ path ∈ paths, ∃ size, load path = .ok size := by
  constructor
  · rintro ⟨references, hreferences⟩
    have hall := (ReferenceCache.getAll_faithful cwd h hpaths).1
    rw [hreferences] at hall
    intro path hpath
    have hloaded := exists_of_mapM_eq_ok hall.symm path hpath
    rwa [Loader.reference, exists_map_eq_ok_iff] at hloaded
  · exact cache.exists_getAll_eq_ok cwd

/-! ## All stages -/

/-- A build fails at its references or, if these are loaded, at its documents. -/
theorem build_eq_error_iff (i : Invocation) (arguments : CompilerArguments) (s : AssemblyState)
    (e : AssemblyError) :
    (a.build i arguments s).1 = .error e ↔
      (∃ error, (s.cache.getAll a.disk.cwd a.load arguments.references).1 = .error error
          ∧ e = .reference error)
        ∨ (∃ references,
            (s.cache.getAll a.disk.cwd a.load arguments.references).1 = .ok references)
          ∧ ∃ error, arguments.sources.mapM (a.document i) = .error error ∧ e = .source error := by
  rw [build]
  rcases s.cache.getAll a.disk.cwd a.load arguments.references with ⟨error | references, cache⟩
  · simp [eq_comm]
  · cases arguments.sources.mapM (a.document i) with
    | error error => simp [eq_comm]
    | ok documents => simp

theorem read_record_of_tokenize_eq_error {i : Invocation} {fault : UnclosedRegion}
    (h : tokenize (dropExecutable i.commandLine) = .error fault) :
    a.read i.record = .error (.commandLine fault) := by
  have hline : i.record.commandLineText = .ok i.commandLine := rfl
  simp [read, hline, h, Except.mapError, bind, Except.bind]

theorem read_record_of_interpret_eq_error {i : Invocation} {tokens : List Token}
    {fault : ArgumentFault} (htokens : tokenize (dropExecutable i.commandLine) = .ok tokens)
    (h : CompilerArguments.interpret a.disk.cwd i.projectDirectory (tokens.map Token.value)
      = .error fault) :
    a.read i.record = .error (.arguments i.projectFile fault) := by
  have hline : i.record.commandLineText = .ok i.commandLine := rfl
  have hdirectory : i.record.projectDirectoryText = .ok i.projectDirectory := rfl
  have hshown : i.record.projectFile.shown = i.projectFile := rfl
  simp [read, hline, hdirectory, hshown, htokens, h, Except.mapError, bind, Except.bind]

/-- **An invocation fails in the first stage that does**, whatever libraries a faithful cache
    holds. -/
theorem create_record_error_iff (hcwd : Path.isAbsolute a.disk.cwd = true) (i : Invocation)
    {s : AssemblyState} (hs : s.cache.Faithful a.load) (e : AssemblyError) :
    (a.create i.record s).1 = .error e ↔ i.FailsWith a e := by
  constructor
  · intro h
    rw [create] at h
    cases htokens : tokenize (dropExecutable i.commandLine) with
    | error fault =>
      rw [read_record_of_tokenize_eq_error htokens] at h
      cases h
      exact .tokenizing htokens
    | ok tokens =>
      cases harguments : CompilerArguments.interpret a.disk.cwd i.projectDirectory
          (tokens.map Token.value) with
      | error fault =>
        rw [read_record_of_interpret_eq_error htokens harguments] at h
        cases h
        exact .interpreting htokens harguments
      | ok arguments =>
        have hread := a.read_record i htokens harguments
        have hnormal := isNormal_of_read hcwd hread
        rw [hread] at h
        rcases (build_eq_error_iff _ _ s e).1 h with
          ⟨error, hall, rfl⟩ | ⟨hreferences, error, hdocuments, rfl⟩
        · obtain ⟨_, _, _, hsplit, hbefore, hload⟩ := (getAll_eq_error_iff _ hs hnormal _).1 hall
          exact .loading htokens harguments hsplit hbefore hload
        · obtain ⟨_, _, _, hsplit, hbefore, hsource⟩ := (documents_eq_error_iff _ _ _).1 hdocuments
          have hloaded := (exists_getAll_eq_ok_iff _ hs hnormal).1 hreferences
          exact .reading htokens harguments hloaded hsplit hbefore hsource
  · intro h
    rw [create]
    cases h with
    | tokenizing hfault => rw [read_record_of_tokenize_eq_error hfault]
    | interpreting htokens hfault => rw [read_record_of_interpret_eq_error htokens hfault]
    | loading htokens harguments hsplit hbefore hload =>
      have hread := a.read_record i htokens harguments
      have hnormal := isNormal_of_read hcwd hread
      rw [hread]
      refine (build_eq_error_iff _ _ s _).2 (Or.inl ⟨_, ?_, rfl⟩)
      exact (getAll_eq_error_iff _ hs hnormal _).2 ⟨_, _, _, hsplit, hbefore, hload⟩
    | reading htokens harguments hreferences hsplit hbefore hsource =>
      have hread := a.read_record i htokens harguments
      have hnormal := isNormal_of_read hcwd hread
      rw [hread]
      refine (build_eq_error_iff _ _ s _).2 (Or.inr ⟨?_, _, ?_, rfl⟩)
      · exact (exists_getAll_eq_ok_iff _ hs hnormal).2 hreferences
      · exact (documents_eq_error_iff _ _ _).2 ⟨_, _, _, hsplit, hbefore, hsource⟩

end Assembler

end CompileTrace
