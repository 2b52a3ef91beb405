import CompileTrace.Proofs.Compiler.Recorded
import CompileTrace.Proofs.Workspace.Cache
import CompileTrace.Workspace.Assembly

set_option autoImplicit false

/-! # Projects of recorded command lines

A build reaches its end as long as the files that its arguments name can be read
(`build_eq_ok_of_readable`). Together with what recorded command lines tell, a project is made of
the very files that were recorded, neither more nor fewer nor in another order
(`create_recorded`). -/

namespace CompileTrace.Assembler

/-- The record of an invocation is read by cutting its command line into tokens and interpreting
    what they stand for. -/
theorem read_record (a : Assembler) (i : Invocation) {tokens : List Token}
    {arguments : CompilerArguments} (htokens : tokenize (dropExecutable i.commandLine) = .ok tokens)
    (harguments : CompilerArguments.interpret a.disk.cwd i.projectDirectory
      (tokens.map Token.value) = .ok arguments) :
    a.read i.record = .ok ({ i with language := a.language }, arguments) := by
  have hline : i.record.commandLineText = .ok i.commandLine := rfl
  have hdirectory : i.record.projectDirectoryText = .ok i.projectDirectory := rfl
  have hfile : i.record.projectFileText = .ok i.projectFile := rfl
  simp [read, hline, hdirectory, hfile, htokens, harguments, Except.mapError, bind, Except.bind]

theorem filePath_of_document {a : Assembler} {i : Invocation} (path : Text) (d : Document)
    (h : a.document i path = .ok d) : d.filePath = path := by
  obtain ⟨text, -, rfl⟩ := exists_of_map_eq_ok h
  rfl

/-- **A build succeeds if all references can be loaded and all sources read**, and then has a
    document for each source. -/
theorem build_eq_ok_of_readable (a : Assembler) (i : Invocation) (arguments : CompilerArguments)
    (s : AssemblyState)
    (hreferences : ∀ path ∈ arguments.references, ∃ size, a.load path = .ok size)
    (hsources : ∀ path ∈ arguments.sources, ∃ text, a.disk.readSource path = .ok text) :
    ∃ project after, a.build i arguments s = (.ok (project, arguments), after)
      ∧ project.documents.map Document.filePath = arguments.sources := by
  obtain ⟨references, hall⟩ := s.cache.exists_getAll_eq_ok a.disk.cwd hreferences
  obtain ⟨documents, hdocuments⟩ := exists_mapM_eq_ok (f := a.document i) (fun path hpath => by
    obtain ⟨text, htext⟩ := hsources path hpath
    exact ⟨_, by rw [document, htext]; rfl⟩)
  have hpaths := map_of_mapM_eq_ok Document.filePath id filePath_of_document hdocuments
  rcases hget : s.cache.getAll a.disk.cwd a.load arguments.references with ⟨result, cache⟩
  rw [hget] at hall
  obtain rfl : result = .ok references := hall
  refine ⟨project i ⟨s.nextId⟩ arguments references documents, ⟨s.nextId + 1, cache⟩, ?_, ?_⟩
  · simp only [build, hget, hdocuments]
  · rw [List.map_id] at hpaths
    exact hpaths

/-- **A project is made of what was recorded**: its arguments have the recorded references and
    sources in order, and its documents are the recorded sources. -/
theorem create_recorded (a : Assembler) (s : AssemblyState) (i : Invocation) (executable : Text)
    (references sources : List Text)
    (hline : i.commandLine = recordedLine executable references sources)
    (hexecutable : ¬ [char ' ', char '/'] <:+: executable)
    (hreferences : ∀ path ∈ references, RecordableReference path)
    (hsources : ∀ path ∈ sources, RecordableSource path)
    (hloaded : ∀ path ∈ references, ∃ size, a.load path = .ok size)
    (hread : ∀ path ∈ sources, ∃ text, a.disk.readSource path = .ok text) :
    ∃ project arguments after,
      a.create i.record s = (.ok (project, arguments), after)
        ∧ arguments.references = references
        ∧ arguments.sources = sources
        ∧ arguments.unrecognized = ["/noconfig".toText]
        ∧ project.documents.map Document.filePath = sources := by
  have htokens := tokenize_recordedLine hreferences hsources executable hexecutable
  rw [← hline] at htokens
  let base := CompilerArguments.baseOf a.disk.cwd i.projectDirectory
  have harguments := CompilerArguments.interpretFrom_recorded base hreferences hsources
  rw [← value_recordedTokens hreferences hsources] at harguments
  have hrecord := a.read_record i htokens harguments
  obtain ⟨project, after, hbuild, hdocuments⟩ := a.build_eq_ok_of_readable
    { i with language := a.language } (.recorded base references sources) s hloaded hread
  refine ⟨project, .recorded base references sources, after, ?_, rfl, rfl, rfl, hdocuments⟩
  rw [create, hrecord]
  exact hbuild

/-- A library and a source whose paths have characters that are special elsewhere on a command
    line. -/
def spacedDisk : Disk :=
  ⟨(FileTree.empty.add ["lib", "a:b c.dll".toText] (.file [0x4D, 0x5A] false)).add
      ["src", "My App", "A=1;.cs".toText] (.file [0x61] false),
    "/src"⟩

/-- A blank and a colon in a reference, and a blank, an equals sign and a semicolon in a source. -/
theorem create_recorded_spaced :
    (∀ path ∈ ["/lib/a:b c.dll".toText], RecordableReference path)
      ∧ (∀ path ∈ ["/src/My App/A=1;.cs".toText], RecordableSource path)
      ∧ ∃ project arguments after,
        create ⟨spacedDisk, spacedDisk.loader, csharp⟩
            (Invocation.record ⟨csharp, "/src/App.csproj", "App",
              recordedLine "/usr/bin/csc -x" ["/lib/a:b c.dll"] ["/src/My App/A=1;.cs"]⟩) .initial
          = (.ok (project, arguments), after)
        ∧ arguments.references = ["/lib/a:b c.dll".toText]
        ∧ arguments.sources = ["/src/My App/A=1;.cs".toText]
        ∧ arguments.unrecognized = ["/noconfig".toText]
        ∧ project.documents.map Document.filePath = ["/src/My App/A=1;.cs".toText] := by
  have hreferences : ∀ path ∈ ["/lib/a:b c.dll".toText], RecordableReference path := by
    intro path hpath
    rw [List.mem_singleton.1 hpath]
    exact ⟨(Path.isNormal_iff _).2 (by decide), by decide, by decide, by decide, by decide,
      by decide, by decide⟩
  have hsources : ∀ path ∈ ["/src/My App/A=1;.cs".toText], RecordableSource path := by
    intro path hpath
    rw [List.mem_singleton.1 hpath]
    exact ⟨(Path.isNormal_iff _).2 (by decide), by decide,
      ⟨"src", "My App", ["A=1;.cs".toText], by decide, by decide⟩, by decide⟩
  have hloaded : ∀ path ∈ ["/lib/a:b c.dll".toText], ∃ size, spacedDisk.loader path = .ok size := by
    intro path hpath
    rw [List.mem_singleton.1 hpath]
    exact ⟨2, by decide⟩
  have hread : ∀ path ∈ ["/src/My App/A=1;.cs".toText],
      ∃ text, spacedDisk.readSource path = .ok text := by
    intro path hpath
    rw [List.mem_singleton.1 hpath]
    exact ⟨"a", by decide⟩
  have hexecutable : ¬ [char ' ', char '/'] <:+: ("/usr/bin/csc -x" : Text) := by
    simp [List.infix_cons_iff]
  exact ⟨hreferences, hsources, create_recorded ⟨spacedDisk, spacedDisk.loader, csharp⟩ .initial _
    "/usr/bin/csc -x" _ _ rfl hexecutable hreferences hsources hloaded hread⟩

end CompileTrace.Assembler
