import CompileTrace.Proofs.Path.Parts
import CompileTrace.Proofs.Traversal
import CompileTrace.Workspace.Assembly
import Mathlib.Data.List.Forall2

set_option autoImplicit false

/-! # The projects of a recording

Assembling makes one project after the other and files each twice: in the workspace, and with its
arguments in a table. `Assembler.compileAll` does the first half only, so that what assembling
makes is one list of projects with their arguments. Assembling fails as `compileAll` does, and else
files its list and nothing more (`assembleOnto_eq_compileAll`); filing cannot fail, since the
identities of the list are the next numbers in a row (`compileAll_ids`). The list has one member
for each record of the language, which the record describes (`compileAll_describes`). -/

namespace CompileTrace

/-- The records of a recording that are in a language. -/
def Recording.recordsOf (recording : Recording) (language : Text) : List Record :=
  recording.records.filter (Record.isOf language)

namespace Assembler

/-! ## What a record tells -/

theorem commandLine_eq_text {r : Record} {s : Text} (h : r.commandLineText = .ok s) :
    r.commandLine = .text s := by
  unfold Record.commandLineText at h
  split at h
  · next hjson =>
    cases h
    exact hjson
  · cases h

theorem projectFile_eq_text {r : Record} {s : Text} (h : r.projectFileText = .ok s) :
    r.projectFile = .text s := by
  unfold Record.projectFileText at h
  split at h
  · next hjson =>
    cases h
    exact hjson
  · cases h

/-- A record that can be read holds texts, and its arguments are what its command line tells. -/
theorem read_eq_ok {a : Assembler} {r : Record} {i : Invocation} {arguments : CompilerArguments}
    (h : a.read r = .ok (i, arguments)) :
    r.commandLine = .text i.commandLine ∧ r.projectDirectoryText = .ok i.projectDirectory
      ∧ r.projectFile = .text i.projectFile
      ∧ ∃ tokens, tokenize (dropExecutable i.commandLine) = .ok tokens
        ∧ CompilerArguments.interpret a.disk.cwd i.projectDirectory (tokens.map Token.value)
          = .ok arguments := by
  rw [read] at h
  obtain ⟨commandLine, hline, h⟩ := exists_of_bind_eq_ok h
  obtain ⟨tokens, htokens, h⟩ := exists_of_bind_eq_ok h
  obtain ⟨directory, hdirectory, h⟩ := exists_of_bind_eq_ok h
  obtain ⟨found, harguments, h⟩ := exists_of_bind_eq_ok h
  obtain ⟨projectFile, hfile, h⟩ := exists_of_bind_eq_ok h
  cases h
  exact ⟨commandLine_eq_text (eq_ok_of_mapError hline), eq_ok_of_mapError hdirectory,
    projectFile_eq_text (eq_ok_of_mapError hfile), tokens, eq_ok_of_mapError htokens,
    eq_ok_of_mapError harguments⟩

/-- Whether a record describes a project with its arguments: the arguments are what the record
    tells, the options are theirs, and the project is named after the file in the record, without
    its directory and its extension. -/
structure Describes (a : Assembler) (r : Record) (c : Compiled) : Prop where
  read : ∃ i, a.read r = .ok (i, c.2)
  named : ∃ file, r.projectFile = .text file ∧ c.1.filePath? = some file
    ∧ Path.IsStem file c.1.name
  compilation : c.1.compilation = c.2.compilation
  parse : c.1.parse = c.2.parse

/-! ## One project -/

/-- A build uses up one identity, whether or not it succeeds. -/
theorem build_nextId (a : Assembler) (i : Invocation) (arguments : CompilerArguments)
    (s : AssemblyState) : (a.build i arguments s).2.nextId = s.nextId + 1 := by
  unfold build
  split
  · rfl
  · split <;> rfl

/-- What a build makes: the references and the documents that the arguments name. -/
theorem build_eq_ok {a : Assembler} {i : Invocation} {arguments : CompilerArguments}
    {s : AssemblyState} {c : Compiled} (h : (a.build i arguments s).1 = .ok c) :
    ∃ references documents,
      (s.cache.getAll a.disk.cwd a.load arguments.references).1 = .ok references
        ∧ arguments.sources.mapM (a.document i) = .ok documents
        ∧ c = (project i ⟨s.nextId⟩ arguments references documents, arguments) := by
  unfold build at h
  split at h
  · cases h
  · next references cache hreferences =>
    split at h
    · cases h
    · next documents hdocuments =>
      cases h
      exact ⟨references, documents, by rw [hreferences], hdocuments, rfl⟩

/-- A record uses up one identity or, if it cannot be read, none. -/
theorem nextId_le_create (a : Assembler) (r : Record) (s : AssemblyState) :
    s.nextId ≤ (a.create r s).2.nextId := by
  unfold create
  split
  · exact Nat.le_refl _
  · rw [build_nextId]
    exact Nat.le_succ _

/-- A project has the next identity, and its record describes it. -/
theorem create_eq_ok {a : Assembler} {r : Record} {s : AssemblyState} {c : Compiled}
    (h : (a.create r s).1 = .ok c) :
    c.1.id = ⟨s.nextId⟩ ∧ (a.create r s).2.nextId = s.nextId + 1 ∧ a.Describes r c := by
  unfold create at h ⊢
  cases hread : a.read r with
  | error error => simp [hread] at h
  | ok found =>
    obtain ⟨i, arguments⟩ := found
    simp only [hread] at h
    obtain ⟨references, documents, -, -, rfl⟩ := build_eq_ok h
    obtain ⟨-, -, hfile, -⟩ := read_eq_ok hread
    have hnamed : ∃ file, r.projectFile = .text file ∧ some i.projectFile = some file
        ∧ Path.IsStem file (Path.stem i.projectFile) :=
      ⟨i.projectFile, hfile, rfl, Path.isStem_stem i.projectFile⟩
    exact ⟨rfl, build_nextId a i arguments s, ⟨i, hread⟩, hnamed, rfl, rfl⟩

/-! ## All projects -/

/-- The projects that a recording describes, with their arguments. -/
def compileAll (a : Assembler) (s : AssemblyState) :
    Recording → Except AssemblyError (List Compiled) × AssemblyState
  | [] => (.ok [], s)
  | .error error :: _ => (.error (.dump error), s)
  | .ok r :: rest =>
    if r.isOf a.language then
      match a.create r s with
      | (.error error, after) => (.error error, after)
      | (.ok c, after) =>
        match a.compileAll after rest with
        | (.error error, last) => (.error error, last)
        | (.ok others, last) => (.ok (c :: others), last)
    else a.compileAll s rest

/-- What the first record of the language and the rest of a recording have to give. -/
theorem compileAll_cons_eq_ok {a : Assembler} {s : AssemblyState} {r : Record} {rest : Recording}
    {compiled : List Compiled} (hof : r.isOf a.language = true)
    (h : (a.compileAll s (.ok r :: rest)).1 = .ok compiled) :
    ∃ c others, compiled = c :: others ∧ (a.create r s).1 = .ok c
      ∧ (a.compileAll (a.create r s).2 rest).1 = .ok others
      ∧ (a.compileAll s (.ok r :: rest)).2 = (a.compileAll (a.create r s).2 rest).2 := by
  rw [compileAll, if_pos hof] at h ⊢
  rcases hcreate : a.create r s with ⟨error | c, after⟩
  · simp [hcreate] at h
  · rcases hrest : a.compileAll after rest with ⟨error | others, last⟩
    · simp [hcreate, hrest] at h
    · simp only [hcreate, hrest, Except.ok.injEq] at h
      exact ⟨c, others, h.symm, rfl, rfl, by simp [hrest]⟩

theorem nextId_le_compileAll (a : Assembler) (s : AssemblyState) (recording : Recording) :
    s.nextId ≤ (a.compileAll s recording).2.nextId := by
  induction recording generalizing s with
  | nil => exact Nat.le_refl _
  | cons entry rest ih =>
    cases entry with
    | error error => exact Nat.le_refl _
    | ok r =>
      rw [compileAll]
      split
      · have hfirst := nextId_le_create a r s
        rcases hcreate : a.create r s with ⟨error | c, after⟩
        · rw [hcreate] at hfirst
          exact hfirst
        · rw [hcreate] at hfirst
          have hrest := ih after
          rcases hall : a.compileAll after rest with ⟨error | others, last⟩
          · rw [hall] at hrest
            simpa [hall] using Nat.le_trans hfirst hrest
          · rw [hall] at hrest
            simpa [hall] using Nat.le_trans hfirst hrest
      · exact ih s

/-- **The identities are the next numbers in a row.** -/
theorem compileAll_ids (a : Assembler) (s : AssemblyState) (recording : Recording)
    (compiled : List Compiled) (h : (a.compileAll s recording).1 = .ok compiled) :
    compiled.map (·.1.id.number) = List.range' s.nextId compiled.length
      ∧ (a.compileAll s recording).2.nextId = s.nextId + compiled.length := by
  induction recording generalizing s compiled with
  | nil =>
    cases h
    exact ⟨rfl, rfl⟩
  | cons entry rest ih =>
    cases entry with
    | error error => cases h
    | ok r =>
      by_cases hof : r.isOf a.language = true
      · obtain ⟨c, others, rfl, hcreate, hrest, hlast⟩ := compileAll_cons_eq_ok hof h
        obtain ⟨hid, hnext, -⟩ := create_eq_ok hcreate
        obtain ⟨hids, hend⟩ := ih _ others hrest
        rw [hnext] at hids hend
        refine ⟨?_, ?_⟩
        · rw [List.map_cons, hid, hids, List.length_cons, List.range'_succ]
        · rw [hlast, hend, List.length_cons]
          omega
      · rw [compileAll, if_neg hof] at h ⊢
        exact ih s compiled h

/-- **Each record of the language describes the project in its place**, and no entry of the
    recording was left out. -/
theorem compileAll_describes (a : Assembler) (s : AssemblyState) (recording : Recording)
    (compiled : List Compiled) (h : (a.compileAll s recording).1 = .ok compiled) :
    recording = recording.records.map .ok
      ∧ List.Forall₂ a.Describes (recording.recordsOf a.language) compiled := by
  induction recording generalizing s compiled with
  | nil =>
    cases h
    exact ⟨rfl, List.Forall₂.nil⟩
  | cons entry rest ih =>
    cases entry with
    | error error => cases h
    | ok r =>
      by_cases hof : r.isOf a.language = true
      · obtain ⟨c, others, rfl, hcreate, hrest, -⟩ := compileAll_cons_eq_ok hof h
        obtain ⟨hrecords, hothers⟩ := ih _ others hrest
        rw [Recording.recordsOf, Recording.records, List.filter_cons_of_pos hof, List.map_cons,
          ← hrecords]
        exact ⟨rfl, List.Forall₂.cons (create_eq_ok hcreate).2.2 hothers⟩
      · rw [compileAll, if_neg hof] at h
        obtain ⟨hrecords, hothers⟩ := ih s compiled h
        rw [Recording.recordsOf, Recording.records, List.filter_cons_of_neg hof, List.map_cons,
          ← hrecords]
        exact ⟨rfl, hothers⟩

end Assembler

/-! ## Filing -/

/-- What is assembled holds a list of projects with their arguments: the workspace has the
    projects, and the table has the arguments under the identities. -/
structure Assembled.Holds (assembled : Assembled) (compiled : List Compiled) : Prop where
  projects : assembled.workspace.projects = compiled.map Prod.fst
  arguments : assembled.arguments = compiled.map (fun c => (c.1.id, c.2))

namespace Assembled

theorem holds_empty : empty.Holds [] := ⟨rfl, rfl⟩

/-- A project of a new identity can be filed. -/
theorem Holds.add {assembled : Assembled} {compiled : List Compiled}
    (h : assembled.Holds compiled) (c : Compiled) (hid : c.1.id ∉ compiled.map (·.1.id)) :
    ∃ more, assembled.add c = .ok more ∧ more.Holds (compiled ++ [c]) := by
  have hnew : c.1.id ∉ assembled.workspace.projects.map Project.id := by
    rw [h.projects, List.map_map]
    exact hid
  simp only [Assembled.add, Workspace.add, dif_neg hnew, Except.map]
  refine ⟨_, rfl, ?_, ?_⟩
  · simp [h.projects]
  · simp [h.arguments]

end Assembled

namespace Assembler

section

variable {done : List Compiled} {next : Nat} (h : ∀ c ∈ done, c.1.id.number < next)
  {c : Compiled} (hid : c.1.id = ⟨next⟩)

include h hid

/-- The next identity is not among those below it. -/
theorem id_not_mem_of_below : c.1.id ∉ done.map (·.1.id) := by
  intro hmem
  obtain ⟨d, hd, hsame⟩ := List.mem_map.1 hmem
  have hlt := h d hd
  rw [hsame, hid] at hlt
  exact Nat.lt_irrefl _ hlt

theorem below_concat : ∀ d ∈ done ++ [c], d.1.id.number < next + 1 := by
  intro d hd
  rcases List.mem_append.1 hd with hd | hd
  · exact Nat.lt_succ_of_lt (h d hd)
  · rw [List.mem_singleton.1 hd, hid]
    exact Nat.lt_succ_self next

end

/-- **Assembling is compiling and filing.** Filing does not fail as long as the identities filed
    before are below the next one. -/
theorem assembleOnto_eq_compileAll (a : Assembler) (assembled : Assembled) (done : List Compiled)
    (s : AssemblyState) (recording : Recording) (hholds : assembled.Holds done)
    (hids : ∀ c ∈ done, c.1.id.number < s.nextId) :
    match a.compileAll s recording with
    | (.error error, last) => a.assembleOnto assembled s recording = (.error error, last)
    | (.ok more, last) =>
      ∃ all, a.assembleOnto assembled s recording = (.ok all, last) ∧ all.Holds (done ++ more) := by
  induction recording generalizing assembled done s with
  | nil => exact ⟨assembled, rfl, by simpa using hholds⟩
  | cons entry rest ih =>
    cases entry with
    | error error => rfl
    | ok r =>
      by_cases hof : r.isOf a.language = true
      · rw [compileAll, assembleOnto, if_pos hof, if_pos hof]
        have hcreate := @create_eq_ok a r s
        rcases hc : a.create r s with ⟨error | c, after⟩
        · rfl
        · rw [hc] at hcreate
          obtain ⟨hid, hnext, -⟩ := hcreate rfl
          -- all that is filed has numbers below the one that the project was given
          obtain ⟨more, hadd, hmore⟩ := hholds.add c (id_not_mem_of_below hids hid)
          have hbelow : ∀ d ∈ done ++ [c], d.1.id.number < after.nextId := by
            rw [show after.nextId = s.nextId + 1 from hnext]
            exact below_concat hids hid
          have hrest := ih more (done ++ [c]) after hmore hbelow
          simp only [hadd]
          rcases hall : a.compileAll after rest with ⟨error | others, last⟩
          · rw [hall] at hrest
            exact hrest
          · rw [hall] at hrest
            simpa using hrest
      · rw [compileAll, assembleOnto, if_neg hof, if_neg hof]
        exact ih assembled done s hholds hids

/-- Assembling from the start files what is compiled from a fresh state. -/
theorem assemble_eq_compileAll (a : Assembler) (recording : Recording) (s : AssemblyState) :
    match a.compileAll (fresh s) recording with
    | (.error error, last) => a.assemble recording s = (.error error, last)
    | (.ok compiled, last) =>
      ∃ all, a.assemble recording s = (.ok all, last) ∧ all.Holds compiled :=
  assembleOnto_eq_compileAll a .empty [] (fresh s) recording Assembled.holds_empty (by simp)

end Assembler

end CompileTrace
