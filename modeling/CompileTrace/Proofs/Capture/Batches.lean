import CompileTrace.Capture.Build
import CompileTrace.Proofs.Workspace.Compilation
import Mathlib.Data.List.Nodup

set_option autoImplicit false

/-! # Captures of several recordings

One capturer may capture many recordings in turn, and some of them may fail on the way. Whatever
came before, a capture that is made has one project for each record of its language and one entry
of arguments for each project, and no identity ever comes twice (`captureAll_accounts`). -/

namespace CompileTrace

namespace Capturer

/-- Captures recordings one after the other. -/
def captureAll (c : Capturer) (s : AssemblyState) :
    List Recording → List (Except AssemblyError Capture) × AssemblyState
  | [] => ([], s)
  | recording :: rest =>
    let first := c.capture recording s
    let later := c.captureAll first.2 rest
    (first.1 :: later.1, later.2)

/-- **A capture fails as compiling from a fresh state does**, and else holds what is compiled; it
    leaves the same state. -/
theorem capture_eq_compileAll (c : Capturer) (recording : Recording) (s : AssemblyState) :
    match c.assembler.compileAll (Assembler.fresh s) recording with
    | (.error error, last) => c.capture recording s = (.error error, last)
    | (.ok compiled, last) =>
      ∃ assembled, c.capture recording s = (.ok ⟨assembled, none⟩, last)
        ∧ assembled.Holds compiled := by
  have hassemble := c.assembler.assemble_eq_compileAll recording s
  rcases hall : c.assembler.compileAll (Assembler.fresh s) recording with ⟨error | compiled, last⟩
  · rw [hall] at hassemble
    simp only [capture, hassemble, Except.map]
  · rw [hall] at hassemble
    obtain ⟨assembled, hassembled, hholds⟩ := hassemble
    refine ⟨assembled, ?_, hholds⟩
    simp only [capture, hassembled, Except.map]

/-- A capture that is made holds what is compiled from a fresh state. -/
theorem capture_eq_ok {c : Capturer} {recording : Recording} {s : AssemblyState}
    {made : Capture} (h : (c.capture recording s).1 = .ok made) :
    ∃ compiled, (c.assembler.compileAll (Assembler.fresh s) recording).1 = .ok compiled
      ∧ made.assembled.Holds compiled := by
  have hcapture := c.capture_eq_compileAll recording s
  rcases hall : c.assembler.compileAll (Assembler.fresh s) recording with ⟨error | compiled, last⟩
  · rw [hall] at hcapture
    rw [hcapture] at h
    cases h
  · rw [hall] at hcapture
    obtain ⟨assembled, hassembled, hholds⟩ := hcapture
    rw [hassembled] at h
    cases h
    exact ⟨compiled, rfl, hholds⟩

theorem capture_snd (c : Capturer) (recording : Recording) (s : AssemblyState) :
    (c.capture recording s).2 = (c.assembler.compileAll (Assembler.fresh s) recording).2 := by
  have hcapture := c.capture_eq_compileAll recording s
  rcases hall : c.assembler.compileAll (Assembler.fresh s) recording with ⟨error | compiled, last⟩
  · rw [hall] at hcapture
    rw [hcapture]
  · rw [hall] at hcapture
    obtain ⟨assembled, hassembled, -⟩ := hcapture
    rw [hassembled]

/-- Capturing never gives an identity back. -/
theorem nextId_le_capture (c : Capturer) (recording : Recording) (s : AssemblyState) :
    s.nextId ≤ (c.capture recording s).2.nextId := by
  rw [capture_snd]
  exact Assembler.nextId_le_compileAll c.assembler (Assembler.fresh s) recording

end Capturer

/-! ## One capture -/

namespace Capture

/-- The identities of the projects. -/
def ids (capture : Capture) : List ProjectId := capture.projects.map Project.id

/-- What a capture keeps of the recording that it was made of: all records were used, each record
    of the language describes the project in its place, whose arguments are found by the project
    and by its identity, and the table of arguments has the identities of the projects and no
    others. -/
structure Accounts (capture : Capture) (a : Assembler) (recording : Recording) : Prop where
  complete : recording = recording.records.map .ok
  projects : List.Forall₂
    (fun r project => ∃ arguments, a.Describes r (project, arguments)
      ∧ capture.argumentsOf? project = some arguments
      ∧ capture.arguments? project.id = some arguments)
    (recording.recordsOf a.language) capture.projects
  table : capture.assembled.arguments.map Prod.fst = capture.ids
  foreign : ∀ id, id ∉ capture.ids → capture.arguments? id = none

theorem ids_of_holds {capture : Capture} {compiled : List Compiled}
    (h : capture.assembled.Holds compiled) : capture.ids = compiled.map (·.1.id) := by
  rw [ids, projects, h.projects, List.map_map]
  rfl

/-- Under distinct identities, each project finds its own arguments. -/
theorem lookup_of_mem (compiled : List Compiled) (h : (compiled.map (·.1.id)).Nodup) :
    ∀ c ∈ compiled, (compiled.map (fun c => (c.1.id, c.2))).lookup c.1.id = some c.2 := by
  induction compiled with
  | nil => simp
  | cons d rest ih =>
    rw [List.map_cons, List.nodup_cons] at h
    intro c hc
    rw [List.map_cons, List.lookup_cons]
    rcases List.mem_cons.1 hc with rfl | hc
    · simp
    · have hne : c.1.id ≠ d.1.id := by
        intro hsame
        exact h.1 (hsame ▸ List.mem_map.2 ⟨c, hc, rfl⟩)
      rw [beq_eq_false_iff_ne.2 hne]
      exact ih h.2 c hc

theorem arguments?_of_holds {capture : Capture} {compiled : List Compiled}
    (hholds : capture.assembled.Holds compiled) (h : (compiled.map (·.1.id)).Nodup) :
    ∀ c ∈ compiled, capture.arguments? c.1.id = some c.2 := by
  intro c hc
  rw [arguments?, Assembled.arguments?, hholds.arguments]
  exact lookup_of_mem compiled h c hc

end Capture

namespace Capturer

theorem nodup_ids_compileAll {a : Assembler} {s : AssemblyState} {recording : Recording}
    {compiled : List Compiled} (h : (a.compileAll s recording).1 = .ok compiled) :
    (compiled.map (·.1.id)).Nodup := by
  have hnumbers : (compiled.map (·.1.id.number)).Nodup := by
    rw [(Assembler.compileAll_ids a s recording compiled h).1]
    exact List.nodup_range'
  exact List.Nodup.of_map ProjectId.number (by rwa [List.map_map])

/-- A capture accounts for its recording. -/
theorem capture_accounts {c : Capturer} {recording : Recording} {s : AssemblyState}
    {made : Capture} (h : (c.capture recording s).1 = .ok made) :
    made.Accounts c.assembler recording := by
  obtain ⟨compiled, hcompiled, hholds⟩ := capture_eq_ok h
  have hids := Capture.ids_of_holds hholds
  have hfound := Capture.arguments?_of_holds hholds (nodup_ids_compileAll hcompiled)
  obtain ⟨hcomplete, hdescribes⟩ :=
    Assembler.compileAll_describes c.assembler (Assembler.fresh s) recording compiled hcompiled
  refine ⟨hcomplete, ?_, ?_, ?_⟩
  · rw [Capture.projects, hholds.projects, List.forall₂_map_right_iff]
    refine List.forall₂_iff_zip.2 ⟨hdescribes.length_eq, fun {r d} hmem => ?_⟩
    have hd := hfound d (List.of_mem_zip hmem).2
    exact ⟨d.2, List.forall₂_zip hdescribes hmem, hd, hd⟩
  · rw [hids, hholds.arguments, List.map_map]
    rfl
  · intro id hid
    rw [Capture.arguments?, Assembled.arguments?, hholds.arguments, List.lookup_eq_none_iff]
    intro entry hentry
    obtain ⟨d, hd, rfl⟩ := List.mem_map.1 hentry
    refine bne_iff_ne.2 ?_
    rintro rfl
    exact hid (hids ▸ List.mem_map.2 ⟨d, hd, rfl⟩)

/-! ## Many captures -/

/-- The identities that a capture gave out, if it was made. -/
def idsOf : Except AssemblyError Capture → List ProjectId
  | .ok capture => capture.ids
  | .error _ => []

/-- A capture gives out identities that come next, each once. -/
theorem idsOf_capture (c : Capturer) (recording : Recording) (s : AssemblyState) :
    (idsOf (c.capture recording s).1).Nodup
      ∧ ∀ id ∈ idsOf (c.capture recording s).1,
        s.nextId ≤ id.number ∧ id.number < (c.capture recording s).2.nextId := by
  cases hcapture : (c.capture recording s).1 with
  | error error => simp [idsOf]
  | ok capture =>
    obtain ⟨compiled, hcompiled, hholds⟩ := capture_eq_ok hcapture
    obtain ⟨hnumbers, hnext⟩ :=
      Assembler.compileAll_ids c.assembler (Assembler.fresh s) recording compiled hcompiled
    rw [idsOf, Capture.ids_of_holds hholds]
    refine ⟨nodup_ids_compileAll hcompiled, fun id hid => ?_⟩
    obtain ⟨d, hd, rfl⟩ := List.mem_map.1 hid
    have hnumber : d.1.id.number ∈ List.range' (Assembler.fresh s).nextId compiled.length := by
      rw [← hnumbers]
      exact List.mem_map.2 ⟨d, hd, rfl⟩
    rw [List.mem_range'_1] at hnumber
    rw [capture_snd, hnext]
    exact hnumber

/-- Later captures give out later identities. -/
theorem nextId_le_of_mem_captureAll (c : Capturer) (s : AssemblyState) (batches : List Recording) :
    ∀ id ∈ (c.captureAll s batches).1.flatMap idsOf, s.nextId ≤ id.number := by
  induction batches generalizing s with
  | nil => simp [captureAll]
  | cons recording rest ih =>
    intro id hid
    rw [captureAll, List.flatMap_cons, List.mem_append] at hid
    rcases hid with hid | hid
    · exact ((idsOf_capture c recording s).2 id hid).1
    · exact Nat.le_trans (nextId_le_capture c recording s) (ih _ id hid)

/-- **No identity comes twice in all captures, and each capture that is made accounts for its
    recording**, whichever captures before it failed. -/
theorem captureAll_accounts (c : Capturer) (s : AssemblyState) (batches : List Recording) :
    ((c.captureAll s batches).1.flatMap idsOf).Nodup
      ∧ List.Forall₂ (fun recording result =>
          ∀ capture, result = .ok capture → capture.Accounts c.assembler recording)
        batches (c.captureAll s batches).1 := by
  induction batches generalizing s with
  | nil => exact ⟨List.nodup_nil, List.Forall₂.nil⟩
  | cons recording rest ih =>
    obtain ⟨hdistinct, haccounts⟩ := ih (c.capture recording s).2
    refine ⟨?_, List.Forall₂.cons (fun capture h => capture_accounts h) haccounts⟩
    rw [captureAll, List.flatMap_cons, List.nodup_append]
    refine ⟨(idsOf_capture c recording s).1, hdistinct, ?_⟩
    -- the state between the captures is above all that came before and not above what comes after
    rintro id hfirst _ hlater rfl
    have hbelow := ((idsOf_capture c recording s).2 id hfirst).2
    have habove := nextId_le_of_mem_captureAll c _ rest id hlater
    exact absurd hbelow (Nat.not_lt_of_le habove)

/-- A library and two sources. -/
def sharingDisk : Disk :=
  ⟨((FileTree.empty.add ["lib", "C.dll".toText] (.file [0x4D, 0x5A] false)).add
      ["src", "A.cs".toText] (.file [0x61] false)).add ["src", "B.cs".toText] (.file [0x62] false),
    "/src"⟩

/-- A capturer with that library and those sources. -/
def sharing : Capturer :=
  ⟨⟨sharingDisk, ⟨BuildTool.defaultPath, BuildTool.defaultVerbosity⟩, "/tmp", fun _ => none⟩, 1024,
    1000, none, sharingDisk.loader, csharp⟩

/-- The record of a run in a language. -/
def sharingRecord (language commandLine : Text) : Record :=
  Invocation.record ⟨language, "/src/A.csproj", "/src", commandLine⟩

/-- Projects of three files, of which the last has no extension. -/
theorem captureAll_accounts_named :
    let entry (file : Text) : Except DumpError Record :=
      .ok (Invocation.record ⟨csharp, file, "/src", "csc /o A.cs"⟩)
    let recording : Recording := [entry "/src/Lib.Core.csproj", entry "Lib", entry "/src/.csproj"]
    ∃ capture, (sharing.captureAll .initial [recording]).1 = [.ok capture]
      ∧ capture.Accounts sharing.assembler recording
      ∧ capture.projects.map (fun project => (project.id.number, project.name))
        = [(1, "Lib.Core".toText), (2, "Lib".toText), (3, ".csproj".toText)] := by
  intro entry recording
  have haccounts := (captureAll_accounts sharing .initial [recording]).2
  have hnames : (sharing.capture recording .initial).1.toOption.map (fun capture =>
      capture.projects.map (fun project => (project.id.number, project.name)))
        = some [(1, "Lib.Core".toText), (2, "Lib".toText), (3, ".csproj".toText)] := by decide
  rcases hmade : (sharing.capture recording .initial).1 with error | capture
  · rw [hmade] at hnames
    cases hnames
  · rw [hmade] at hnames
    have hall : (sharing.captureAll .initial [recording]).1 = [.ok capture] := by
      rw [captureAll, captureAll, hmade]
    rw [hall, List.forall₂_cons] at haccounts
    exact ⟨capture, hall, haccounts.1 capture rfl, Option.some.inj hnames⟩

/-- A capture that fails on its second project has used up two identities. -/
example :
    let given : Except DumpError Record := .ok (sharingRecord csharp "csc /o A.cs")
    let missing : Except DumpError Record := .ok (sharingRecord csharp "csc /o Missing.cs")
    (sharing.captureAll .initial [[given, given], [given, missing], [given]]).1.map idsOf
      = [[⟨1⟩, ⟨2⟩], [], [⟨5⟩]] := by
  decide

end Capturer

end CompileTrace
