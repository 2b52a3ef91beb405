import CompileTrace.Proofs.Capture.Batches
import CompileTrace.Proofs.Workspace.Alone
import CompileTrace.Proofs.Workspace.Renumbering

set_option autoImplicit false

/-! # Captures do not interfere

A capture depends on the records of its language alone, each of which counts as it does on its own,
and not on what was captured before (`capture_independent`). Records of other languages are passed
over before anything of them is read (`assembleOnto_filter`); earlier captures only raise the
numbers that identities and handles are counted from (`capture_eq_raise`); and the cache that the
records share answers each of them as an empty one would (`capture_alone`). -/

namespace CompileTrace

/-! ## Records of other languages -/

/-- Whether an entry of a recording matters to a capture of a language: an error ends it, and a
    record counts if it is in the language. -/
def concerns (language : Text) : Except DumpError Record → Bool
  | .error _ => true
  | .ok r => r.isOf language

namespace Assembler

/-- Assembling passes over the entries that do not matter. -/
theorem assembleOnto_filter (a : Assembler) (assembled : Assembled) (s : AssemblyState)
    (recording : Recording) :
    a.assembleOnto assembled s (recording.filter (concerns a.language))
      = a.assembleOnto assembled s recording := by
  induction recording generalizing assembled s with
  | nil => rfl
  | cons entry rest ih =>
    cases entry with
    | error error => rfl
    | ok r =>
      have hentry : concerns a.language (.ok r) = r.isOf a.language := rfl
      by_cases hof : r.isOf a.language = true
      · rw [List.filter_cons_of_pos (hentry.trans hof), assembleOnto, assembleOnto, if_pos hof,
          if_pos hof]
        rcases a.create r s with ⟨error | c, after⟩
        · rfl
        · simp only
          cases assembled.add c with
          | error fault => rfl
          | ok more => exact ih more after
      · rw [List.filter_cons_of_neg (by rwa [hentry]), ih, assembleOnto, if_neg hof]

end Assembler

namespace Capturer

/-- Recordings that differ in other languages only are captured as one. -/
theorem capture_congr_filter (c : Capturer) {recording others : Recording}
    (h : recording.filter (concerns c.language) = others.filter (concerns c.language))
    (s : AssemblyState) : c.capture recording s = c.capture others s := by
  have hassemble : c.assembler.assemble recording s = c.assembler.assemble others s := by
    rw [Assembler.assemble, Assembler.assemble, ← Assembler.assembleOnto_filter,
      ← Assembler.assembleOnto_filter _ _ _ others]
    exact congrArg (c.assembler.assembleOnto .empty (Assembler.fresh s)) h
  simp only [capture, hassemble]

end Capturer

/-! ## Earlier captures -/

/-- The workspace with higher numbers. -/
def Workspace.raise (o : Offset) (w : Workspace) : Workspace where
  projects := w.projects.map (Project.raise o)
  distinct := by
    have hids := w.distinct.map (ProjectId.raise_injective o)
    rwa [List.map_map] at hids ⊢

/-- What is assembled with higher numbers. -/
def Assembled.raise (o : Offset) (assembled : Assembled) : Assembled :=
  ⟨assembled.workspace.raise o,
    assembled.arguments.map (fun entry => (entry.1.raise o, entry.2))⟩

/-- The capture with higher numbers. -/
def Capture.raise (o : Offset) (capture : Capture) : Capture :=
  { capture with assembled := capture.assembled.raise o }

/-- A list of projects is filed in one way only. -/
theorem Assembled.Holds.unique {x y : Assembled} {compiled : List Compiled} (hx : x.Holds compiled)
    (hy : y.Holds compiled) : x = y := by
  obtain ⟨⟨projects, _⟩, arguments⟩ := x
  obtain ⟨⟨projects', _⟩, arguments'⟩ := y
  obtain ⟨rfl, rfl⟩ := hx
  obtain ⟨rfl, rfl⟩ := hy
  rfl

theorem Assembled.Holds.raise (o : Offset) {x : Assembled} {compiled : List Compiled}
    (h : x.Holds compiled) : (x.raise o).Holds (compiled.map (Compiled.raise o)) := by
  refine ⟨?_, ?_⟩
  · simp only [Assembled.raise, Workspace.raise, h.projects, List.map_map]
    rfl
  · simp only [Assembled.raise, h.arguments, List.map_map]
    rfl

/-- The state that counts from zero. -/
def AssemblyState.blank : AssemblyState := ⟨0, .start 0⟩

/-- The numbers that a state counts from. -/
def AssemblyState.offset (s : AssemblyState) : Offset := ⟨s.nextId, s.cache.nextHandle⟩

theorem AssemblyState.fresh_eq_raise (s : AssemblyState) :
    Assembler.fresh s = (Assembler.fresh .blank).raise s.offset := by
  simp [Assembler.fresh, AssemblyState.raise, AssemblyState.blank, AssemblyState.offset,
    ReferenceCache.raise, ReferenceCache.start]

namespace Capturer

/-- **A capture is the one from nothing with its numbers raised**: all that earlier captures leave
    behind is the numbers to count from. -/
theorem capture_eq_raise (c : Capturer) (recording : Recording) (s : AssemblyState) :
    c.capture recording s
      = ((c.capture recording .blank).1.map (Capture.raise s.offset),
        (c.capture recording .blank).2.raise s.offset) := by
  have hcapture := c.capture_eq_compileAll recording s
  have hblank := c.capture_eq_compileAll recording .blank
  rw [AssemblyState.fresh_eq_raise s, Assembler.compileAll_raise] at hcapture
  rcases hall : c.assembler.compileAll (Assembler.fresh .blank) recording
    with ⟨error | compiled, last⟩
  · rw [hall] at hcapture hblank
    rw [hblank]
    exact hcapture
  · rw [hall] at hcapture hblank
    obtain ⟨x, hx, hholds⟩ := hblank
    obtain ⟨y, hy, hraised⟩ := hcapture
    -- both hold the raised list, which is filed in one way only
    have hsame : y = x.raise s.offset := hraised.unique (hholds.raise s.offset)
    rw [hx, hy, hsame]
    rfl

/-! ## Other records of the language -/

/-- The capture of a record alone is the project that it describes, or fails as making it does. -/
theorem capture_singleton (c : Capturer) {r : Record} (hof : r.isOf c.language = true)
    (s : AssemblyState) :
    match (c.assembler.create r (Assembler.fresh s)).1 with
    | .error error => (c.capture [.ok r] s).1 = .error error
    | .ok compiled =>
      ∃ alone, (c.capture [.ok r] s).1 = .ok alone ∧ alone.projects = [compiled.1] := by
  have hcapture := c.capture_eq_compileAll [.ok r] s
  have hof' : r.isOf c.assembler.language = true := hof
  rw [Assembler.compileAll, if_pos hof'] at hcapture
  rcases hcreate : c.assembler.create r (Assembler.fresh s) with ⟨error | compiled, after⟩
  · rw [hcreate] at hcapture
    rw [hcapture]
  · rw [hcreate] at hcapture
    obtain ⟨assembled, hassembled, hholds⟩ := hcapture
    exact ⟨⟨assembled, none⟩, by rw [hassembled], hholds.projects⟩

/-- Whether a record is captured alone, as a project that is like a given one. -/
def GivesAlone (c : Capturer) (s : AssemblyState) (r : Record) (project : Project) : Prop :=
  ∃ alone other, (c.capture [.ok r] s).1 = .ok alone ∧ alone.projects = [other]
    ∧ project.Alike other

/-- **Records are captured together as they are one by one**: with the failure of one of them, or
    with the project of each. -/
theorem capture_alone (c : Capturer) (hcwd : Path.isAbsolute c.setup.disk.cwd = true)
    (records : List Record) (s s' : AssemblyState) :
    match (c.capture (records.map .ok) s).1 with
    | .error error =>
      ∃ r ∈ records.filter (Record.isOf c.language), (c.capture [.ok r] s').1 = .error error
    | .ok made =>
      List.Forall₂ (c.GivesAlone s') (records.filter (Record.isOf c.language)) made.projects := by
  have hcapture := c.capture_eq_compileAll (records.map .ok) s
  have hrecords := Assembler.compileAll_alone (a := c.assembler) hcwd records
    (Assembler.fresh s) (Assembler.fresh s') (ReferenceCache.faithful_start _ _)
    (ReferenceCache.faithful_start _ _)
  rcases hall : c.assembler.compileAll (Assembler.fresh s) (records.map .ok)
    with ⟨error | compiled, last⟩
  · rw [hall] at hcapture hrecords
    obtain ⟨r, hr, hfails⟩ := hrecords
    have halone := c.capture_singleton (List.mem_filter.1 hr).2 s'
    rw [hfails] at halone
    rw [hcapture]
    exact ⟨r, hr, halone⟩
  · rw [hall] at hcapture hrecords
    obtain ⟨assembled, hassembled, hholds⟩ := hcapture
    rw [hassembled]
    show List.Forall₂ (c.GivesAlone s') _ assembled.workspace.projects
    rw [hholds.projects, List.forall₂_map_right_iff]
    refine List.forall₂_iff_zip.2 ⟨hrecords.length_eq, fun {r d} hmem => ?_⟩
    have hsame := List.forall₂_zip hrecords hmem
    have halone := c.capture_singleton (List.mem_filter.1 (List.of_mem_zip hmem).1).2 s'
    generalize (c.assembler.create r (Assembler.fresh s')).1 = result at hsame halone
    cases hsame with
    | made arguments halike =>
      obtain ⟨alone, hmade, hprojects⟩ := halone
      exact ⟨alone, _, hmade, hprojects, halike⟩

/-- **Captures do not interfere.** Records are captured together exactly if each one of the language
    can be captured alone, and then as the projects that they are alone; records of other languages
    change nothing at all; and a capture after others is the one from nothing, counted from where
    those others have come to. -/
theorem capture_independent (c : Capturer) (hcwd : Path.isAbsolute c.setup.disk.cwd = true)
    (s s' : AssemblyState) :
    (∀ records : List Record,
      ((∃ made, (c.capture (records.map .ok) s).1 = .ok made)
          ↔ ∀ r ∈ records, r.isOf c.language = true →
            ∃ alone, (c.capture [.ok r] s').1 = .ok alone)
        ∧ ∀ made, (c.capture (records.map .ok) s).1 = .ok made →
          List.Forall₂ (c.GivesAlone s') (records.filter (Record.isOf c.language)) made.projects)
    ∧ (∀ recording others : Recording,
      recording.filter (concerns c.language) = others.filter (concerns c.language) →
        c.capture recording s = c.capture others s)
    ∧ ∀ (before : List Recording) (recording : Recording),
      let after := (c.captureAll s before).2
      c.capture recording after
        = ((c.capture recording .blank).1.map (Capture.raise after.offset),
          (c.capture recording .blank).2.raise after.offset) := by
  refine ⟨fun records => ?_, fun recording others h => c.capture_congr_filter h s,
    fun before recording => c.capture_eq_raise recording _⟩
  have halone := c.capture_alone hcwd records s s'
  cases hcapture : (c.capture (records.map .ok) s).1 with
  | error error =>
    rw [hcapture] at halone
    obtain ⟨r, hr, hfails⟩ := halone
    refine ⟨⟨?_, fun hall => ?_⟩, ?_⟩
    · rintro ⟨_, ⟨⟩⟩
    · obtain ⟨alone, hmade⟩ := hall r (List.mem_filter.1 hr).1 (List.mem_filter.1 hr).2
      rw [hfails] at hmade
      cases hmade
    · rintro _ ⟨⟩
  | ok made =>
    rw [hcapture] at halone
    refine ⟨⟨fun _ r hr hof => ?_, fun _ => ⟨made, rfl⟩⟩, ?_⟩
    · have hboth : List.Forall₂ (fun r project =>
          (∃ alone, (c.capture [.ok r] s').1 = .ok alone) ∧ c.GivesAlone s' r project)
          (records.filter (Record.isOf c.language)) made.projects :=
        halone.imp (fun _ _ h => by
          obtain ⟨alone, other, hmade, hrest⟩ := h
          exact ⟨⟨alone, hmade⟩, alone, other, hmade, hrest⟩)
      exact ((List.forall₂_and_left _ _).1 hboth).1 r (List.mem_filter.2 ⟨hr, hof⟩)
    · rintro _ ⟨⟩
      exact halone

/-- Two spellings of one library, and between them a line of another language that cannot be
    read. -/
theorem capture_independent_sharing :
    let first := sharingRecord csharp "csc /r:/lib/C.dll A.cs"
    let foreign := sharingRecord "Visual Basic" "vbc \"A.vb"
    let second := sharingRecord csharp "csc /r:../lib/./C.dll B.cs"
    Path.isAbsolute sharing.setup.disk.cwd = true
      ∧ ∃ made, (sharing.capture ([first, foreign, second].map .ok) .initial).1 = .ok made
        ∧ List.Forall₂ (sharing.GivesAlone .initial) [first, second] made.projects := by
  intro first foreign second
  have hcwd : Path.isAbsolute sharing.setup.disk.cwd = true := by decide
  obtain ⟨hmade, hprojects⟩ :=
    (capture_independent sharing hcwd .initial .initial).1 [first, foreign, second]
  obtain ⟨made, hcapture⟩ := hmade.2 (by
    intro r hr hof
    simp only [List.mem_cons, List.not_mem_nil, or_false] at hr
    rcases hr with rfl | rfl | rfl
    · exact ⟨_, rfl⟩
    · exact absurd hof (by decide)
    · exact ⟨_, rfl⟩)
  exact ⟨hcwd, made, hcapture, hprojects made hcapture⟩

end Capturer

end CompileTrace
