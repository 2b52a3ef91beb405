import CompileTrace.Program.Run
import CompileTrace.Proofs.Capture.FirstFault

set_option autoImplicit false

/-! # Runs that assemble a dump

A run that is given a dump captures it and reports what came of it. It ends with an exit code, after
it has printed the capture or logged one error, unless what fails is told by no error of its own: a
path that the system cannot be given, bytes that are no text, or a line that is beyond what its
reader takes or holds a value of the wrong kind (`Program.Unreportable`). These end the run as
faults, and nothing else does (`Program.runOptions_dump`). -/

namespace CompileTrace

/-! ## Errors of records -/

/-- Whether an error can come of a record: those of the other lines of a dump and those of projects
    that are filed twice cannot. -/
def AssemblyError.OfRecord : AssemblyError → Prop
  | .dump _ | .duplicate _ => False
  | _ => True

namespace Assembler

theorem ofRecord_of_read {a : Assembler} {r : Record} {e : AssemblyError}
    (h : a.read r = .error e) : e.OfRecord := by
  rw [read] at h
  rcases error_of_bind_eq_error h with h | ⟨commandLine, -, h⟩
  · obtain ⟨fault, -, rfl⟩ := exists_of_mapError_eq_error h
    trivial
  rcases error_of_bind_eq_error h with h | ⟨tokens, -, h⟩
  · obtain ⟨fault, -, rfl⟩ := exists_of_mapError_eq_error h
    trivial
  rcases error_of_bind_eq_error h with h | ⟨directory, -, h⟩
  · obtain ⟨fault, -, rfl⟩ := exists_of_mapError_eq_error h
    trivial
  rcases error_of_bind_eq_error h with h | ⟨arguments, -, h⟩
  · obtain ⟨fault, -, rfl⟩ := exists_of_mapError_eq_error h
    trivial
  rcases error_of_bind_eq_error h with h | ⟨projectFile, -, h⟩
  · obtain ⟨fault, -, rfl⟩ := exists_of_mapError_eq_error h
    trivial
  cases h

theorem ofRecord_of_create {a : Assembler} {r : Record} {s : AssemblyState} {e : AssemblyError}
    (h : (a.create r s).1 = .error e) : e.OfRecord := by
  rw [create] at h
  cases hread : a.read r with
  | error error =>
    rw [hread] at h
    cases h
    exact ofRecord_of_read hread
  | ok found =>
    rw [hread] at h
    rcases (build_eq_error_iff _ _ s e).1 h with ⟨error, -, rfl⟩ | ⟨-, error, -, rfl⟩
    · trivial
    · trivial

end Assembler

theorem Capturer.ofRecord_of_capture {c : Capturer} {r : Record} {s : AssemblyState}
    {e : AssemblyError} (hof : r.isOf c.language = true)
    (h : (c.capture [.ok r] s).1 = .error e) : e.OfRecord :=
  Assembler.ofRecord_of_create ((Capturer.capture_singleton_eq_error_iff hof s e).1 h)

/-! ## Errors that are not told -/

/-- What can be wrong with a line without a run telling it: the line is beyond what its reader
    takes, it holds a value of the wrong kind, or it names a library or a source by what can be no
    path. -/
inductive AssemblyError.Untold : AssemblyError → Prop
  | beyond (limit : JsonLimit) : Untold (.dump (.beyond limit))
  | kind (fault : KindFault) : Untold (.kind fault)
  | reference (path : Text) (fault : TextFault) :
    Untold (.reference (.unreadable path (.unusable fault)))
  | source (path : Text) (fault : TextFault) : Untold (.source (.unreadable path (.unusable fault)))

/-- The error of a bad line is told, or it is one of those that are not. -/
theorem Capturer.BadLine.isTold_eq_false_iff {c : Capturer} {levels : Nat} {path : Text}
    {alone : AssemblyState} {line : Text × Nat} {error : AssemblyError}
    (h : c.BadLine levels path alone line error) : error.isTold = false ↔ error.Untold := by
  have hback : error.Untold → error.isTold = false := by
    rintro (limit | fault | ⟨file, fault⟩ | ⟨file, fault⟩) <;> rfl
  refine ⟨fun htold => ?_, hback⟩
  cases h with
  | notJson => cases htold
  | beyond => exact .beyond _
  | notAnObject => cases htold
  | lacksMember => cases htold
  | failsAlone h hrecord hof herror =>
    have hrecord := Capturer.ofRecord_of_capture hof herror
    cases error with
    | dump error => cases hrecord
    | duplicate fault => cases hrecord
    | kind fault => exact .kind fault
    | commandLine fault => cases htold
    | directory file fault => cases htold
    | arguments file fault => cases htold
    | reference error =>
      cases error with
      | unreadable file error =>
        cases error with
        | system fault path => cases htold
        | unusable fault => exact .reference file fault
      | notAFile file => cases htold
      | refused reason => cases htold
    | source error =>
      cases error with
      | unreadable file error =>
        cases error with
        | system fault path => cases htold
        | unusable fault => exact .source file fault
      | undecodable file fault => cases htold

/-! ## Dumps that cannot be read -/

/-- A path cannot be given to the system exactly if it has a fault. -/
theorem Disk.read_eq_unusable_iff (disk : Disk) (path : Text) (fault : TextFault) :
    disk.read path = .error (.unusable fault) ↔ Path.textFault? path = some fault := by
  rw [Disk.read, Disk.entry]
  cases hfault : Path.textFault? path with
  | some fault' => simp
  | none =>
    cases hwalk : disk.tree.walk (Path.components disk.cwd) path with
    | error fault' => simp
    | ok place =>
      cases hentry : disk.tree.entryAt? place with
      | none => simp [hentry]
      | some entry => cases entry <;> cases hread : disk.mayRead path <;> simp [hentry]

namespace Program

/-- What a dump is captured with. -/
def capturer (p : Program) (o : Options) : Capturer :=
  ⟨p.setup o, defaultReadLimit, p.depth, none, p.disk.loader, csharp⟩

/-- What a run makes of the dump at a path. -/
def captured (p : Program) (o : Options) (path : Text) : Except AssemblyError Capture :=
  ((p.capturer o).capture (p.disk.readDump p.depth path) .initial).1

/-- What a run that assembles the dump at a path cannot report: the path cannot be given to the
    system, the dump is no text, or its first bad line has an error that is not told. -/
inductive Unreportable (p : Program) (o : Options) (path : Text) : Prop
  | path {fault : TextFault} (h : Path.textFault? path = some fault)
  | content {bytes : Bytes} {fault : Utf8.Fault} (hfile : p.disk.read path = .ok bytes)
    (h : Utf8.decode bytes = .error fault)
  | line {bytes : Bytes} {text : Text} {before after : List (Text × Nat)} {line : Text × Nat}
    {error : AssemblyError} (hfile : p.disk.read path = .ok bytes)
    (htext : Utf8.decode bytes = .ok text)
    (hlines : text.fileLines.zipIdx 1 = before ++ line :: after)
    (hbefore : ∀ l ∈ before, ∀ e,
      ¬ (p.capturer o).BadLine p.depth path .initial l e)
    (hline : (p.capturer o).BadLine p.depth path .initial line error)
    (herror : error.Untold)

variable {p : Program} {o : Options} {path : Text}

theorem runAssembly_eq (p : Program) (o : Options) (path : Text) :
    p.runAssembly path = report ((p.captured o path).mapError .assembly) := rfl

/-- A dump whose first entry is an error has no capture. -/
theorem captured_of_error {error : DumpError} (rest : Recording)
    (h : p.disk.readDump p.depth path = .error error :: rest) :
    p.captured o path = .error (.dump error) := by
  rw [captured, h]
  rfl

theorem captured_of_unreadable {error : FileError} (hread : p.disk.read path = .error error) :
    p.captured o path = .error (.dump (.unreadable path error)) :=
  captured_of_error [] (by rw [Disk.readDump, hread])

theorem exists_captured_of_undecodable {bytes : Bytes} {fault : Utf8.Fault}
    (hread : p.disk.read path = .ok bytes) (hdecode : Utf8.decode bytes = .error fault) :
    ∃ fault', p.captured o path = .error (.dump (.undecodable fault')) := by
  refine ⟨fault.inPieces Dump.pieceSize bytes, captured_of_error [] ?_⟩
  rw [Disk.readDump, hread]
  dsimp only
  rw [Dump.ofContent, hdecode]

/-- What fails in the lines of a dump fails as the first bad one. -/
theorem captured_eq_error_iff (hcwd : Path.isAbsolute p.disk.cwd = true) {bytes : Bytes}
    {text : Text} (hread : p.disk.read path = .ok bytes) (hdecode : Utf8.decode bytes = .ok text)
    (error : AssemblyError) :
    p.captured o path = .error error ↔ ∃ before line after,
      text.fileLines.zipIdx 1 = before ++ line :: after
        ∧ (p.capturer o).BadLine p.depth path .initial line error
        ∧ ∀ l ∈ before, ∀ e, ¬ (p.capturer o).BadLine p.depth path .initial l e := by
  have hrecording : p.disk.readDump p.depth path
      = (text.fileLines.zipIdx 1).filterMap (Dump.readLine? p.depth path) := by
    rw [Disk.readDump, hread]
    exact Dump.ofContent_eq_lines p.depth path hdecode
  rw [captured, hrecording]
  exact Capturer.capture_lines_eq_error_iff (c := p.capturer o) hcwd .initial _ _ error

/-- **A dump fails without being told exactly if it cannot be reported on.** -/
theorem exists_untold_iff (hcwd : Path.isAbsolute p.disk.cwd = true) :
    (∃ error, p.captured o path = .error error ∧ error.isTold = false)
      ↔ p.Unreportable o path := by
  constructor
  · rintro ⟨error, hcaptured, htold⟩
    cases hread : p.disk.read path with
    | error fileError =>
      rw [captured_of_unreadable hread] at hcaptured
      cases hcaptured
      cases fileError with
      | system fault place => cases htold
      | unusable fault => exact .path ((p.disk.read_eq_unusable_iff path fault).1 hread)
    | ok bytes =>
      cases hdecode : Utf8.decode bytes with
      | error fault => exact .content hread hdecode
      | ok text =>
        obtain ⟨before, line, after, hlines, hline, hbefore⟩ :=
          (captured_eq_error_iff hcwd hread hdecode error).1 hcaptured
        exact .line hread hdecode hlines hbefore hline (hline.isTold_eq_false_iff.1 htold)
  · rintro (⟨h⟩ | ⟨hread, hdecode⟩ | ⟨hread, hdecode, hlines, hbefore, hline, herror⟩)
    · exact ⟨_, captured_of_unreadable ((p.disk.read_eq_unusable_iff path _).2 h), rfl⟩
    · obtain ⟨fault, hcaptured⟩ := exists_captured_of_undecodable hread hdecode
      exact ⟨_, hcaptured, rfl⟩
    · exact ⟨_, (captured_eq_error_iff hcwd hread hdecode _).2
        ⟨_, _, _, hlines, hline, hbefore⟩, hline.isTold_eq_false_iff.2 herror⟩

/-! ## Reports -/

/-- A run that is given a dump reports on its capture. -/
theorem runOptions_eq (p : Program) {o : Options} {path : Text} (hpath : path ≠ [])
    (ho : o.invocations? = some path) :
    p.runOptions o = report ((p.captured o path).mapError .assembly) := by
  obtain ⟨c, rest, rfl⟩ := List.exists_cons_of_ne_nil hpath
  rw [runOptions, ho, ← runAssembly_eq]

/-- A capture of a dump comes from no build, so that nothing is logged about one. -/
theorem report_of_captured {capture : Capture} (h : p.captured o path = .ok capture) :
    report (.ok capture) = { RunReport.ofCode RunReport.successCode [] with
      printed := capture.toJson.toLines ++ [char '\n'] } := by
  have hbuild : capture.build? = none := by
    obtain ⟨assembled, -, rfl⟩ := exists_of_map_eq_ok h
    rfl
  rw [report, hbuild]
  rfl

theorem report_of_told {error : AssemblyError} (h : error.isTold = true) :
    report (.error (.assembly error)) = RunReport.refused error.message := if_pos h

theorem report_of_untold {error : AssemblyError} (h : error.isTold = false) :
    report (.error (.assembly error)) = RunReport.broken (.capture (.assembly error)) :=
  if_neg (by rw [CaptureError.isTold, h]; exact Bool.false_ne_true)

/-- **A run that is given a dump ends with an exit code unless it cannot be reported on.** It ends
    with success and the capture printed, or with failure and the one error logged; only what cannot
    be reported on ends it without a code. -/
theorem runOptions_dump (p : Program) (o : Options) {path : Text}
    (hcwd : Path.isAbsolute p.disk.cwd = true) (hpath : path ≠ [])
    (ho : o.invocations? = some path) :
    ((∃ fault, (p.runOptions o).ending = .error fault) ↔ p.Unreportable o path)
      ∧ (¬ p.Unreportable o path →
        (∃ capture, p.captured o path = .ok capture
            ∧ p.runOptions o = { RunReport.ofCode RunReport.successCode [] with
              printed := capture.toJson.toLines ++ [char '\n'] })
          ∨ ∃ error, p.captured o path = .error error
            ∧ p.runOptions o = RunReport.refused error.message) := by
  rw [← exists_untold_iff hcwd, p.runOptions_eq hpath ho]
  cases hcaptured : p.captured o path with
  | ok capture =>
    rw [Except.mapError, report_of_captured hcaptured]
    refine ⟨⟨?_, ?_⟩, fun _ => Or.inl ⟨capture, rfl, rfl⟩⟩
    · rintro ⟨fault, ⟨⟩⟩
    · rintro ⟨error, ⟨⟩, -⟩
  | error error =>
    rw [Except.mapError]
    cases htold : error.isTold with
    | true =>
      rw [report_of_told htold]
      refine ⟨⟨?_, ?_⟩, fun _ => Or.inr ⟨error, rfl, rfl⟩⟩
      · rintro ⟨fault, ⟨⟩⟩
      · rintro ⟨_, ⟨⟩, huntold⟩
        rw [htold] at huntold
        cases huntold
    | false =>
      rw [report_of_untold htold]
      have huntold : ∃ e, (.error error : Except AssemblyError Capture) = .error e
          ∧ e.isTold = false :=
        ⟨error, rfl, htold⟩
      exact ⟨⟨fun _ => huntold, fun _ => ⟨_, rfl⟩⟩, fun hnot => absurd huntold hnot⟩

/-- A program that finds a dump with given content, and nothing else, in its directory. -/
def withDump (content : Bytes) : Program :=
  ⟨⟨FileTree.empty.add ["d.jsonl".toText] (.file content false), "/"⟩, [], "/tmp",
    fun _ => none, 1000, [], ⟨[], [], 0, none, 0⟩, none⟩

/-- A dump whose first line is no JSON ends a run with failure and one error logged. -/
theorem runOptions_dump_brace :
    let p := withDump [0x7B]
    let o : Options := { Options.default [] with invocations? := some "d.jsonl" }
    Path.isAbsolute p.disk.cwd = true ∧ ("d.jsonl" : Text) ≠ [] ∧ o.invocations? = some "d.jsonl"
      ∧ ¬ p.Unreportable o "d.jsonl"
      ∧ ∃ error, p.captured o "d.jsonl" = .error error
        ∧ p.runOptions o = RunReport.refused error.message := by
  intro p o
  have hcwd : Path.isAbsolute p.disk.cwd = true := by decide
  have hpath : ("d.jsonl" : Text) ≠ [] := by decide
  have ho : o.invocations? = some "d.jsonl" := rfl
  obtain ⟨hcode, hends⟩ := runOptions_dump p o hcwd hpath ho
  have hending : (p.runOptions o).ending = .ok RunReport.failureCode := by rfl
  have hreportable : ¬ p.Unreportable o "d.jsonl" := by
    intro hbroken
    obtain ⟨fault, hfault⟩ := hcode.2 hbroken
    rw [hending] at hfault
    cases hfault
  refine ⟨hcwd, hpath, ho, hreportable, ?_⟩
  rcases hends hreportable with ⟨capture, -, hreport⟩ | hrefused
  · rw [hreport] at hending
    cases hending
  · exact hrefused

/-- A dump of one byte that is no text ends a run without an exit code. -/
theorem run_undecodable :
    ¬ ∃ code, ((withDump [0xFF]).run ["--invocations", "d.jsonl"]).ending = .ok code := by
  have hending : ((withDump [0xFF]).run ["--invocations", "d.jsonl"]).ending
      = .error (.capture (.assembly (.dump (.undecodable ⟨.start, 0, 0xFF, 1⟩)))) := by
    rfl
  rw [hending]
  rintro ⟨code, ⟨⟩⟩

end Program

end CompileTrace
