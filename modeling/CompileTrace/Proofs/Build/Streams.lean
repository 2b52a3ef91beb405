import CompileTrace.Build.Child
import CompileTrace.Proofs.Build.Steps
import CompileTrace.Proofs.Interleaving
import CompileTrace.Proofs.Text.Lines
import Mathlib.Data.List.Basic

set_option autoImplicit false

/-! # Two streams of output

A build writes lines to two streams, which are read at the same time. As long as all that is kept of
them fits, the captured output is an interleaving of what is kept of each, whatever the order in
which the lines arrive; and the diagnostics in it are an interleaving of those in each stream by
itself, so that the order changes nothing but their order (`Session.captured_interleaving`). For the
diagnostics of lines that are put together are those of the lines one after the other
(`Diagnostic.ofOutput_unlines`): a line that was read may have boundaries inside, but a line feed
parts it from the next.

What a process that is run writes arrives in one of these orders (`Child.lines_interleaving`). -/

namespace CompileTrace

/-! ## What is kept of a stream -/

/-- What is kept of a line that can be read: nothing of one that holds nothing, and else its text;
    of a text that is too long the first ten thousand characters and a mark. -/
def keptLine? (line : Bytes) : Option Text :=
  let text := Text.dropEndWhile (fun c => c = '\r' || c = '\n') (Utf8.decodeLossy line)
  if text.isAllBlank then none
  else if text.length ≤ 10000 then some text
  else some (text.take 10000 ++ "...[truncated]")

/-- What is kept of the lines of a stream. -/
def keptLines (stream : List Bytes) : List Text := stream.filterMap keptLine?

/-- The number of characters of lines. -/
def sizeOfLines : List Text → Nat
  | [] => 0
  | line :: rest => line.length + sizeOfLines rest

theorem sizeOfLines_of_perm {lines lines' : List Text} (h : lines.Perm lines') :
    sizeOfLines lines = sizeOfLines lines' := by
  induction h with
  | nil => rfl
  | cons line _ ih => rw [sizeOfLines, sizeOfLines, ih]
  | swap line line' rest =>
    simp only [sizeOfLines]
    omega
  | trans _ _ ih ih' => exact ih.trans ih'

/-- A line of at most ten thousand characters is kept as it is, and a longer one is cut there and
    marked. -/
theorem cutLine_eq (line : Text) :
    cutLine line = if line.length ≤ 10000 then line else line.take 10000 ++ "...[truncated]" := by
  rw [cutLine, lineLimit]
  by_cases hlong : 10000 < line.length
  · rw [if_pos hlong, if_neg (Nat.not_le.2 hlong)]
    rfl
  · rw [if_neg hlong, if_pos (Nat.not_lt.1 hlong)]

theorem map_cutLine_lineText? {readLimit : Nat} {line : Bytes} (h : line.length ≤ readLimit) :
    (lineText? readLimit line).map cutLine = keptLine? line := by
  rw [lineText?, if_neg (Nat.not_lt.2 h), keptLine?]
  dsimp only
  split
  · rfl
  · rw [Option.map_some, cutLine_eq]
    split <;> rfl

theorem map_cutLine_filterMap {readLimit : Nat} {lines : List Bytes}
    (h : ∀ line ∈ lines, line.length ≤ readLimit) :
    (lines.filterMap (lineText? readLimit)).map cutLine = keptLines lines := by
  rw [List.map_filterMap, keptLines]
  exact List.filterMap_congr (fun line hline => map_cutLine_lineText? (h line hline))

/-! ## The buffer -/

namespace OutputBuffer

/-- A line that fits is kept after the others. -/
theorem append_of_fits {buffer : OutputBuffer} {line : Text}
    (h : buffer.size + (cutLine line).length ≤ outputLimit) :
    (buffer.append line).lines = buffer.lines ++ [cutLine line]
      ∧ (buffer.append line).size = buffer.size + (cutLine line).length := by
  simp only [append, shrink, if_pos h, lines, List.reverse_cons, List.append_assoc, and_self]

/-- Lines that fit are all kept, in their order. -/
theorem lines_foldl_append {buffer : OutputBuffer} {added : List Text}
    (h : buffer.size + sizeOfLines (added.map cutLine) ≤ outputLimit) :
    (added.foldl append buffer).lines = buffer.lines ++ added.map cutLine := by
  induction added generalizing buffer with
  | nil => simp
  | cons line rest ih =>
    rw [List.map_cons, sizeOfLines] at h
    obtain ⟨hlines, hsize⟩ := @append_of_fits buffer line (by omega)
    have hrest : (buffer.append line).size + sizeOfLines (rest.map cutLine) ≤ outputLimit := by
      rw [hsize]
      omega
    rw [List.foldl_cons, ih hrest, hlines, List.append_assoc, List.map_cons, List.singleton_append]

end OutputBuffer

/-! ## Diagnostics line by line -/

namespace Diagnostic

/-- What the lines of a text report, faults included. -/
def reports (s : Text) : List (Except DiagnosticFault Diagnostic) :=
  s.lines.flatMap (fun line => (ofLine? line.trim).toList)

theorem ofOutput_eq_mapM (output : Text) : ofOutput output = (reports output).mapM id := by
  rw [ofOutput, reports, List.filterMap_map, List.filterMap_eq_flatMap_toList]
  rfl

/-- **Lines that are put together report what they report one after the other.** -/
theorem ofOutput_unlines (lines : List Text) :
    ofOutput (Text.unlines lines) = (lines.flatMap reports).mapM id := by
  rw [ofOutput_eq_mapM, reports, Text.flatMap_lines_unlines _ (by rfl)]
  rfl

end Diagnostic

/-! ## Captured output -/

/-- The events of lines that are read in an order. -/
def readingEvents (readLimit : Nat) (arrived : List Bytes) : List SessionEvent :=
  (arrived.filterMap (lineText? readLimit)).map .line

namespace Session

/-- The output of the running build so far. -/
def captured? (s : Session) : Option Text := s.running?.map (fun r => r.output.text)

/-- Lines that the running build writes go to its buffer and change nothing else. -/
theorem run_lines (setup : BuildSetup) {s : Session} {r : Running} (hrunning : s.running? = some r)
    (hlaunched : r.launched = true) (added : List Text) :
    s.run setup (added.map .line)
      = { s with
          running? := some { r with output := added.foldl OutputBuffer.append r.output } } := by
  induction added generalizing s r with
  | nil => simp [← hrunning]
  | cons line rest ih =>
    have hstep : s.step setup (.line line)
        = { s with running? := some { r with output := r.output.append line } } := by
      simp [step, hrunning, advance, hlaunched]
    rw [List.map_cons, run_cons, hstep,
      @ih _ { r with output := r.output.append line } rfl hlaunched]
    rfl

/-- What is captured of lines that all fit: what is kept of them, in the order in which they
    arrived. -/
theorem captured?_readingEvents (setup : BuildSetup) {s : Session} {r : Running}
    (hrunning : s.running? = some r) (hlaunched : r.launched = true) (hempty : r.output = .empty)
    {readLimit : Nat} {arrived : List Bytes} (hread : ∀ line ∈ arrived, line.length ≤ readLimit)
    (hfit : sizeOfLines (keptLines arrived) ≤ outputLimit) :
    (s.run setup (readingEvents readLimit arrived)).captured?
      = some (Text.unlines (keptLines arrived)) := by
  have hkept := map_cutLine_filterMap hread
  have hlines := @OutputBuffer.lines_foldl_append .empty (arrived.filterMap (lineText? readLimit))
    (by simpa [OutputBuffer.empty, hkept] using hfit)
  rw [readingEvents, run_lines setup hrunning hlaunched, captured?, Option.map_some, hempty,
    OutputBuffer.text, hlines, hkept]
  rfl

/-- **The order in which two streams arrive does not matter.** If what is kept of them fits, the
    captured output is an interleaving of what is kept of each; the diagnostics in it, if there is
    no fault, are an interleaving of those of each stream by itself; and then there is no fault in
    any other order either, and the diagnostics are the same but for their order. -/
theorem captured_interleaving (setup : BuildSetup) {s : Session} {r : Running}
    (hrunning : s.running? = some r) (hlaunched : r.launched = true) (hempty : r.output = .empty)
    {readLimit : Nat} {stdout stderr : List Bytes}
    (hread : ∀ line ∈ stdout ++ stderr, line.length ≤ readLimit)
    (hfit : sizeOfLines (keptLines stdout ++ keptLines stderr) ≤ outputLimit)
    {arrived : List Bytes} (harrived : Interleaving stdout stderr arrived) :
    ∃ kept, Interleaving (keptLines stdout) (keptLines stderr) kept
      ∧ (s.run setup (readingEvents readLimit arrived)).captured? = some (Text.unlines kept)
      ∧ ∀ found, Diagnostic.ofOutput (Text.unlines kept) = .ok found →
        (∃ ofStdout ofStderr,
          Diagnostic.ofOutput (Text.unlines (keptLines stdout)) = .ok ofStdout
            ∧ Diagnostic.ofOutput (Text.unlines (keptLines stderr)) = .ok ofStderr
            ∧ Interleaving ofStdout ofStderr found)
        ∧ ∀ arrived', Interleaving stdout stderr arrived' →
          ∃ output' found',
            (s.run setup (readingEvents readLimit arrived')).captured? = some output'
              ∧ Diagnostic.ofOutput output' = .ok found' ∧ found'.Perm found := by
  -- what is captured in one order or another
  have hcaptured : ∀ order, Interleaving stdout stderr order →
      Interleaving (keptLines stdout) (keptLines stderr) (keptLines order)
        ∧ (s.run setup (readingEvents readLimit order)).captured?
          = some (Text.unlines (keptLines order)) := by
    intro order horder
    have hkept := horder.filterMap keptLine?
    refine ⟨hkept, captured?_readingEvents setup hrunning hlaunched hempty
      (fun line hline => hread line (horder.perm.mem_iff.1 hline)) ?_⟩
    rwa [keptLines, sizeOfLines_of_perm hkept.perm]
  obtain ⟨hkept, houtput⟩ := hcaptured arrived harrived
  refine ⟨keptLines arrived, hkept, houtput, fun found hfound => ?_⟩
  rw [Diagnostic.ofOutput_unlines] at hfound
  obtain ⟨ofStdout, ofStderr, hstdout, hstderr, hmerged⟩ :=
    (hkept.flatMap Diagnostic.reports).mapM_ok hfound
  rw [Diagnostic.ofOutput_unlines, Diagnostic.ofOutput_unlines]
  refine ⟨⟨ofStdout, ofStderr, hstdout, hstderr, hmerged⟩, fun arrived' harrived' => ?_⟩
  obtain ⟨hkept', houtput'⟩ := hcaptured arrived' harrived'
  have hreports' := hkept'.flatMap Diagnostic.reports
  obtain ⟨found', hfound'⟩ := hreports'.exists_mapM hstdout hstderr
  refine ⟨_, found', houtput', by rw [Diagnostic.ofOutput_unlines, hfound'], ?_⟩
  -- both orders interleave the same two lists
  obtain ⟨ofStdout', ofStderr', hstdout', hstderr', hmerged'⟩ := hreports'.mapM_ok hfound'
  rw [hstdout] at hstdout'
  rw [hstderr] at hstderr'
  cases hstdout'
  cases hstderr'
  exact hmerged'.perm.trans hmerged.perm.symm

/-- The bytes of a line of plain characters. -/
def plainLine (text : Text) : Bytes := text.map (fun c => c.toNat.toUInt8)

/-- An error and a line that holds nothing on one stream, a warning on the other. -/
theorem captured_interleaving_two :
    let error := plainLine "A.cs(1,2): error E1: m\r"
    let empty := plainLine " "
    let warning := plainLine "warning W1: n"
    let s := start.run plainSetup [.submit plainRequest, .launch]
    ∃ kept found, Interleaving (keptLines [error, empty]) (keptLines [warning]) kept
      ∧ (s.run plainSetup (readingEvents 100 [error, warning, empty])).captured?
        = some (Text.unlines kept)
      ∧ Text.unlines kept = "A.cs(1,2): error E1: m\nwarning W1: n".toText
      ∧ Diagnostic.ofOutput (Text.unlines kept) = .ok found
      ∧ found.map Diagnostic.message = ["m".toText, "n".toText]
      ∧ ∃ ofStdout ofStderr,
        Diagnostic.ofOutput (Text.unlines (keptLines [error, empty])) = .ok ofStdout
          ∧ Diagnostic.ofOutput (Text.unlines (keptLines [warning])) = .ok ofStderr
          ∧ Interleaving ofStdout ofStderr found := by
  intro error empty warning s
  have hlaunched : s.running?.any (fun r => r.launched && decide (r.output = .empty)) = true := by
    decide +kernel
  have hwhole : (s.run plainSetup (readingEvents 100 [error, warning, empty])).captured?
      = some "A.cs(1,2): error E1: m\nwarning W1: n".toText := by
    decide +kernel
  have hparse : (Diagnostic.ofOutput "A.cs(1,2): error E1: m\nwarning W1: n".toText).toOption.map
      (List.map Diagnostic.message) = some ["m".toText, "n".toText] := by
    decide +kernel
  obtain ⟨r, hrunning, hr⟩ := Option.any_eq_true .. |>.1 hlaunched
  rw [Bool.and_eq_true, decide_eq_true_eq] at hr
  have hread : ∀ line ∈ [error, empty] ++ [warning], line.length ≤ 100 := by decide +kernel
  have hfit : sizeOfLines (keptLines [error, empty] ++ keptLines [warning]) ≤ outputLimit := by
    decide +kernel
  obtain ⟨kept, hkept, hcaptured, hdiagnostics⟩ := captured_interleaving plainSetup hrunning hr.1
    hr.2 hread hfit (.left (.right (.left .nil)))
  have htext : Text.unlines kept = "A.cs(1,2): error E1: m\nwarning W1: n".toText :=
    Option.some.inj (hcaptured.symm.trans hwhole)
  rw [← htext] at hparse
  cases hfound : Diagnostic.ofOutput (Text.unlines kept) with
  | error fault => simp [hfound, Except.toOption] at hparse
  | ok found =>
    rw [hfound] at hparse
    exact ⟨kept, found, hkept, hcaptured, htext, hfound, Option.some.inj hparse,
      (hdiagnostics found hfound).1⟩

end Session

/-! ## Processes that are run -/

/-- Before the line that is left open there is nothing, or something up to a line feed. -/
theorem exists_append_openLine (stream : Bytes) :
    ∃ written, stream = written ++ openLine stream
      ∧ (written = [] ∨ ∃ before, written = before ++ [10]) := by
  refine ⟨(stream.reverse.dropWhile (· != 10)).reverse, ?_, ?_⟩
  · rw [openLine, ← List.reverse_append, List.takeWhile_append_dropWhile, List.reverse_reverse]
  · cases hrest : stream.reverse.dropWhile (· != 10) with
    | nil => exact .inl rfl
    | cons b rest =>
      have hb := List.head?_dropWhile_not (· != 10) stream.reverse
      have hfeed : b = 10 := by simpa [hrest] using hb
      exact .inr ⟨rest.reverse, by rw [hfeed, List.reverse_cons]⟩

/-- A stream that is cut at its open line says nothing else than as a whole. -/
theorem streamLines_splitOpenLine (readLimit : Nat) (stream : Bytes) :
    streamLines readLimit (splitOpenLine readLimit stream).1
        ++ streamLines readLimit (splitOpenLine readLimit stream).2
      = streamLines readLimit stream := by
  have hnothing : streamLines readLimit [] = [] := rfl
  obtain ⟨written, hstream, hwritten⟩ := exists_append_openLine stream
  generalize hopen : openLine stream = opened at hstream
  rw [splitOpenLine, hopen]
  split
  · rw [hnothing, List.append_nil]
  · have htake : stream.take (stream.length - opened.length) = written := by
      rw [hstream, List.length_append, Nat.add_sub_cancel, List.take_left]
    rw [htake, hstream]
    rcases hwritten with rfl | ⟨before, rfl⟩
    · rw [hnothing, List.nil_append, List.nil_append]
    · have hfields := fun after => fields_append_sep (· == (10 : UInt8)) before after 10 rfl
      have hend : List.filterMap (lineText? readLimit) (fields (· == (10 : UInt8)) []) = [] := rfl
      rw [List.append_assoc, List.singleton_append, streamLines, streamLines, streamLines, hfields,
        hfields, List.filterMap_append, List.filterMap_append, hend, List.append_nil]

/-- The lines that a process writes arrive in some order of the two streams. -/
theorem Child.lines_interleaving (readLimit : Nat) (child : Child) :
    Interleaving (streamLines readLimit child.stdout) (streamLines readLimit child.stderr)
      (child.lines readLimit) := by
  rw [← streamLines_splitOpenLine readLimit child.stdout,
    ← streamLines_splitOpenLine readLimit child.stderr, lines]
  simp only [List.flatMap_cons, List.flatMap_nil, List.append_nil]
  rw [← List.append_assoc]
  exact (Interleaving.of_append _ _).append (Interleaving.of_append _ _)

end CompileTrace
