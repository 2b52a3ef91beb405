import CompileTrace.Invocation.Dump
import CompileTrace.Proofs.Json.Objects
import CompileTrace.Proofs.Text.Newlines
import CompileTrace.Proofs.Text.Trimming
import CompileTrace.Proofs.Text.Utf8

set_option autoImplicit false

/-! # Dumps that are written and read

A dump is read line by line, each on its own (`ofContent_eq_lines`). An invocation is written on a
line of printable ASCII, and the line is read as its record (`entry_line`). So a file with a line
for each of some invocations, whatever newlines end them and whatever blank lines stand between
them, is read as those invocations (`readDump_write`). -/

namespace CompileTrace

/-! ## Lines of a dump -/

namespace Dump

/-- What a numbered line of a dump gives, unless it is blank. -/
def readLine? (levels : Nat) (path : Text) (line : Text × Nat) :
    Option (Except DumpError Record) :=
  if line.1.trim.isEmpty then none else some (entry levels path line.2 line.1.trim)

/-- What a line of a dump has to read: its text without the blanks around it, if there is any. -/
def content (line : Text) : List Text := if line.trim.isEmpty then [] else [line.trim]

theorem content_nil : content [] = [] := rfl

/-- A content that is a text is read line by line. -/
theorem ofContent_eq_lines (levels : Nat) (path : Text) {bytes : Bytes} {text : Text}
    (h : Utf8.decode bytes = .ok text) :
    ofContent levels path bytes = (text.fileLines.zipIdx 1).filterMap (readLine? levels path) := by
  rw [ofContent, h]
  rfl

/-- Lines that are read alike under each number are read one by one. -/
theorem filterMap_readLine? (levels : Nat) (path : Text) (lines : List Text) (first : Nat)
    {read : Text → Except DumpError Record}
    (h : ∀ text ∈ lines.flatMap content, ∀ number, entry levels path number text = read text) :
    (lines.zipIdx first).filterMap (readLine? levels path) = (lines.flatMap content).map read := by
  induction lines generalizing first with
  | nil => rfl
  | cons line rest ih =>
    rw [List.flatMap_cons] at h
    have hrest := ih (first + 1) (fun text htext => h text (List.mem_append_right _ htext))
    rw [List.zipIdx_cons, List.flatMap_cons, List.map_append, ← hrest]
    by_cases hblank : line.trim.isEmpty = true
    · have hline : readLine? levels path (line, first) = none := if_pos hblank
      rw [List.filterMap_cons_none hline, content, if_pos hblank, List.map_nil, List.nil_append]
    · have hline : readLine? levels path (line, first)
          = some (entry levels path first line.trim) := if_neg hblank
      have hcontent : content line = [line.trim] := if_neg hblank
      have hread := h line.trim (by rw [hcontent]; simp) first
      rw [List.filterMap_cons_some hline, hread, hcontent, List.map_singleton,
        List.singleton_append]

end Dump

/-! ## The line of an invocation -/

namespace Invocation

/-- The line that an invocation is written on. -/
def line (i : Invocation) : Text := i.record.toJson.toLine

/-- The names of the members with the texts of an invocation. -/
def members (i : Invocation) : List (Text × Text) :=
  [("language", i.language), ("projectFilePath", i.projectFile),
   ("projectDirectory", i.projectDirectory), ("commandLineArguments", i.commandLine)]

/-- Whether no text of an invocation has halves that make a pair. -/
structure Unpaired (i : Invocation) : Prop where
  language : i.language.Unpaired
  projectFile : i.projectFile.Unpaired
  projectDirectory : i.projectDirectory.Unpaired
  commandLine : i.commandLine.Unpaired

/-- Whether the texts of an invocation have characters only. -/
structure AllChars (i : Invocation) : Prop where
  language : i.language.AllChars
  projectFile : i.projectFile.AllChars
  projectDirectory : i.projectDirectory.AllChars
  commandLine : i.commandLine.AllChars

theorem AllChars.unpaired {i : Invocation} (h : i.AllChars) : i.Unpaired :=
  ⟨h.language.unpaired, h.projectFile.unpaired, h.projectDirectory.unpaired,
    h.commandLine.unpaired⟩

theorem line_eq (i : Invocation) : i.line = (Json.ofTextMembers i.members).toLine := rfl

theorem Unpaired.members {i : Invocation} (h : i.Unpaired) :
    ∀ m ∈ i.members, Json.UnpairedMember m := by
  intro m hm
  simp only [Invocation.members, List.mem_cons, List.not_mem_nil, or_false] at hm
  rcases hm with rfl | rfl | rfl | rfl
  · exact ⟨(Text.allChars_ofChars _).unpaired, h.language⟩
  · exact ⟨(Text.allChars_ofChars _).unpaired, h.projectFile⟩
  · exact ⟨(Text.allChars_ofChars _).unpaired, h.projectDirectory⟩
  · exact ⟨(Text.allChars_ofChars _).unpaired, h.commandLine⟩

theorem isPlainAscii_of_mem_line {i : Invocation} {c : CodePoint} (h : c ∈ i.line) :
    Json.isPlainAscii c = true := by
  rw [line_eq] at h
  exact Json.isPlainAscii_of_mem_toLine h

theorem allChars_line (i : Invocation) : i.line.AllChars := by
  intro c hc
  have hplain := isPlainAscii_of_mem_line hc
  simp only [Json.isPlainAscii, Bool.and_eq_true, decide_eq_true_eq] at hplain
  rw [Bool.eq_false_iff, Ne, CodePoint.isHalf_iff]
  omega

/-- The line of an invocation has no newline. -/
theorem isNewline_of_mem_line {i : Invocation} {c : CodePoint} (h : c ∈ i.line) :
    Text.isNewline c = false := by
  have hplain := isPlainAscii_of_mem_line h
  simp only [Json.isPlainAscii, Bool.and_eq_true, decide_eq_true_eq] at hplain
  rw [Text.isNewline, Bool.or_eq_false_iff, beq_eq_false_iff_ne, beq_eq_false_iff_ne]
  constructor
  · rintro rfl
    exact absurd hplain.1 (by decide)
  · rintro rfl
    exact absurd hplain.1 (by decide)

/-- The line of an invocation stands between braces. -/
theorem exists_line_eq (i : Invocation) :
    ∃ inner, i.line = char '\x7b' :: (inner ++ [char '\x7d']) := by
  rw [line_eq, members, Json.toLine_ofTextMembers, ← List.append_assoc]
  exact ⟨_, rfl⟩

theorem trim_line (i : Invocation) : i.line.trim = i.line := by
  obtain ⟨inner, hline⟩ := i.exists_line_eq
  rw [Text.trim_eq_self_iff, hline, List.head?_cons, ← List.cons_append, List.getLast?_concat]
  constructor
  · rintro c ⟨⟩
    decide
  · rintro c ⟨⟩
    decide

theorem content_line (i : Invocation) : Dump.content i.line = [i.line] := by
  obtain ⟨inner, hline⟩ := i.exists_line_eq
  have hne : ¬ i.line.isEmpty = true := by
    rw [hline]
    exact Bool.false_ne_true
  rw [Dump.content, trim_line, if_neg hne]

/-- **The line of an invocation is read as its record.** -/
theorem entry_line (i : Invocation) (h : i.Unpaired) {levels : Nat} (hlevels : 0 < levels)
    (path : Text) (number : Nat) : Dump.entry levels path number i.line = .ok i.record := by
  rw [Dump.entry, line_eq, Json.read_toLine hlevels i.members h.members]
  rfl

end Invocation

/-! ## Writing a dump -/

namespace Dump

/-- What stands on a line of a dump that is written: an invocation, or nothing but blanks. -/
inductive Line
  | invocation (i : Invocation)
  | blank (s : Text) (h : s.isAllBlank = true)

def Line.text : Line → Text
  | invocation i => i.line
  | blank s _ => s

def Line.invocation? : Line → Option Invocation
  | invocation i => some i
  | blank _ _ => none

/-- The text of a dump with given lines, each with what ends it. -/
def write (lines : List (Line × LineEnding)) : Text := lines.flatMap (fun l => l.1.text ++ l.2.text)

/-- The invocations that stand on the lines of a dump, in order. -/
def invocations (lines : List (Line × LineEnding)) : List Invocation :=
  lines.filterMap (fun l => l.1.invocation?)

theorem content_of_isAllBlank {s : Text} (h : s.isAllBlank = true) : content s = [] := by
  have hstart : s.trimStart = [] := List.dropWhile_eq_nil_iff.2 (List.all_eq_true.1 h)
  rw [content, Text.trim, hstart]
  rfl

/-- A blank text has nothing to read, however many lines it makes. -/
theorem contents_of_isAllBlank (s : Text) (h : s.isAllBlank = true) :
    s.fileLines.flatMap content = [] := by
  by_cases hnewline : ∃ c ∈ s, Text.isNewline c = true
  · -- the newline parts the text into two that are blank and shorter
    obtain ⟨c, hmem, hc⟩ := hnewline
    obtain ⟨before, after, hsplit⟩ := List.append_of_mem hmem
    have hlength : s.length = before.length + (after.length + 1) := by
      rw [hsplit, List.length_append, List.length_cons]
    have hboth : Text.isAllBlank before = true ∧ Text.isAllBlank after = true := by
      rw [hsplit] at h
      simp only [Text.isAllBlank, List.all_append, List.all_cons, Bool.and_eq_true] at h
      exact ⟨h.1, h.2.2⟩
    rw [hsplit, Text.flatMap_fileLines_append content content_nil hc,
      contents_of_isAllBlank before hboth.1, contents_of_isAllBlank after hboth.2, List.append_nil]
  · have hnone : ∀ c ∈ s, Text.isNewline c = false := fun c hc =>
      Bool.eq_false_iff.2 (fun htrue => hnewline ⟨c, hc, htrue⟩)
    rw [Text.fileLines_eq_singleton hnone, List.flatMap_singleton, content_of_isAllBlank h]
termination_by s.length

/-- Whatever ends a line, what follows it is read on its own. -/
theorem contents_append (ending : LineEnding) (s t : Text) :
    (s ++ (ending.text ++ t)).fileLines.flatMap content
      = s.fileLines.flatMap content ++ t.fileLines.flatMap content := by
  have hfeed := Text.flatMap_fileLines_append content content_nil (c := '\n') rfl
  have hreturn := Text.flatMap_fileLines_append content content_nil (c := '\r') rfl
  cases ending with
  | lineFeed => exact hfeed s t
  | carriageReturn => exact hreturn s t
  | returnAndLineFeed =>
    -- the empty text between the two has nothing to read
    have hnext : (Text.fileLines (char '\n' :: t)).flatMap content = t.fileLines.flatMap content :=
      hfeed [] t
    exact (hreturn s (char '\n' :: t)).trans (by rw [hnext])

theorem contents_text (l : Line) :
    l.text.fileLines.flatMap content = l.invocation?.toList.map Invocation.line := by
  cases l with
  | invocation i =>
    have hline : i.line.fileLines = [i.line] :=
      Text.fileLines_eq_singleton (fun c hc => Invocation.isNewline_of_mem_line hc)
    rw [Line.text, hline, List.flatMap_singleton, Invocation.content_line]
    rfl
  | blank s h => exact contents_of_isAllBlank s h

/-- No blank is half of a pair. -/
theorem allChars_of_isAllBlank {s : Text} (h : s.isAllBlank = true) : s.AllChars := by
  intro c hc
  have hblank : isBlank c = true := List.all_eq_true.1 h c hc
  obtain ⟨range, hrange, hbounds⟩ := (inRanges_iff blankRanges c).1 hblank
  have hall : ∀ range ∈ blankRanges, range.2 < 0xD800 := by decide
  have hbelow := hall range hrange
  rw [Bool.eq_false_iff, Ne, CodePoint.isHalf_iff]
  omega

/-- A dump that is written has characters only. -/
theorem allChars_write (lines : List (Line × LineEnding)) : (write lines).AllChars := by
  intro c hc
  obtain ⟨⟨line, ending⟩, -, hc⟩ := List.mem_flatMap.1 hc
  have hline : line.text.AllChars := by
    cases line with
    | invocation i => exact i.allChars_line
    | blank s h => exact allChars_of_isAllBlank h
  exact Text.allChars_append.2 ⟨hline, ending.allChars_text⟩ c hc

/-- The lines of the invocations are all that there is to read. -/
theorem contents_write (lines : List (Line × LineEnding)) {rest : Text}
    (hrest : rest.isAllBlank = true) :
    (write lines ++ rest).fileLines.flatMap content = (invocations lines).map Invocation.line := by
  induction lines with
  | nil => exact contents_of_isAllBlank rest hrest
  | cons l others ih =>
    have hinvocations :
        invocations (l :: others) = l.1.invocation?.toList ++ invocations others := by
      cases hl : l.1.invocation? with
      | none => exact List.filterMap_cons_none hl
      | some i => exact List.filterMap_cons_some hl
    have hwrite : write (l :: others) ++ rest
        = l.1.text ++ (l.2.text ++ (write others ++ rest)) := by
      rw [write, List.flatMap_cons, List.append_assoc, List.append_assoc]
      rfl
    rw [hwrite, contents_append, contents_text, ih, hinvocations, List.map_append]

end Dump

/-- **A dump is read as the invocations that it was written with**, whatever characters their texts
    have, in their order, whatever newlines end its lines and whatever blank lines stand between
    them and after them. -/
theorem Disk.readDump_write (disk : Disk) {levels : Nat} (hlevels : 0 < levels) (path : Text)
    (lines : List (Dump.Line × LineEnding)) (rest : Text) (hrest : rest.isAllBlank = true)
    (hchars : ∀ i ∈ Dump.invocations lines, i.AllChars)
    (hfile : disk.read path = .ok (Utf8.encode (Dump.write lines ++ rest))) :
    disk.readDump levels path = Recording.ofInvocations (Dump.invocations lines) := by
  have hcontents := Dump.contents_write lines hrest
  have hdecode := Utf8.decode_encode
    (Text.allChars_append.2 ⟨Dump.allChars_write lines, Dump.allChars_of_isAllBlank hrest⟩)
  have hline : ∀ i ∈ Dump.invocations lines, ∀ number,
      Dump.entry levels path number i.line = .ok i.record :=
    fun i hi => i.entry_line (hchars i hi).unpaired hlevels path
  have hentries : ∀ text ∈ (Dump.write lines ++ rest).fileLines.flatMap Dump.content, ∀ number,
      Dump.entry levels path number text = Dump.entry levels path 1 text := by
    intro text htext number
    rw [hcontents] at htext
    obtain ⟨i, hi, rfl⟩ := List.mem_map.1 htext
    rw [hline i hi, hline i hi]
  rw [Disk.readDump, hfile]
  dsimp only
  rw [Dump.ofContent_eq_lines levels path hdecode,
    Dump.filterMap_readLine? levels path _ 1 hentries, hcontents, List.map_map,
    Recording.ofInvocations]
  exact List.map_congr_left (fun i hi => hline i hi 1)

/-- Two invocations with newlines, quotes, line separators and characters for private use in their
    texts, and two blank lines. -/
def Dump.mixedLines : List (Dump.Line × LineEnding) :=
  [(.blank " \u3000" (by decide), .carriageReturn),
   (.invocation ⟨csharp, "/a\r\nb.csproj", " /\u2028 ", "csc \"😀\" \\\x0c"⟩, .returnAndLineFeed),
   (.blank [] rfl, .lineFeed),
   (.invocation ⟨"é\x7f", Text.ofChars [Char.ofNat 0x10D800, Char.ofNat 0x10DC00], "\uFEFF", []⟩,
      .carriageReturn)]

/-- The two invocations of a file with blank lines of all kinds are read. -/
theorem Disk.readDump_mixedLines :
    let disk : Disk := ⟨FileTree.empty.add ["log".toText]
      (.file (Utf8.encode (Dump.write Dump.mixedLines ++ "\u0085\t".toText)) false), "/"⟩
    0 < 100 ∧ Text.isAllBlank "\u0085\t" = true
      ∧ (∀ i ∈ Dump.invocations Dump.mixedLines, i.AllChars)
      ∧ disk.read "/log" = .ok (Utf8.encode (Dump.write Dump.mixedLines ++ "\u0085\t".toText))
      ∧ disk.readDump 100 "/log"
          = Recording.ofInvocations (Dump.invocations Dump.mixedLines) := by
  intro disk
  have hblank : Text.isAllBlank "\u0085\t" = true := by decide
  have hchars : ∀ i ∈ Dump.invocations Dump.mixedLines, i.AllChars := by
    intro i hi
    simp only [Dump.invocations, Dump.mixedLines, List.filterMap_cons, Dump.Line.invocation?,
      List.filterMap_nil, List.mem_cons, List.not_mem_nil, or_false] at hi
    rcases hi with rfl | rfl
    · exact ⟨by decide, by decide, by decide, by decide⟩
    · exact ⟨by decide, by decide, by decide, by decide⟩
  have hread : disk.read "/log"
      = .ok (Utf8.encode (Dump.write Dump.mixedLines ++ "\u0085\t".toText)) := by
    rfl
  exact ⟨by decide, hblank, hchars, hread,
    disk.readDump_write (by decide) "/log" Dump.mixedLines "\u0085\t" hblank hchars hread⟩

end CompileTrace
