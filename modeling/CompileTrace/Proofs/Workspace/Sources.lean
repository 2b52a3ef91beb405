import CompileTrace.Proofs.Text.Decoding
import CompileTrace.Proofs.Text.Newlines
import CompileTrace.Proofs.Traversal
import CompileTrace.Workspace.Source

set_option autoImplicit false

/-! # The texts of source files

A source file may be written with a byte order mark or without one, and its lines may end in any
way: it has the same text (`sourceText_sourceContent`). A content that no text was written as still
has a text without carriage returns, or it is refused, which happens exactly if the bytes after a
mark are not valid UTF-8 (`Disk.readSource_of_read`); a content that is only the beginning of a mark
counts as empty. -/

namespace CompileTrace

/-! ## Contents that write a text -/

/-- The content of a source file with a given text, with its lines ended in a given way, and with a
    mark or without one. -/
def sourceContent (ending : LineEnding) (marked : Bool) (s : Text) : Bytes :=
  (if marked then Utf8.byteOrderMark else []) ++ Utf8.encode (Text.withLineEnding ending s)

theorem head?_withLineEnding {ending : LineEnding} {s : Text} (h : s.head? ≠ some (char '\uFEFF')) :
    (Text.withLineEnding ending s).head? ≠ some (char '\uFEFF') := by
  cases s with
  | nil => simp [Text.withLineEnding]
  | cons c rest =>
    by_cases hfeed : c = '\n'
    · rw [hfeed, Text.withLineEnding_lineFeed]
      cases ending <;> simp [LineEnding.text]
    · rw [Text.withLineEnding_cons hfeed]
      exact h

theorem allChars_withLineEnding (ending : LineEnding) {s : Text} (h : s.AllChars) :
    (Text.withLineEnding ending s).AllChars := by
  intro c hc
  obtain ⟨d, hd, hc⟩ := List.mem_flatMap.1 hc
  by_cases hfeed : d = '\n'
  · rw [if_pos hfeed] at hc
    exact ending.allChars_text c hc
  · rw [if_neg hfeed, List.mem_singleton] at hc
    exact hc ▸ h d hd

theorem dropMark_sourceContent (ending : LineEnding) {marked : Bool} {s : Text}
    (hchars : s.AllChars) (h : marked = false → s.head? ≠ some (char '\uFEFF')) :
    Utf8.dropMark (sourceContent ending marked s)
      = Utf8.encode (Text.withLineEnding ending s) := by
  cases marked with
  | true => exact Utf8.dropMark_append _
  | false =>
    exact Utf8.dropMark_encode (allChars_withLineEnding ending hchars)
      (head?_withLineEnding (h rfl))

/-- **A text of characters is read back from every content that writes it.** -/
theorem sourceText_sourceContent (ending : LineEnding) {marked : Bool} {s : Text}
    (hchars : s.AllChars) (hreturn : char '\r' ∉ s)
    (hmark : marked = false → s.head? ≠ some (char '\uFEFF')) :
    sourceText (sourceContent ending marked s) = .ok s := by
  rw [sourceText, dropMark_sourceContent ending hchars hmark,
    Utf8.decode_encode (allChars_withLineEnding ending hchars)]
  show Except.ok (Text.withLineEnding ending s).unifyNewlines = Except.ok s
  rw [Text.unifyNewlines_withLineEnding ending hreturn]

/-! ## Contents of any kind -/

theorem return_notMem_sourceText {content : Bytes} {s : Text} (h : sourceText content = .ok s) :
    char '\r' ∉ s := by
  obtain ⟨t, -, rfl⟩ := exists_of_map_eq_ok h
  exact Text.return_notMem_unifyNewlines t

/-- **A content has no text exactly if it is not valid after a mark**, unless it is only the
    beginning of a mark. -/
theorem exists_sourceText_eq_error_iff {content : Bytes} :
    (∃ fault, sourceText content = .error fault)
      ↔ ¬ (content <+: Utf8.byteOrderMark ∧ content ≠ Utf8.byteOrderMark)
        ∧ ¬ (Utf8.afterMark content).toByteArray.IsValidUTF8 := by
  simp only [sourceText, map_eq_error_iff]
  exact Utf8.exists_decode_dropMark_eq_error_iff

namespace Disk

variable {disk : Disk} {path : Text} {content : Bytes}

/-- The text of a source file is that of its content. -/
theorem readSource_eq (h : disk.read path = .ok content) :
    disk.readSource path = (sourceText content).mapError (.undecodable path) := by
  simp only [readSource, h]
  cases sourceText content with
  | error fault => rfl
  | ok s => rfl

/-- **The text of a source file does not depend on its mark nor on how its lines end**, and every
    file has a text without carriage returns or is refused, exactly if what comes after its mark is
    not valid UTF-8. -/
theorem readSource_of_read (h : disk.read path = .ok content) :
    (∀ ending marked s, content = sourceContent ending marked s → s.AllChars → char '\r' ∉ s →
        (marked = false → s.head? ≠ some (char '\uFEFF')) → disk.readSource path = .ok s)
      ∧ ((∃ s, disk.readSource path = .ok s ∧ char '\r' ∉ s)
        ∨ ∃ fault, disk.readSource path = .error (.undecodable path fault))
      ∧ ((∃ fault, disk.readSource path = .error (.undecodable path fault))
        ↔ ¬ (content <+: Utf8.byteOrderMark ∧ content ≠ Utf8.byteOrderMark)
          ∧ ¬ (Utf8.afterMark content).toByteArray.IsValidUTF8) := by
  rw [readSource_eq h]
  refine ⟨?_, ?_, ?_⟩
  · rintro ending marked s rfl hchars hreturn hmark
    rw [sourceText_sourceContent ending hchars hreturn hmark]
    rfl
  · cases htext : sourceText content with
    | error fault => exact Or.inr ⟨fault, rfl⟩
    | ok s => exact Or.inl ⟨s, rfl, return_notMem_sourceText htext⟩
  · rw [← exists_sourceText_eq_error_iff]
    cases sourceText content with
    | error fault => simp [Except.mapError]
    | ok s => simp [Except.mapError]

/-- A source with a mark and line feeds after carriage returns, and one that breaks off inside a
    character. -/
def sourceDisk : Disk :=
  ⟨(FileTree.empty.add ["A.cs".toText]
      (.file [0xEF, 0xBB, 0xBF, 0xC3, 0xA9, 0x0D, 0x0A, 0xF0, 0x9F, 0x98, 0x80] false)).add
      ["B.cs".toText] (.file [0xEF, 0xBB, 0xBF, 0x61, 0xC3] false),
    "/"⟩

/-- The first source has its text, and the second one is not valid. -/
theorem readSource_of_read_broken :
    sourceDisk.read "A.cs" = .ok (sourceContent .returnAndLineFeed true "é\n😀")
      ∧ Text.AllChars "é\n😀" ∧ char '\r' ∉ ("é\n😀" : Text)
      ∧ sourceDisk.readSource "A.cs" = .ok "é\n😀"
      ∧ sourceDisk.read "B.cs" = .ok [0xEF, 0xBB, 0xBF, 0x61, 0xC3]
      ∧ ¬ (List.toByteArray [0x61, 0xC3]).IsValidUTF8 := by
  have hread : sourceDisk.read "A.cs" = .ok (sourceContent .returnAndLineFeed true "é\n😀") := by
    decide
  have hchars : Text.AllChars "é\n😀" := by decide
  have hreturn : char '\r' ∉ ("é\n😀" : Text) := by decide
  have hbroken : sourceDisk.read "B.cs" = .ok [0xEF, 0xBB, 0xBF, 0x61, 0xC3] := by decide
  have hfault : ∃ fault, sourceDisk.readSource "B.cs" = .error (.undecodable "B.cs" fault) :=
    ⟨⟨.ending, 1, 0xC3, 1⟩, by decide⟩
  refine ⟨hread, hchars, hreturn, ?_, hbroken, ?_⟩
  · exact (readSource_of_read hread).1 .returnAndLineFeed true "é\n😀" rfl hchars hreturn (by simp)
  · exact ((readSource_of_read hbroken).2.2.1 hfault).2

end Disk

end CompileTrace
